import IsdnRas.X75.QueueCounts

/-!
# The acknowledgement window

The acknowledgement queue holds the frames numbered from V(A) up to V(S). Its
length is then the distance of the two variables, the window bounds it, and the
message at position `i` is the one that was sent as number V(A) + `i`.

Two slips break this. A UA in state 1 and a SABM(E) in states 0 and 4 set the
variables to zero and leave the queue as it is. And a counter that a purge has
left behind makes `x75Kick` number new frames from V(S) when it should start at
V(A). In runs without these two the relation holds in every connection
(`ack_window`).
-/

set_option autoImplicit false

namespace IsdnRas.X75

/-! ## The relation -/

/-- The payload was transmitted in an I-frame with N(S) equal to `number`. -/
def CarriedAs (x75 : X75Cb) (number : Nat) (skb : Bytes) : Prop :=
  ∃ sender : X75Cb, sender.mode = x75.mode ∧ sender.vs = number ∧
    ∃ addr, .dataTransmit (addr :: iframeField sender skb x75Polloff) ∈ x75.events

/-- The unacknowledged messages are those numbered from V(A) up to V(S). -/
structure AckWindow (x75 : X75Cb) : Prop where
  length_eq : x75.ackQueue.msgs ≠ [] →
    x75.ackQueue.msgs.length = seqDist x75.modulus x75.va x75.vs
  length_le : x75.ackQueue.msgs.length ≤ x75.window
  carried : x75.callbacks.dataTransmit = true → ∀ i skb, x75.ackQueue.msgs[i]? = some skb →
    CarriedAs x75 ((x75.va + i) % x75.modulus) skb

section Relation

variable {x75 after : X75Cb}

theorem CarriedAs.of_same (same : SameTraffic x75 after) {number : Nat} {skb : Bytes}
    (carried : CarriedAs x75 number skb) : CarriedAs after number skb := by
  obtain ⟨sender, mode, vs, addr, member⟩ := carried
  refine ⟨sender, mode.trans same.mode.symm, vs, addr, (same.mem_iff ?_).mpr member⟩
  have payload := iframePayload_iframe sender skb addr
  rw [X75Cb.extended, mode] at payload
  simp only [Event.isLoud, X75Cb.extended, payload, Option.isSome_some]

/-- Later events do not undo a transmission. -/
theorem CarriedAs.mono (events : x75.events ⊆ after.events) (mode : after.mode = x75.mode)
    {number : Nat} {skb : Bytes} (carried : CarriedAs x75 number skb) :
    CarriedAs after number skb := by
  obtain ⟨sender, same, vs, addr, member⟩ := carried
  exact ⟨sender, same.trans mode.symm, vs, addr, events member⟩

theorem AckWindow.of_same (same : SameTraffic x75 after) (window : AckWindow x75) :
    AckWindow after where
  length_eq := by
    rw [same.ackQueue, same.va, same.vs, same.modulus]
    exact window.length_eq
  length_le := by
    rw [same.ackQueue, same.window]
    exact window.length_le
  carried := by
    rw [same.callbacks, same.ackQueue, same.va, same.modulus]
    exact fun installed i skb read => (window.carried installed i skb read).of_same same

/-- An empty queue satisfies the relation. -/
theorem ackWindow_of_empty (empty : x75.ackQueue.msgs = []) : AckWindow x75 where
  length_eq := fun waiting => absurd empty waiting
  length_le := by simp [empty]
  carried := fun _ i skb read => by simp [empty] at read

/-- V(S) lies as many steps after V(A) as there are messages. -/
theorem AckWindow.vs_eq (window : AckWindow x75) (waiting : x75.ackQueue.msgs ≠ [])
    (va_lt : x75.va < x75.modulus) (vs_lt : x75.vs < x75.modulus) :
    x75.vs = (x75.va + x75.ackQueue.msgs.length) % x75.modulus := by
  rw [window.length_eq waiting, add_seqDist va_lt vs_lt]

/-- Releasing messages from the head. -/
theorem AckWindow.acknowledge (window : AckWindow x75) (va_lt : x75.va < x75.modulus)
    (vs_lt : x75.vs < x75.modulus) {rounds : Nat} (le : rounds ≤ x75.ackQueue.msgs.length) :
    AckWindow (X75.acknowledge x75 rounds) where
  length_eq := by
    intro waiting
    have before : x75.ackQueue.msgs ≠ [] := by
      intro empty
      exact waiting (by simp [empty])
    have inside : rounds ≤ seqDist x75.modulus x75.va x75.vs := by
      rw [← window.length_eq before]
      exact le
    rw [acknowledge_ackQueue_msgs, List.length_drop, window.length_eq before]
    exact (seqDist_advance va_lt vs_lt inside).symm
  length_le := by
    have := window.length_le
    simp only [acknowledge_ackQueue_msgs, List.length_drop, acknowledge_window]
    omega
  carried := by
    intro installed i skb read
    rw [acknowledge_ackQueue_msgs, List.getElem?_drop] at read
    have carried := window.carried installed (rounds + i) skb read
    have walk : (x75.va + (rounds + i)) % x75.modulus =
        ((x75.va + rounds) % x75.modulus + i) % x75.modulus := by
      rw [Nat.mod_add_mod, Nat.add_assoc]
    rw [walk] at carried
    have grown : x75.events ⊆ (X75.acknowledge x75 rounds).events := List.subset_append_left ..
    exact carried.mono grown rfl

/-- Sending from V(S) when it lies as many steps after V(A) as there are
messages: the loop stops before the window is exceeded. -/
theorem AckWindow.sendFirst {k : Nat} (window : AckWindow x75) (va_lt : x75.va < x75.modulus)
    (window_lt : x75.window < x75.modulus)
    (aligned : x75.vs = (x75.va + x75.ackQueue.msgs.length) % x75.modulus)
    (ready : x75.vs ≠ kickStop x75) (count : KickCount x75 (kickStop x75) k) :
    AckWindow (X75.sendFirst x75 k) := by
  have within := count.within_window aligned window.length_le ready
  have taken : (x75.writeQueue.msgs.take k).length = k := by
    rw [List.length_take, Nat.min_eq_left count.le_length]
  have length : (X75.sendFirst x75 k).ackQueue.msgs.length = x75.ackQueue.msgs.length + k := by
    rw [sendFirst_ackQueue_msgs, List.length_append, taken]
  refine ⟨fun _ => ?_, ?_, ?_⟩
  · rw [length]
    change _ = seqDist x75.modulus x75.va ((x75.vs + k) % x75.modulus)
    rw [vs_walk aligned]
    exact (seqDist_add va_lt (by omega)).symm
  · rw [length]
    exact within
  · intro installed i skb read
    have grown : x75.events ⊆ (X75.sendFirst x75 k).events := List.subset_append_left ..
    rw [sendFirst_ackQueue_msgs] at read
    by_cases old : i < x75.ackQueue.msgs.length
    · rw [List.getElem?_append_left old] at read
      exact (window.carried installed i skb read).mono grown rfl
    · rw [List.getElem?_append_right (by omega)] at read
      have vs_lt : x75.vs < x75.modulus := aligned ▸ Nat.mod_lt _ (modulus_pos x75.mode)
      have installed' : x75.callbacks.dataTransmit = true := installed
      have member := iframesFrom_mem installed' vs_lt read
      rw [vs_walk aligned, Nat.add_sub_cancel' (by omega)] at member
      exact ⟨{ x75 with vs := (x75.va + i) % x75.modulus }, rfl, rfl, _,
        List.mem_append_right _ member⟩

end Relation

/-! ## Runs -/

/-- The link is set up only when nothing is unacknowledged, and in a connection
the counter of the acknowledgement queue is exact when the operation starts. -/
def KeepsWindow (x75 : X75Cb) (op : Op) : Prop :=
  (OpSetsUp x75 op → x75.ackQueue.msgs = []) ∧ (x75.Connected → x75.ackQueue.Exact)

instance (x75 : X75Cb) (op : Op) : Decidable (KeepsWindow x75 op) :=
  inferInstanceAs (Decidable (_ ∧ _))

/-- What `x75Kick` needs to keep the relation: it starts to send where the
numbers of the acknowledgement queue end. -/
structure ReadyToKick (x75 : X75Cb) : Prop extends AckWindow x75 where
  va_lt : x75.va < x75.modulus
  window_lt : x75.window < x75.modulus
  start : kickStart x75 = (x75.va + x75.ackQueue.msgs.length) % x75.modulus

section Step

variable {x75 before sent : X75Cb} {op : Op}

theorem ReadyToKick.of_same (same : SameTraffic x75 before) (ready : ReadyToKick x75) :
    ReadyToKick before where
  toAckWindow := ready.toAckWindow.of_same same
  va_lt := by
    rw [same.va, same.modulus]
    exact ready.va_lt
  window_lt := by
    rw [same.window, same.modulus]
    exact ready.window_lt
  start := by
    rw [kickStart, same.ackQueue, same.va, same.vs, same.modulus]
    exact ready.start

/-- Nothing is unacknowledged, and the counter says so or both variables are
equal. -/
theorem readyToKick_of_empty (empty : x75.ackQueue.msgs = []) (va_lt : x75.va < x75.modulus)
    (window_lt : x75.window < x75.modulus) (counted : x75.ackQueue.count = 0 ∨ x75.vs = x75.va) :
    ReadyToKick x75 where
  toAckWindow := ackWindow_of_empty empty
  va_lt := va_lt
  window_lt := window_lt
  start := by
    rw [empty, List.length_nil, Nat.add_zero, Nat.mod_eq_of_lt va_lt, kickStart]
    split
    · rfl
    · exact counted.resolve_left ‹_›

/-- An exact counter starts `x75Kick` at the right number. -/
theorem AckWindow.readyToKick (window : AckWindow x75) (wellFormed : x75.WellFormed)
    (connected : x75.Connected) (ack : x75.ackQueue.Exact) : ReadyToKick x75 where
  toAckWindow := window
  va_lt := (wellFormed.sequence connected).2.2
  window_lt := wellFormed.window_lt
  start := by
    obtain ⟨vs_lt, -, va_lt⟩ := wellFormed.sequence connected
    rw [kickStart]
    split
    case isTrue zero =>
        rw [ack.count_eq_zero_iff.mp zero, List.length_nil, Nat.add_zero, Nat.mod_eq_of_lt va_lt]
    case isFalse counted => exact window.vs_eq (ack.ne_nil counted) va_lt vs_lt

/-- A valid N(R) releases the frames up to it and no others. -/
theorem ackRounds_eq_seqDist (window : AckWindow x75) (wellFormed : x75.WellFormed)
    (connected : x75.Connected) (ack : x75.ackQueue.Exact) {nr : Nat} (nr_lt : nr < x75.modulus)
    (valid : x75ValidateNr x75 nr = true) (waiting : x75.ackQueue.msgs ≠ []) :
    ackRounds x75 nr = seqDist x75.modulus x75.va nr := by
  obtain ⟨vs_lt, -, va_lt⟩ := wellFormed.sequence connected
  have within := (x75ValidateNr_iff va_lt vs_lt nr_lt).mp valid
  have length := window.length_eq waiting
  rw [ackRounds, if_pos (Nat.le_of_eq ack), ack]
  omega

/-- Every change but the purge of `x75Unregister`, after which nothing is sent. -/
theorem AckWindow.change (wellFormed : x75.WellFormed) (window : x75.Connected → AckWindow x75)
    (keeps : KeepsWindow x75 op) (staying : op ≠ .unregister) (change : TrafficChange x75 op before)
    (connected : before.Connected) : ReadyToKick before := by
  have apart : ∀ state, before.state = state → state ≠ .state3 → state ≠ .state4 → False := by
    rintro _ rfl not3 not4
    exact connected.elim not3 not4
  have ready : x75.Connected → ReadyToKick x75 := fun connected =>
    (window connected).readyToKick wellFormed connected (keeps.2 connected)
  cases change with
  | kept same move =>
      refine (ready ?_).of_same same
      rcases move with still | ⟨three, -⟩ | ⟨-, zero⟩ | ⟨-, one⟩ | ⟨-, -, zero⟩
      · rwa [X75Cb.Connected, still] at connected
      · exact .inl three
      · exact (apart _ zero (by simp) (by simp)).elim
      · exact (apart _ one (by simp) (by simp)).elim
      · exact (apart _ zero (by simp) (by simp)).elim
  | accepted skb connected =>
      have ready := ready connected
      refine ⟨⟨ready.length_eq, ready.length_le, fun installed i msg read => ?_⟩, ready.va_lt,
        ready.window_lt, ready.start⟩
      have grown : x75.events ⊆ (enqueueData x75 skb).events := List.subset_append_left ..
      exact (ready.carried installed i msg read).mono grown rfl
  | purged purges same state =>
      rcases state with zero | two | ⟨leaving, -⟩
      · exact (apart _ zero (by simp) (by simp)).elim
      · exact (apart _ two (by simp) (by simp)).elim
      · exact absurd leaving staying
  | setUp setsUp same =>
      refine ReadyToKick.of_same same (readyToKick_of_empty (keeps.1 setsUp)
        (modulus_pos x75.mode) wellFormed.window_lt (.inr rfl))
  | acked frame three _ _ _ same =>
      obtain ⟨vs_lt, -, va_lt⟩ := wellFormed.sequence (.inl three)
      have ack := keeps.2 (.inl three)
      have le := ackRounds_le ack frame.nr
      have after := (window (.inl three)).acknowledge va_lt vs_lt le
      exact ReadyToKick.of_same same (after.readyToKick (wellFormed.acknowledge (.inl three) _)
        (.inl three) (exact_acknowledge ack le))
  | requeued vs va va_lt requeues same =>
      have ack := keeps.2 (.inl (requeueRounds_cases requeues).1)
      have le := requeueRounds_le ack requeues
      have emptied := exact_requeued (exact_acknowledge ack le) vs va
      exact ReadyToKick.of_same same (readyToKick_of_empty rfl va_lt wellFormed.window_lt
        (.inl (emptied.count_eq_zero_iff.mpr rfl)))
  | parameters mode window _ _ _ kept =>
      have zero : x75.state ≠ .state0 := fun zero => apart _ zero (by simp) (by simp)
      obtain ⟨rfl, rfl⟩ := kept.resolve_left zero
      have ready := ready connected
      exact ⟨⟨ready.length_eq, ready.length_le, ready.carried⟩, ready.va_lt, ready.window_lt,
        ready.start⟩
  | registered => exact (apart _ rfl (by simp [x75Register]) (by simp [x75Register])).elim

/-- `x75Kick` keeps the relation. -/
theorem ReadyToKick.kick (ready : ReadyToKick before) (kicked : KickChange before sent) :
    AckWindow sent := by
  cases kicked with
  | none => exact ready.toAckWindow
  | sent mayStart count same =>
      have bound := ready.length_le
      have window_lt := ready.window_lt
      have started : AckWindow { before with vs := kickStart before } := by
        refine ⟨fun _ => ?_, ready.length_le, ready.carried⟩
        rw [ready.start]
        exact (seqDist_add ready.va_lt (Nat.lt_of_le_of_lt bound window_lt)).symm
      exact (started.sendFirst ready.va_lt window_lt ready.start mayStart.2.1 count).of_same same

/-- One operation keeps the relation in every connection. -/
theorem ackWindow_step {after : X75Cb} (wellFormed : x75.WellFormed)
    (window : x75.Connected → AckWindow x75) (keeps : KeepsWindow x75 op)
    (taken : exec x75 op = some after) : after.Connected → AckWindow after := by
  intro connected
  by_cases leaving : op = .unregister
  · subst leaving
    obtain rfl := Option.some.inj taken
    exact ackWindow_of_empty rfl
  · obtain ⟨before, sent, change, kicked, same, still⟩ := exec_change wellFormed taken
    have beforeConnected : before.Connected := by
      rwa [X75Cb.Connected, ← kicked.state, ← still]
    have ready := AckWindow.change wellFormed window keeps leaving change beforeConnected
    exact (ready.kick kicked).of_same same

end Step

/-- The invariant of runs without the two slips. -/
theorem ackWindow_of_reached {callbacks : RegisterStruct} {x75 : X75Cb}
    (reached : Reached exec KeepsWindow (x75Register zeroed callbacks) x75) :
    x75.WellFormed ∧ (x75.Connected → AckWindow x75) := by
  refine reached.invariant (fun x75 => x75.WellFormed ∧ (x75.Connected → AckWindow x75))
    ⟨wellFormed_register _ _, fun _ => ackWindow_of_empty rfl⟩ ?_
  rintro state next op ⟨wellFormed, window⟩ keeps taken
  exact ⟨wellFormed.step taken, ackWindow_step wellFormed window keeps taken⟩

/-- **The acknowledgement window.** After every operation that leaves the link in
a connection with frames unacknowledged, their number is the distance from V(A)
to V(S) and at most the window, and the one at position `i` was transmitted with
the number V(A) + `i`. This holds in runs that set the link up only when nothing
is unacknowledged and that start no operation of a connection with an inexact
counter. -/
theorem ack_window {callbacks : RegisterStruct} {x75 : X75Cb}
    (reached : Reached exec KeepsWindow (x75Register zeroed callbacks) x75)
    (connected : x75.Connected) (waiting : x75.ackQueue.msgs ≠ []) :
    x75.ackQueue.msgs.length = seqDist x75.modulus x75.va x75.vs ∧
      x75.ackQueue.msgs.length ≤ x75.window ∧
      (x75.callbacks.dataTransmit = true → ∀ i skb, x75.ackQueue.msgs[i]? = some skb →
        CarriedAs x75 ((x75.va + i) % x75.modulus) skb) := by
  have window := (ackWindow_of_reached reached).2 connected
  exact ⟨window.length_eq waiting, window.length_le, window.carried⟩

/-- Two frames are sent and the first is acknowledged. -/
theorem ack_window_rr :
    ∃ x75, runOps exec (x75Register zeroed .all) [.dataReceived [0x01, 0x3F] .zero,
        .dataRequest [0x41], .dataRequest [0x42], .dataReceived [0x01, 0x21] .zero] = some x75 ∧
      x75.ackQueue.msgs = [[0x42]] ∧
      (x75.ackQueue.msgs.length = seqDist x75.modulus x75.va x75.vs ∧
        x75.ackQueue.msgs.length ≤ x75.window ∧
        (x75.callbacks.dataTransmit = true → ∀ i skb, x75.ackQueue.msgs[i]? = some skb →
          CarriedAs x75 ((x75.va + i) % x75.modulus) skb)) := by
  have meets : MeetsAlong exec KeepsWindow (x75Register zeroed .all)
      [.dataReceived [0x01, 0x3F] .zero, .dataRequest [0x41], .dataRequest [0x42],
        .dataReceived [0x01, 0x21] .zero] := by decide
  exact ⟨_, rfl, rfl, ack_window (reached_of_meetsAlong _ .refl meets rfl) (by decide)
    (by decide)⟩

/-- **A reset from state 4 keeps the frames and forgets their numbers.** A frame
is sent, a frame with an invalid N(R) leads to state 4, and the peer resets the
link. One frame is unacknowledged, and V(S) equals V(A). -/
theorem reset_breaks_window :
    ∃ x75, runOps exec (x75Register zeroed .all) [.dataReceived [0x01, 0x3F] .zero,
        .dataRequest [0x41], .dataReceived [0x01, 0xA1] .zero,
        .dataReceived [0x01, 0x3F] .zero] = some x75 ∧
      x75.state = .state3 ∧ x75.ackQueue.msgs = [[0x41]] ∧
        seqDist x75.modulus x75.va x75.vs = 0 :=
  ⟨_, rfl, rfl, rfl, rfl⟩

end IsdnRas.X75
