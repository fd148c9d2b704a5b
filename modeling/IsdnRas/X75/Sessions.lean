import IsdnRas.Library.Runs
import IsdnRas.X75.Traffic

/-!
# Sessions

A connection begins and ends in state 0. Nothing is left over from one
connection to the next when both queues are empty in state 0. Every way into
state 0 empties them except one: `x75DisconnectRequest` in state 1, where the
link waits to be set up again after a FRMR and the frames of the connection have
been queued again. Runs that disconnect there only with empty queues have empty
queues in state 0 and never carry a payload into a later connection
(`sessions_apart`).
-/

set_option autoImplicit false

namespace IsdnRas.X75

/-! ## Empty queues -/

/-- Both queues are empty. -/
def QueuesEmpty (x75 : X75Cb) : Prop := x75.writeQueue.msgs = [] ∧ x75.ackQueue.msgs = []

instance (x75 : X75Cb) : Decidable (QueuesEmpty x75) := inferInstanceAs (Decidable (_ ∧ _))

/-- The link is disconnected or about to be. -/
def Released (x75 : X75Cb) : Prop := x75.state = .state0 ∨ x75.state = .state2

/-- The operation does not disconnect from state 1 with messages in a queue. -/
def LeavesNothing (x75 : X75Cb) (op : Op) : Prop :=
  op = .disconnectRequest → x75.state = .state1 → QueuesEmpty x75

instance (x75 : X75Cb) (op : Op) : Decidable (LeavesNothing x75 op) :=
  inferInstanceAs (Decidable (_ → _))

section Step

variable {x75 before sent : X75Cb} {op : Op}

theorem QueuesEmpty.of_same (same : SameTraffic x75 before) (empty : QueuesEmpty x75) :
    QueuesEmpty before := by
  rwa [QueuesEmpty, same.writeQueue, same.ackQueue]

theorem queuesEmpty_change (empty : Released x75 → QueuesEmpty x75)
    (leaves : LeavesNothing x75 op) (change : TrafficChange x75 op before)
    (released : Released before) : QueuesEmpty before := by
  have apart : ∀ state, before.state = state → state ≠ .state0 → state ≠ .state2 → False := by
    rintro _ rfl not0 not2
    exact released.elim not0 not2
  cases change with
  | kept same move =>
      refine QueuesEmpty.of_same same ?_
      rcases move with still | ⟨-, four⟩ | ⟨two, -⟩ | ⟨-, one⟩ | ⟨one, disconnects, -⟩
      · exact empty (by rwa [Released, ← still])
      · exact (apart _ four (by simp) (by simp)).elim
      · exact empty (.inr two)
      · exact (apart _ one (by simp) (by simp)).elim
      · exact leaves disconnects one
  | accepted skb connected =>
      have state : x75.state ≠ .state0 ∧ x75.state ≠ .state2 := by
        rcases connected with three | four <;> simp [*]
      exact (apart _ rfl state.1 state.2).elim
  | purged _ same => exact QueuesEmpty.of_same same ⟨rfl, rfl⟩
  | setUp _ _ state => exact (apart _ state (by simp) (by simp)).elim
  | acked _ _ _ _ _ _ state => exact (apart _ state (by simp) (by simp)).elim
  | requeued _ _ _ _ _ state =>
      rcases state with three | one
      · exact (apart _ three (by simp) (by simp)).elim
      · exact (apart _ one (by simp) (by simp)).elim
  | parameters => exact empty released
  | registered => exact ⟨rfl, rfl⟩

/-- `x75Kick` sends nothing from an empty queue. -/
theorem kick_of_empty (empty : QueuesEmpty before) (kicked : KickChange before sent) :
    sent = before := by
  cases kicked with
  | none => rfl
  | sent _ count =>
      have le := count.le_length
      have positive := count.positive
      simp only [empty.1, List.length_nil] at le
      omega

/-- An operation that leaves nothing leaves empty queues in state 0. -/
theorem queuesEmpty_step {after : X75Cb} (wellFormed : x75.WellFormed)
    (empty : Released x75 → QueuesEmpty x75) (leaves : LeavesNothing x75 op)
    (taken : exec x75 op = some after) (released : Released after) : QueuesEmpty after := by
  obtain ⟨before, sent, change, kicked, same, still⟩ := exec_change wellFormed taken
  have beforeReleased : Released before := by rwa [Released, ← kicked.state, ← still]
  have beforeEmpty := queuesEmpty_change empty leaves change beforeReleased
  obtain rfl := kick_of_empty beforeEmpty kicked
  exact beforeEmpty.of_same same

end Step

/-! ## Where payloads come from -/

/-- Everything in the queues was accepted since `start`. -/
def QueuedSince (start x75 : X75Cb) : Prop :=
  ∃ accepted, acceptedOf x75.events = acceptedOf start.events ++ accepted ∧
    ∀ skb ∈ x75.writeQueue.msgs ++ x75.ackQueue.msgs, skb ∈ accepted

section Origin

variable {start x75 before sent after : X75Cb} {op : Op}

theorem QueuedSince.of_same (same : SameTraffic x75 after) (queued : QueuedSince start x75) :
    QueuedSince start after := by
  rwa [QueuedSince, same.acceptedOf_eq, same.writeQueue, same.ackQueue]

/-- Moving messages between the queues or dropping them. -/
theorem QueuedSince.of_subset (queued : QueuedSince start x75)
    (accepted : acceptedOf after.events = acceptedOf x75.events)
    (subset : ∀ skb ∈ after.writeQueue.msgs ++ after.ackQueue.msgs,
      skb ∈ x75.writeQueue.msgs ++ x75.ackQueue.msgs) : QueuedSince start after := by
  obtain ⟨since, reads, member⟩ := queued
  exact ⟨since, accepted.trans reads, fun skb here => member skb (subset skb here)⟩

theorem QueuedSince.change (queued : QueuedSince start x75)
    (change : TrafficChange x75 op before) : QueuedSince start before := by
  cases change with
  | kept same => exact queued.of_same same
  | accepted skb =>
      obtain ⟨since, reads, member⟩ := queued
      refine ⟨since ++ [skb], ?_, ?_⟩
      · rw [enqueueData, acceptedOf_append, reads, List.append_assoc]
        rfl
      · intro msg here
        simp only [enqueueData, CountedQueue.enqueue_msgs, List.mem_append,
          List.mem_singleton] at here member ⊢
        have := member msg
        tauto
  | purged _ same =>
      refine QueuedSince.of_same same (queued.of_subset ?_ ?_)
      · simp [acceptedOf]
      · simp
  | setUp _ same => exact QueuedSince.of_same same (queued.of_subset rfl fun _ here => here)
  | acked frame _ _ _ _ same =>
      refine QueuedSince.of_same same (queued.of_subset (acceptedOf_acknowledge _ _) ?_)
      intro skb here
      simp only [acknowledge_writeQueue, acknowledge_ackQueue_msgs, List.mem_append] at here ⊢
      exact here.imp_right List.mem_of_mem_drop
  | @requeued _ rounds _ vs va _ _ same =>
      refine QueuedSince.of_same same (queued.of_subset (acceptedOf_acknowledge x75 rounds) ?_)
      intro skb here
      simp only [requeued_writeQueue_msgs, requeued_ackQueue_msgs, acknowledge_writeQueue,
        acknowledge_ackQueue_msgs, List.append_nil, List.mem_append] at here ⊢
      exact here.imp_right List.mem_of_mem_drop
  | parameters => exact queued.of_subset rfl fun _ here => here
  | registered =>
      refine queued.of_subset rfl ?_
      simp [x75Register]

theorem QueuedSince.kick (queued : QueuedSince start before) (kicked : KickChange before sent) :
    QueuedSince start sent := by
  refine queued.of_subset kicked.acceptedOf_eq fun skb here => ?_
  cases kicked with
  | none => exact here
  | sent _ _ same =>
      simp only [same.writeQueue, same.ackQueue, sendFirst_writeQueue_msgs,
        sendFirst_ackQueue_msgs, List.mem_append] at here ⊢
      rcases here with dropped | old | taken
      · exact .inl (List.mem_of_mem_drop dropped)
      · exact .inr old
      · exact .inl (List.mem_of_mem_take taken)

theorem queuedSince_step (wellFormed : x75.WellFormed) (queued : QueuedSince start x75)
    (taken : exec x75 op = some after) : QueuedSince start after := by
  obtain ⟨before, sent, change, kicked, same, -⟩ := exec_change wellFormed taken
  exact ((queued.change change).kick kicked).of_same same

/-- No change carries a payload; `x75Kick` does. -/
theorem carriedOf_change (change : TrafficChange x75 op before) :
    carriedOf x75.extended before.events = carriedOf x75.extended x75.events := by
  cases change with
  | kept same => exact same.carriedOf_eq
  | accepted => simp [enqueueData, carriedOf]
  | purged _ same =>
      refine same.carriedOf_eq.trans ?_
      simp [carriedOf]
  | setUp _ same => exact same.carriedOf_eq
  | acked _ _ _ _ _ same => exact same.carriedOf_eq.trans (carriedOf_acknowledge ..)
  | requeued _ _ _ _ same => exact same.carriedOf_eq.trans (carriedOf_acknowledge ..)
  | parameters => rfl
  | registered => rfl

/-- The operations that may change the mode record no event. -/
theorem mode_change (change : TrafficChange x75 op before) :
    before.mode = x75.mode ∨ ∀ after, exec x75 op = some after → after.events = x75.events := by
  cases change with
  | kept same | purged _ same | setUp _ same | acked _ _ _ _ _ same | requeued _ _ _ _ same =>
      exact .inl same.mode
  | accepted => exact .inl rfl
  | @parameters parms =>
      refine .inr fun after taken => ?_
      obtain rfl := Option.some.inj taken
      unfold x75Setparms
      split
      · rfl
      split
      · rfl
      · dsimp only
        split <;> rfl
  | registered =>
      refine .inr fun after taken => ?_
      obtain rfl := Option.some.inj taken
      rfl

/-- `x75Kick` carries payloads from the write queue. -/
theorem carriedOf_kick (kicked : KickChange before sent) :
    ∃ payloads, carriedOf before.extended sent.events =
        carriedOf before.extended before.events ++ payloads ∧
      ∀ skb ∈ payloads, skb ∈ before.writeQueue.msgs := by
  cases kicked with
  | none => exact ⟨[], (List.append_nil _).symm, by simp⟩
  | @sent k _ _ _ same =>
      refine ⟨_, (same.carriedOf_eq.trans (carriedOf_append ..)), fun skb member => ?_⟩
      obtain ⟨event, sent, payload⟩ := List.mem_filterMap.mp member
      obtain ⟨number, msg, inQueue, rfl⟩ := mem_iframesFrom sent
      have read := iframePayload_iframe
        { { before with vs := kickStart before } with vs := number } msg
        (x75Address before x75Command)
      obtain rfl : msg = skb := Option.some.inj (read.symm.trans payload)
      exact List.mem_of_mem_take inQueue

/-- What an operation carries has been accepted since `start`. -/
theorem carriedOf_step (wellFormed : x75.WellFormed) (queued : QueuedSince start x75)
    (taken : exec x75 op = some after) :
    ∃ payloads, carriedOf x75.extended after.events =
        carriedOf x75.extended x75.events ++ payloads ∧
      ∃ accepted, acceptedOf after.events = acceptedOf start.events ++ accepted ∧
        ∀ skb ∈ payloads, skb ∈ accepted := by
  obtain ⟨before, sent, change, kicked, same, -⟩ := exec_change wellFormed taken
  obtain ⟨since, reads, inside⟩ := queued.change change
  have accepted : acceptedOf after.events = acceptedOf start.events ++ since := by
    rw [same.acceptedOf_eq, kicked.acceptedOf_eq, reads]
  rcases mode_change change with mode | silent
  · obtain ⟨payloads, carried, member⟩ := carriedOf_kick kicked
    have last := same.carriedOf_eq
    have changed := carriedOf_change change
    simp only [X75Cb.extended, kicked.mode, mode] at last carried changed
    refine ⟨payloads, ?_, since, accepted, fun skb here =>
      inside skb (List.mem_append_left _ (member skb here))⟩
    exact last.trans (carried.trans (congrArg (· ++ payloads) changed))
  · exact ⟨[], by rw [silent after taken, List.append_nil], since, accepted, by simp⟩

end Origin

/-! ## Runs -/

/-- The invariant of runs that leave nothing. -/
theorem queuesEmpty_of_reached {callbacks : RegisterStruct} {x75 : X75Cb}
    (reached : Reached exec LeavesNothing (x75Register zeroed callbacks) x75) :
    x75.WellFormed ∧ (Released x75 → QueuesEmpty x75) :=
  reached.invariant (fun x75 => x75.WellFormed ∧ (Released x75 → QueuesEmpty x75))
    ⟨wellFormed_register _ _, fun _ => ⟨rfl, rfl⟩⟩
    fun _ inv leaves taken =>
      ⟨inv.1.step taken, queuesEmpty_step inv.1 inv.2 leaves taken⟩

/-- From state 0 on, the queues hold what was accepted from then on. -/
theorem queuedSince_of_reached {start x75 : X75Cb} (wellFormed : start.WellFormed)
    (empty : QueuesEmpty start) (reached : Reached exec LeavesNothing start x75) :
    x75.WellFormed ∧ start.events <+: x75.events ∧ QueuedSince start x75 := by
  refine reached.invariant (fun x75 => x75.WellFormed ∧ start.events <+: x75.events ∧
    QueuedSince start x75) ⟨wellFormed, List.prefix_rfl, [], by simp, ?_⟩ ?_
  · simp [empty.1, empty.2]
  · rintro state next op ⟨wellFormed, grown, queued⟩ - taken
    exact ⟨wellFormed.step taken, grown.trans (exec_events wellFormed taken),
      queuedSince_step wellFormed queued taken⟩

/-- **Sessions are apart.** In runs that never disconnect from state 1 with
messages in a queue, both queues are empty in state 0. Everything an operation
carries in I-frames after a visit of state 0 was accepted after that visit. -/
theorem sessions_apart {callbacks : RegisterStruct} {start x75 : X75Cb}
    (first : Reached exec LeavesNothing (x75Register zeroed callbacks) start)
    (disconnected : start.state = .state0) (later : Reached exec LeavesNothing start x75) :
    (x75.state = .state0 → QueuesEmpty x75) ∧
      ∀ op next, exec x75 op = some next → ∃ earlier new,
        x75.events = start.events ++ earlier ∧ next.events = x75.events ++ new ∧
          ∀ skb ∈ carriedOf x75.extended new, skb ∈ acceptedOf (earlier ++ new) := by
  obtain ⟨startWell, startEmpty⟩ := queuesEmpty_of_reached first
  have empty := (queuesEmpty_of_reached (first.trans later)).2
  obtain ⟨wellFormed, ⟨earlier, before⟩, queued⟩ :=
    queuedSince_of_reached startWell (startEmpty (.inl disconnected)) later
  refine ⟨fun zero => empty (.inl zero), fun op next taken => ?_⟩
  obtain ⟨new, after⟩ := exec_events wellFormed taken
  obtain ⟨payloads, carried, accepted, reads, inside⟩ := carriedOf_step wellFormed queued taken
  refine ⟨earlier, new, before.symm, after.symm, fun skb here => ?_⟩
  rw [← after, carriedOf_append] at carried
  rw [← after, ← before, acceptedOf_append, acceptedOf_append, List.append_assoc] at reads
  rw [acceptedOf_append, List.append_cancel_left reads]
  rw [List.append_cancel_left carried] at here
  exact inside skb here

/-- A payload is sent, and the connection is released from both sides. -/
theorem sessions_apart_disc :
    ∃ x75, runOps exec (x75Register zeroed .all) [.dataReceived [0x01, 0x3F] .zero,
        .dataRequest [0x41], .disconnectRequest, .dataReceived [0x03, 0x73] .zero] = some x75 ∧
      (x75.state = .state0 → QueuesEmpty x75) ∧
      ∀ op next, exec x75 op = some next → ∃ earlier new,
        x75.events = x75.events ++ earlier ∧ next.events = x75.events ++ new ∧
          ∀ skb ∈ carriedOf x75.extended new, skb ∈ acceptedOf (earlier ++ new) := by
  have meets : MeetsAlong exec LeavesNothing (x75Register zeroed .all)
      [.dataReceived [0x01, 0x3F] .zero, .dataRequest [0x41], .disconnectRequest,
        .dataReceived [0x03, 0x73] .zero] := by decide
  exact ⟨_, rfl, sessions_apart (reached_of_meetsAlong _ .refl meets rfl) rfl .refl⟩

/-- **Disconnecting from state 1 leaves the queue.** A payload is sent, the peer
sends a FRMR, and the payload is sent again while the link is set up anew. The
owner disconnects and the peer connects. A REJ then brings the payload into the
new connection, in which nothing was accepted. -/
theorem disconnect_leaves_payload :
    ∃ x75 next, runOps exec (x75Register zeroed .all) [.dataReceived [0x01, 0x3F] .zero,
        .dataRequest [0x41], .dataReceived [0x01, 0x87] .zero, .disconnectRequest] = some x75 ∧
      x75.state = .state0 ∧ ¬ QueuesEmpty x75 ∧
      runOps exec x75 [.dataReceived [0x01, 0x3F] .zero, .dataReceived [0x01, 0x09] .zero] =
        some next ∧
      acceptedOf (next.events.drop x75.events.length) = [] ∧
      carriedOf x75.extended (next.events.drop x75.events.length) = [[0x41]] :=
  ⟨_, _, rfl, rfl, by decide, rfl, rfl, rfl⟩

end IsdnRas.X75
