import IsdnRas.Library.Runs
import IsdnRas.X75.Traffic

/-!
# Flow control in `yate_x75`

The process of `yate_x75.c` runs one control block with all call-backs. It hands
what it reads from the telnet connection to `x75DataRequest` only while the counter
of the write queue is at most `x75FlowControlMaxWriteQueue`. So one message more
than that may wait, and a window of frames may be unacknowledged.

The bound rests on the window: the acknowledgement queue holds no more messages than
there are numbers from V(A) to V(S), and these are at most a window. Counters that a
purge has left too high do no harm here. A link that is set up with frames still
unacknowledged does: the numbers start again and the frames stay
(`reset_exceeds_bound`). In runs without that, the bound holds (`held_bounded`).
-/

set_option autoImplicit false

namespace IsdnRas.X75

/-! ## The process -/

def x75FlowControlMaxWriteQueue : UInt32 := 8

def x75CanWrite (x75 : X75Cb) : Bool :=
  if x75.state ≠ .state3 ∧ x75.state ≠ .state4 then false
  else if x75.writeQueue.count > x75FlowControlMaxWriteQueue then false
  else true

/-- The telnet connection can be read. `read` is what the read returns; nothing is
read when the connection has ended. -/
def telnetRxCb (x75 : X75Cb) (read : Bytes) : Option X75Cb :=
  if x75CanWrite x75 = false then some x75
  else if read = [] then some x75
  else (x75DataRequest x75 read).map Prod.snd

/-- What may happen to the process. -/
inductive YateOp where
  | telnetRx (read : Bytes)
  | received (skb : Bytes) (stack : X75Frame)
  | disconnectClose
  | t1Expiry
  | t2Expiry
deriving Repr, DecidableEq

/-- The operation on the control block. -/
def YateOp.toOp : YateOp → Op
  | .telnetRx read => .dataRequest read
  | .received skb stack => .dataReceived skb stack
  | .disconnectClose => .disconnectRequest
  | .t1Expiry => .t1Expiry
  | .t2Expiry => .t2Expiry

/-- One step of the process. -/
def yateStep (x75 : X75Cb) (op : YateOp) : Option X75Cb :=
  match op with
  | .telnetRx read => telnetRxCb x75 read
  | _ => exec x75 op.toOp

/-- A step is an operation on the control block, and a request is made only when the
process may write. -/
theorem yateStep_cases {x75 after : X75Cb} {op : YateOp} (taken : yateStep x75 op = some after) :
    after = x75 ∨ exec x75 op.toOp = some after ∧
      (op.toOp.isRequest = true → x75CanWrite x75 = true) := by
  cases op with
  | telnetRx read =>
      simp only [yateStep, telnetRxCb] at taken
      split at taken
      · exact .inl (Option.some.inj taken).symm
      case isFalse writes =>
          split at taken
          · exact .inl (Option.some.inj taken).symm
          · exact .inr ⟨taken, fun _ => Bool.eq_true_of_not_eq_false writes⟩
  | received | disconnectClose | t1Expiry | t2Expiry =>
      exact .inr ⟨taken, fun request => by cases request⟩

theorem x75CanWrite_iff (x75 : X75Cb) :
    x75CanWrite x75 = true ↔ x75.Connected ∧ x75.writeQueue.count.toNat ≤ 8 := by
  have count : ¬ x75.writeQueue.count > x75FlowControlMaxWriteQueue ↔
      x75.writeQueue.count.toNat ≤ 8 := by
    rw [gt_iff_lt, UInt32.lt_iff_toNat_lt]
    exact Nat.not_lt
  unfold x75CanWrite X75Cb.Connected
  split
  case isTrue apart => simp [apart]
  case isFalse connected =>
      have state : x75.state = .state3 ∨ x75.state = .state4 := by
        by_contra neither
        exact connected (not_or.mp neither)
      rw [← count]
      split <;> simp_all

/-! ## The acknowledgement queue inside the window -/

/-- No more messages are unacknowledged than there are numbers from V(A) to V(S), and
these are at most a window. -/
structure InWindow (x75 : X75Cb) : Prop where
  length_le : x75.ackQueue.msgs.length ≤ seqDist x75.modulus x75.va x75.vs
  dist_le : seqDist x75.modulus x75.va x75.vs ≤ x75.window

namespace InWindow

variable {x75 after : X75Cb}

theorem of_fields (inWindow : InWindow x75) (mode : after.mode = x75.mode)
    (window : after.window = x75.window) (vs : after.vs = x75.vs) (va : after.va = x75.va)
    (ackQueue : after.ackQueue = x75.ackQueue) : InWindow after := by
  constructor
  · rw [X75Cb.modulus, ackQueue, mode, va, vs]
    exact inWindow.length_le
  · rw [X75Cb.modulus, window, mode, va, vs]
    exact inWindow.dist_le

/-- Nothing is unacknowledged and both variables are zero. -/
theorem of_reset (empty : x75.ackQueue.msgs = []) (vs : x75.vs = 0) (va : x75.va = 0) :
    InWindow x75 := by
  constructor <;> rw [vs, va, seqDist_self]
  · rw [empty]
    exact Nat.le_refl 0
  · exact Nat.zero_le _

/-- Releasing messages advances V(A) by at least as much. -/
theorem acknowledge (inWindow : InWindow x75) (inModulus : x75.InModulus) {rounds : Nat}
    (le : rounds ≤ seqDist x75.modulus x75.va x75.vs) : InWindow (acknowledge x75 rounds) := by
  have dist := seqDist_advance inModulus.2.2 inModulus.1 le
  have length_le := inWindow.length_le
  have dist_le := inWindow.dist_le
  constructor
  · rw [acknowledge_ackQueue_msgs, List.length_drop]
    change _ ≤ seqDist x75.modulus ((x75.va + rounds) % x75.modulus) x75.vs
    omega
  · change seqDist x75.modulus ((x75.va + rounds) % x75.modulus) x75.vs ≤ x75.window
    omega

/-- Queueing everything again leaves the variables. -/
theorem requeue (inWindow : InWindow x75) : InWindow (x75RequeueFrames x75) := by
  rw [x75RequeueFrames_eq]
  exact ⟨Nat.zero_le _, inWindow.dist_le⟩

/-- `x75Kick` sends up to the end of the window. A counter that is too high makes it
start at V(S), a counter that is zero at V(A). -/
theorem kick (inWindow : InWindow x75) (covers : x75.ackQueue.Covers)
    (inModulus : x75.InModulus) (window_lt : x75.window < x75.modulus)
    (kicked : x75Kick x75 = some after) : InWindow after := by
  have length_le := inWindow.length_le
  have dist_le := inWindow.dist_le
  obtain ⟨sent, start_eq, sent_le, length_le⟩ : ∃ sent,
      kickStart x75 = (x75.va + sent) % x75.modulus ∧ sent ≤ x75.window ∧
        x75.ackQueue.msgs.length ≤ sent := by
    unfold kickStart
    split
    case isTrue zero =>
        refine ⟨0, (Nat.mod_eq_of_lt inModulus.2.2).symm, Nat.zero_le _, ?_⟩
        rw [covers.nil_of_count zero]
        exact Nat.le_refl 0
    case isFalse =>
        exact ⟨_, (add_seqDist inModulus.2.2 inModulus.1).symm, dist_le, length_le⟩
  rcases x75Kick_cases kicked with ⟨-, rfl⟩ | ⟨ready, k, count, rfl⟩
  · exact inWindow
  · have within : sent + k ≤ x75.window := count.within_window start_eq sent_le ready.2.1
    have walk : (kickStart x75 + k) % x75.modulus = (x75.va + (sent + k)) % x75.modulus :=
      @vs_walk { x75 with vs := kickStart x75 } _ start_eq k
    have dist : seqDist x75.modulus x75.va ((kickStart x75 + k) % x75.modulus) = sent + k := by
      rw [walk]
      exact seqDist_add inModulus.2.2 (by omega)
    have taken := count.le_length
    constructor
    · change (x75.ackQueue.msgs ++ x75.writeQueue.msgs.take k).length ≤
        seqDist x75.modulus x75.va ((kickStart x75 + k) % x75.modulus)
      rw [dist, List.length_append, List.length_take]
      omega
    · change seqDist x75.modulus x75.va ((kickStart x75 + k) % x75.modulus) ≤ x75.window
      rw [dist]
      exact within

end InWindow

/-- What `x75Kick` needs to stay inside the window. -/
structure KicksInWindow (x75 : X75Cb) : Prop extends InWindow x75 where
  covers : x75.ackQueue.Covers

section Receive

variable {x75 after : X75Cb}

theorem ackRounds_le_seqDist (x75 : X75Cb) (nr : Nat) :
    ackRounds x75 nr ≤ seqDist x75.modulus x75.va nr := by
  unfold ackRounds
  split
  · exact Nat.min_le_left _ _
  · exact Nat.le_refl _

/-- A valid N(R) is taken into account. -/
theorem KicksInWindow.acknowledge (kicks : KicksInWindow x75) (inModulus : x75.InModulus)
    {nr : Nat} (nr_lt : nr < x75.modulus) (valid : x75ValidateNr x75 nr = true) :
    KicksInWindow (acknowledge x75 (ackRounds x75 nr)) where
  toInWindow := by
    refine kicks.toInWindow.acknowledge inModulus ((ackRounds_le_seqDist x75 nr).trans ?_)
    exact (x75ValidateNr_iff inModulus.2.2 inModulus.1 nr_lt).mp valid
  covers := kicks.covers.drop _

/-- Changing fields that the window does not depend on. -/
theorem KicksInWindow.of_fields (kicks : KicksInWindow x75) (mode : after.mode = x75.mode)
    (window : after.window = x75.window) (vs : after.vs = x75.vs) (va : after.va = x75.va)
    (ackQueue : after.ackQueue = x75.ackQueue) : KicksInWindow after where
  toInWindow := kicks.toInWindow.of_fields mode window vs va ackQueue
  covers := by
    rw [ackQueue]
    exact kicks.covers

theorem KicksInWindow.requeue (kicks : KicksInWindow x75) :
    KicksInWindow (x75RequeueFrames x75) where
  toInWindow := kicks.toInWindow.requeue
  covers := by
    rw [x75RequeueFrames_eq]
    exact CountedQueue.covers_of_nil rfl

theorem kicksInWindow_of_reset (empty : x75.ackQueue.msgs = []) (vs : x75.vs = 0)
    (va : x75.va = 0) : KicksInWindow x75 where
  toInWindow := .of_reset empty vs va
  covers := CountedQueue.covers_of_nil empty

/-- The machine of the current state stays inside the window. -/
theorem KicksInWindow.machine {skb rest : Bytes} {stack frame : X75Frame}
    (wellFormed : x75.WellFormed) (kicks : x75.Connected → KicksInWindow x75)
    (empty : SetsUpLink x75 frame → x75.ackQueue.msgs = [])
    (decoded : x75Decode x75 skb stack = some (frame, rest))
    (machine : MachineOutcome x75 rest frame after) (connected : after.Connected) :
    KicksInWindow after := by
  have nr_lt := fun carries : CarriesNr frame.type => x75Decode_nr_lt decoded carries
  cases machine with
  | answered => exact (kicks connected).of_fields rfl rfl rfl rfl rfl
  | connected _ _ _ _ setsUp => exact kicksInWindow_of_reset (empty setsUp) rfl rfl
  | released => simp [X75Cb.Connected] at connected
  | disconnected => simp [X75Cb.Connected] at connected
  | reset =>
      rw [x75RequeueFrames_eq]
      exact kicksInWindow_of_reset rfl rfl rfl
  | rejected _ _ _ _ three => exact (kicks (.inl three)).of_fields rfl rfl rfl rfl rfl
  | ready condition events _ three type valid =>
      have carries : CarriesNr frame.type := carriesNr_of_ready type
      have inModulus := wellFormed.sequence (.inl three)
      have acked := (kicks (.inl three)).acknowledge inModulus (nr_lt carries) valid
      obtain ⟨_, _, _, same⟩ := ready_eq inModulus.2.2 (nr_lt carries) condition events
      rw [same]
      exact acked.of_fields rfl rfl rfl rfl rfl
  | requeued condition events _ three type _ valid =>
      have carries : CarriesNr frame.type := carriesNr_of_reject type
      have inModulus := wellFormed.sequence (.inl three)
      have acked := (kicks (.inl three)).acknowledge inModulus (nr_lt carries) valid
      rw [reject_eq inModulus.2.2 (nr_lt carries)]
      exact KicksInWindow.requeue (acked.of_fields rfl rfl rfl rfl rfl)
  | inSequence three type valid _ =>
      have inModulus := wellFormed.sequence (.inl three)
      have below := nr_lt (carriesNr_of_iframe type)
      have acked := (kicks (.inl three)).acknowledge inModulus below valid
      obtain ⟨_, _, _, _, _, _, _, -, -, same⟩ := inSequence_eq inModulus.2.2 below rest frame
      rw [same]
      exact acked.of_fields rfl rfl rfl rfl rfl
  | outOfSequence three type valid _ =>
      have inModulus := wellFormed.sequence (.inl three)
      have below := nr_lt (carriesNr_of_iframe type)
      have acked := (kicks (.inl three)).acknowledge inModulus below valid
      obtain ⟨_, _, _, _, _, -, -, same⟩ := outOfSequence_eq inModulus.2.2 below frame
      rw [same]
      exact acked.of_fields rfl rfl rfl rfl rfl
  | reestablished => simp [X75Cb.Connected] at connected

theorem InWindow.handler {handler : Option TimerHandler} (wellFormed : x75.WellFormed)
    (kicks : x75.Connected → KicksInWindow x75)
    (handled : HandlerOutcome x75 handler (some after)) (connected : after.Connected) :
    InWindow after := by
  cases handled with
  | idle => exact (kicks connected).toInWindow
  | acknowledged => exact (kicks connected).toInWindow.of_fields rfl rfl rfl rfl rfl
  | retried => exact (kicks connected).toInWindow.of_fields rfl rfl rfl rfl rfl
  | dialled => simp [X75Cb.Connected, x75EstablishDataLink] at connected
  | gaveUp => simp [X75Cb.Connected] at connected
  | retransmitted _ three _ kicked =>
      obtain ⟨sent, sentKicked, rfl⟩ := Option.map_eq_some_iff.mp kicked
      have counted : KicksInWindow { x75 with n2count := x75.n2count + 1 } :=
        (kicks (.inl three)).of_fields rfl rfl rfl rfl rfl
      have requeued := counted.requeue
      have sentIn := requeued.toInWindow.kick requeued.covers (wellFormed.sequence (.inl three))
        wellFormed.window_lt sentKicked
      exact sentIn.of_fields rfl rfl rfl rfl rfl

/-- One operation stays inside the window. -/
theorem InWindow.step {op : Op} (wellFormed : x75.WellFormed)
    (kicks : x75.Connected → KicksInWindow x75) (empty : OpSetsUp x75 op → x75.ackQueue.msgs = [])
    (taken : exec x75 op = some after) (connected : after.Connected) : InWindow after := by
  have outcome := exec_outcome x75 op
  rw [taken] at outcome
  cases outcome with
  | ignored => exact (kicks connected).toInWindow
  | @requested skb _ before kicked =>
      have kicksIn : KicksInWindow (enqueueData x75 skb) :=
        (kicks before).of_fields rfl rfl rfl rfl rfl
      exact kicksIn.toInWindow.kick kicksIn.covers (wellFormed.sequence before)
        wellFormed.window_lt kicked
  | @received _ _ _ frame _ _ decoded machine kicked =>
      have machined := wellFormed.machine (x75Decode_nr_lt decoded) machine
      rw [X75Cb.Connected, (x75Kick_change kicked).state] at connected
      have setsUp : SetsUpLink x75 frame → x75.ackQueue.msgs = [] :=
        fun setsUp => empty ⟨frame, by simp [receivedFrame, decoded], setsUp⟩
      have kicksIn := KicksInWindow.machine wellFormed kicks setsUp decoded machine connected
      exact kicksIn.toInWindow.kick kicksIn.covers (machined.sequence connected)
        machined.window_lt kicked
  | dialled => simp [X75Cb.Connected] at connected
  | abandoned => simp [X75Cb.Connected] at connected
  | hungUp => simp [X75Cb.Connected] at connected
  | parameters mode window _ _ _ kept =>
      have apart : x75.state ≠ .state0 := by
        rintro zero
        simp [X75Cb.Connected, zero] at connected
      obtain ⟨rfl, rfl⟩ := kept.resolve_left apart
      exact (kicks connected).toInWindow.of_fields rfl rfl rfl rfl rfl
  | unregistered =>
      rw [x75Unregister_eq] at connected ⊢
      exact ⟨Nat.zero_le _, (kicks connected).dist_le⟩
  | registered => simp [X75Cb.Connected, x75Register] at connected
  | t1Expired _ handled =>
      refine InWindow.handler ?_ ?_ handled connected
      · exact wellFormed.of_kept rfl rfl wellFormed.sequence
      · exact fun before => (kicks before).of_fields rfl rfl rfl rfl rfl
  | t2Expired _ handled =>
      refine InWindow.handler ?_ ?_ handled connected
      · exact wellFormed.of_kept rfl rfl wellFormed.sequence
      · exact fun before => (kicks before).of_fields rfl rfl rfl rfl rfl

end Receive

/-! ## The bound -/

/-- The counter of the write queue covers it, and with the unacknowledged messages it
stays within the bound. -/
structure Bounded (x75 : X75Cb) : Prop where
  write : x75.writeQueue.Covers
  sum_le : x75.writeQueue.count.toNat + x75.ackQueue.msgs.length ≤ 8 + 1 + x75.window

namespace Bounded

variable {x75 before after : X75Cb}

theorem of_same (same : SameTraffic x75 after) (bounded : Bounded x75) : Bounded after := by
  constructor
  · rw [same.writeQueue]
    exact bounded.write
  · rw [same.writeQueue, same.ackQueue, same.window]
    exact bounded.sum_le

theorem accept (bounded : Bounded x75) (window : x75.ackQueue.msgs.length ≤ x75.window)
    (room : x75.writeQueue.count.toNat ≤ 8) (skb : Bytes) : Bounded (enqueueData x75 skb) := by
  have one : (x75.writeQueue.count + 1).toNat = x75.writeQueue.count.toNat + 1 :=
    CountedQueue.toNat_add_ofNat (k := 1) (by omega)
  constructor
  · have covers := bounded.write
    unfold CountedQueue.Covers at covers ⊢
    simp only [enqueueData, CountedQueue.enqueue_msgs, CountedQueue.enqueue_count, one,
      List.length_append, List.length_singleton]
    omega
  · simp only [enqueueData, CountedQueue.enqueue_count, one]
    omega

theorem acknowledge (bounded : Bounded x75) (rounds : Nat) : Bounded (acknowledge x75 rounds) where
  write := bounded.write
  sum_le := by
    have sum_le := bounded.sum_le
    simp only [acknowledge_writeQueue, acknowledge_ackQueue_msgs, List.length_drop,
      acknowledge_window]
    omega

/-- The messages that are queued again are counted again. -/
theorem requeue (bounded : Bounded x75) (window_lt : x75.window < 128) (vs va : Nat) :
    Bounded (requeued x75 vs va) := by
  have sum_le := bounded.sum_le
  have sum := CountedQueue.toNat_add_ofNat
    (by omega : x75.writeQueue.count.toNat + x75.ackQueue.msgs.length < 2 ^ 32)
  constructor
  · exact bounded.write.append _ (by omega)
  · simp only [requeued_writeQueue_count, requeued_ackQueue_msgs, List.length_nil, requeued_window,
      sum]
    omega

/-- `x75Kick` moves messages from one queue to the other. -/
theorem kick (bounded : Bounded before) (kicked : KickChange before after) : Bounded after := by
  cases kicked with
  | none => exact bounded
  | @sent k _ _ count same =>
      have le : k ≤ before.writeQueue.msgs.length := count.le_length
      have covers := bounded.write
      have sum_le := bounded.sum_le
      refine of_same same ⟨?_, ?_⟩
      · have dropped := covers.drop k
        rwa [Nat.min_eq_left le] at dropped
      · have counted := CountedQueue.toNat_sub_ofNat (Nat.le_trans le covers)
        simp only [sendFirst_writeQueue_count, sendFirst_ackQueue_msgs, List.length_append,
          List.length_take, counted, sendFirst_window]
        unfold CountedQueue.Covers at covers
        omega

end Bounded

/-- The window is below the larger modulus. -/
theorem window_lt_of_wellFormed {x75 : X75Cb} (wellFormed : x75.WellFormed) : x75.window < 128 := by
  refine Nat.lt_of_lt_of_le wellFormed.window_lt ?_
  unfold X75Cb.modulus modulusOf
  split <;> decide

/-! ## Runs -/

/-- The link is set up only when nothing is unacknowledged, and in a connection the
counter of the acknowledgement queue is not below its length. -/
def KeepsBound (x75 : X75Cb) (op : YateOp) : Prop :=
  (OpSetsUp x75 op.toOp → x75.ackQueue.msgs = []) ∧ (x75.Connected → x75.ackQueue.Covers)

instance (x75 : X75Cb) (op : YateOp) : Decidable (KeepsBound x75 op) :=
  inferInstanceAs (Decidable (_ ∧ _))

section Step

variable {x75 before after : X75Cb} {op : YateOp}

/-- A change of the traffic keeps the bound. -/
theorem Bounded.change (bounded : Bounded x75) (wellFormed : x75.WellFormed)
    (inWindow : x75.Connected → InWindow x75)
    (gate : op.toOp.isRequest = true → x75CanWrite x75 = true)
    (change : TrafficChange x75 op.toOp before) : Bounded before := by
  generalize own : op.toOp = request at gate change
  cases change with
  | kept same => exact bounded.of_same same
  | accepted skb connected =>
      have room := ((x75CanWrite_iff x75).mp (gate rfl)).2
      have within := inWindow connected
      exact bounded.accept (within.length_le.trans within.dist_le) room skb
  | purged _ same =>
      have sum_le := bounded.sum_le
      refine Bounded.of_same same ⟨Nat.zero_le _, ?_⟩
      simp only [x75ClearQueues_writeQueue, x75ClearQueues_ackQueue, CountedQueue.free_msgs,
        CountedQueue.free_count, List.length_nil, x75ClearQueues_window]
      omega
  | setUp _ same => exact Bounded.of_same same ⟨bounded.write, bounded.sum_le⟩
  | acked frame _ _ _ _ same => exact Bounded.of_same same (bounded.acknowledge _)
  | @requeued _ rounds _ vs va _ _ same =>
      have window_lt := window_lt_of_wellFormed wellFormed
      exact Bounded.of_same same ((bounded.acknowledge rounds).requeue window_lt vs va)
  | parameters => cases op <;> cases own
  | registered => cases op <;> cases own

/-- One step of the process. -/
theorem bounded_step (wellFormed : x75.WellFormed) (bounded : Bounded x75)
    (inWindow : x75.Connected → InWindow x75) (keeps : KeepsBound x75 op)
    (taken : yateStep x75 op = some after) :
    after.WellFormed ∧ Bounded after ∧ (after.Connected → InWindow after) := by
  rcases yateStep_cases taken with rfl | ⟨executed, gate⟩
  · exact ⟨wellFormed, bounded, inWindow⟩
  · refine ⟨wellFormed.step executed, ?_, ?_⟩
    · obtain ⟨before, sent, change, kicked, same, -⟩ := exec_change wellFormed executed
      exact ((bounded.change wellFormed inWindow gate change).kick kicked).of_same same
    · exact InWindow.step wellFormed
        (fun connected => ⟨inWindow connected, keeps.2 connected⟩) keeps.1 executed

end Step

/-- The control block of the process when it starts. -/
def yateStart : X75Cb := x75Register zeroed .all

/-- **The messages held are bounded** after every step of the process, in runs that set
the link up only when nothing is unacknowledged, and in which the counter of the
acknowledgement queue has not fallen below its length. -/
theorem held_bounded {x75 : X75Cb} (reached : Reached yateStep KeepsBound yateStart x75) :
    x75.writeQueue.msgs.length + x75.ackQueue.msgs.length ≤
      x75FlowControlMaxWriteQueue.toNat + 1 + x75.window := by
  obtain ⟨-, bounded, -⟩ := reached.invariant
    (fun x75 => x75.WellFormed ∧ Bounded x75 ∧ (x75.Connected → InWindow x75))
    ⟨wellFormed_register _ _, ⟨Nat.zero_le _, by decide⟩,
      fun connected => by simp [X75Cb.Connected, yateStart, x75Register] at connected⟩
    fun _ inv keeps taken => bounded_step inv.1 inv.2.1 inv.2.2 keeps taken
  have sum_le := bounded.sum_le
  have covers := bounded.write
  have eight : x75FlowControlMaxWriteQueue.toNat = 8 := rfl
  unfold CountedQueue.Covers at covers
  omega

/-- A full window and a full write queue. -/
theorem held_bounded_full :
    ∃ x75, runOps yateStep yateStart (.received [0x01, 0x3F] .zero ::
        List.replicate 20 (.telnetRx [0x41])) = some x75 ∧
      x75.ackQueue.msgs.length = 7 ∧ x75.writeQueue.msgs.length = 9 ∧
      x75.writeQueue.msgs.length + x75.ackQueue.msgs.length ≤
        x75FlowControlMaxWriteQueue.toNat + 1 + x75.window := by
  have meets : MeetsAlong yateStep KeepsBound yateStart (.received [0x01, 0x3F] .zero ::
      List.replicate 20 (.telnetRx [0x41])) := by decide
  exact ⟨_, rfl, rfl, rfl, held_bounded (reached_of_meetsAlong _ .refl meets rfl)⟩

/-- **A reset from state 4 exceeds the bound.** A payload is sent, a frame with an
invalid N(R) leads to state 4, and the peer resets the link. The frame stays
unacknowledged beside a whole window of new ones, and the write queue fills up. -/
theorem reset_exceeds_bound :
    ∃ x75, runOps yateStep yateStart ([.received [0x01, 0x3F] .zero, .telnetRx [0x41],
        .received [0x01, 0xA1] .zero, .received [0x01, 0x3F] .zero] ++
        List.replicate 16 (.telnetRx [0x41])) = some x75 ∧
      x75.state = .state3 ∧ x75.window = 7 ∧
      x75.writeQueue.msgs.length = 9 ∧ x75.ackQueue.msgs.length = 8 :=
  ⟨_, rfl, rfl, rfl, rfl, rfl⟩

end IsdnRas.X75
