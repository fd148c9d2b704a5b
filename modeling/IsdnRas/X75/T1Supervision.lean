import IsdnRas.X75.AckWindow

/-!
# Supervision by T1

In state 3 a lost frame is made good by T1. So T1 must run, be armed and carry
its own handler while frames are unacknowledged. A peer that is busy is not
supervised: `x75Kick` holds back what waits, and T1 is stopped when the last
frame has been acknowledged.

The relation fails where T1 is left running and `x75StartT2timer` puts the
handler of T2 on it, and where the slips described in `AckWindow` and
`QueueCounts` separate the queues from their numbers and counters. In runs
without these, T1 runs while frames are unacknowledged, and while messages wait
for a peer that is not busy (`t1_supervises`).
-/

set_option autoImplicit false

namespace IsdnRas.X75

/-! ## The relation -/

/-- The peer has said that it is busy. -/
abbrev PeerBusy (x75 : X75Cb) : Prop := testFlag x75.condition x75PeerRxBusyCondition = true

/-- T1 is armed with its own handler. -/
def T1Armed (x75 : X75Cb) : Prop :=
  x75.t1timer.active = true ∧ x75.t1timer.cb = some .t1timerExpiry

instance (x75 : X75Cb) : Decidable (T1Armed x75) := inferInstanceAs (Decidable (_ ∧ _))

/-- While T1 runs it is armed, and it runs while frames are unacknowledged. -/
structure T1Guards (x75 : X75Cb) : Prop where
  armed : x75.t1timerRunning = true → T1Armed x75
  running : x75.ackQueue.msgs ≠ [] → x75.t1timerRunning = true

/-- Messages do not wait without a reason: the peer is busy, or frames are
unacknowledged. -/
def Sending (x75 : X75Cb) : Prop :=
  x75.writeQueue.msgs ≠ [] → ¬ PeerBusy x75 → x75.ackQueue.msgs ≠ []

/-- When messages wait for a peer that is not busy and nothing is
unacknowledged, `x75Kick` sends. -/
def WillSend (x75 : X75Cb) : Prop :=
  x75.writeQueue.msgs ≠ [] → ¬ PeerBusy x75 → x75.ackQueue.msgs = [] → KickReady x75

section Kick

variable {x75 after : X75Cb}

/-- `x75Kick` leaves the state, V(A), the count of retries and its limit. -/
theorem x75Kick_retries (kicked : x75Kick x75 = some after) :
    after.n2 = x75.n2 ∧ after.n2count = x75.n2count ∧ after.va = x75.va ∧
      after.state = x75.state := by
  rcases x75Kick_cases kicked with ⟨-, rfl⟩ | ⟨-, k, -, rfl⟩
  · exact ⟨rfl, rfl, rfl, rfl⟩
  · exact ⟨rfl, rfl, rfl, rfl⟩

/-- The counters do not depend on the timers. -/
theorem Counted.timers (counted : Counted x75) (t1timer t2timer : OsmoTimer) :
    Counted { x75 with t1timer := t1timer, t2timer := t2timer } :=
  ⟨counted.write, counted.ack, counted.bounded⟩

/-- Exact counters let `x75Kick` send. -/
theorem Counted.willSend (counted : Counted x75) (wellFormed : x75.WellFormed)
    (connected : x75.Connected) : WillSend x75 := by
  intro waiting idle none
  have va_lt := (wellFormed.sequence connected).2.2
  have start : kickStart x75 = x75.va := by
    rw [kickStart, if_pos (counted.ack.count_eq_zero_iff.mpr none)]
  refine ⟨Bool.eq_false_iff.mpr idle, ?_,
    fun zero => waiting (counted.write.count_eq_zero_iff.mp zero)⟩
  rw [start, kickStop]
  intro same
  have walk := seqDist_add va_lt wellFormed.window_lt
  rw [← same, seqDist_self] at walk
  exact absurd walk.symm (Nat.ne_of_gt wellFormed.window_pos)

/-- After `x75Kick` nothing waits without a reason. -/
theorem sending_of_kick (will : WillSend x75) (kicked : x75Kick x75 = some after) :
    Sending after := by
  intro waiting idle
  rcases x75Kick_cases kicked with ⟨notReady, rfl⟩ | ⟨-, k, count, rfl⟩
  · intro none
    exact notReady (will waiting idle none)
  · intro none
    have positive := count.positive
    have le : k ≤ x75.writeQueue.msgs.length := count.le_length
    have length := congrArg List.length none
    simp only [afterKick_ackQueue, sendFirst_ackQueue_msgs, List.length_append, List.length_take,
      List.length_nil] at length
    omega

/-- `x75Kick` keeps T1 on guard. -/
theorem T1Guards.kick (guards : T1Guards x75) (kicked : x75Kick x75 = some after) :
    T1Guards after := by
  rcases x75Kick_cases kicked with ⟨-, rfl⟩ | ⟨-, k, -, rfl⟩
  · exact guards
  · refine ⟨fun _ => ?_, fun _ => rfl⟩
    rw [T1Armed, afterKick_t1timer]
    split
    case isTrue running => exact guards.armed running
    case isFalse => exact ⟨rfl, rfl⟩

end Kick

/-! ## Received frames -/

/-- T2 is not started on a running T1: an I-frame in sequence that asks for a
delayed acknowledgement finds T1 stopped once its N(R) has been taken into
account. -/
def SparesT1 (x75 : X75Cb) (op : Op) : Prop :=
  ∀ frame ∈ receivedFrame x75 op, x75.state = .state3 → frame.type = x75I →
    x75ValidateNr x75 frame.nr = true → frame.ns = x75.vr → frame.pf = 0 →
      testFlag x75.condition x75AckPendingCondition = false →
        (iframeAcknowledge x75 frame.nr).t1timerRunning = false

/-- The operation keeps T1 on guard. -/
def KeepsT1 (x75 : X75Cb) (op : Op) : Prop :=
  KeepsWindow x75 op ∧ (x75.state = .state3 ∨ OpSetsUp x75 op → Counted x75) ∧ SparesT1 x75 op

instance (x75 : X75Cb) (op : Op) : Decidable (SparesT1 x75 op) :=
  inferInstanceAs (Decidable (∀ _ ∈ _, _))

instance (x75 : X75Cb) (op : Op) : Decidable (KeepsT1 x75 op) :=
  inferInstanceAs (Decidable (_ ∧ _ ∧ _))

section Receive

variable {x75 after : X75Cb} {nr : Nat}

/-- An N(R) equal to V(S) acknowledges everything. -/
theorem acknowledge_all (wellFormed : x75.WellFormed) (connected : x75.Connected)
    (ack : x75.ackQueue.Exact) (window : AckWindow x75) :
    (acknowledge x75 (ackRounds x75 x75.vs)).ackQueue.msgs = [] := by
  rw [acknowledge_ackQueue_msgs]
  by_cases waiting : x75.ackQueue.msgs = []
  · rw [waiting, List.drop_nil]
  · obtain ⟨vs_lt, -, va_lt⟩ := wellFormed.sequence connected
    have valid := (x75ValidateNr_iff va_lt vs_lt vs_lt).mpr (Nat.le_refl _)
    rw [ackRounds_eq_seqDist window wellFormed connected ack vs_lt valid waiting,
      ← window.length_eq waiting, List.drop_length]

theorem T1Guards.check (guards : T1Guards x75) (wellFormed : x75.WellFormed)
    (connected : x75.Connected) (ack : x75.ackQueue.Exact) (window : AckWindow x75)
    (nr_lt : nr < x75.modulus) : T1Guards (x75CheckIframesAcked x75 nr) := by
  have va_lt := (wellFormed.sequence connected).2.2
  unfold x75CheckIframesAcked
  split
  case isTrue all =>
      subst all
      refine ⟨fun running => absurd running Bool.false_ne_true, fun waiting => absurd ?_ waiting⟩
      rw [x75FramesAcked_eq va_lt nr_lt]
      exact acknowledge_all wellFormed connected ack window
  split
  · exact ⟨fun _ => ⟨rfl, rfl⟩, fun _ => rfl⟩
  · exact guards

/-- Releasing frames leaves T1 alone. -/
theorem T1Guards.acknowledge (guards : T1Guards x75) (rounds : Nat) :
    T1Guards (acknowledge x75 rounds) where
  armed := guards.armed
  running := fun waiting => guards.running fun none => waiting (by simp [none])

theorem T1Guards.iframeAcknowledge (guards : T1Guards x75) (wellFormed : x75.WellFormed)
    (connected : x75.Connected) (ack : x75.ackQueue.Exact) (window : AckWindow x75)
    (nr_lt : nr < x75.modulus) : T1Guards (iframeAcknowledge x75 nr) := by
  unfold X75.iframeAcknowledge
  split
  · rw [x75FramesAcked_eq (wellFormed.sequence connected).2.2 nr_lt]
    exact guards.acknowledge _
  · exact guards.check wellFormed connected ack window nr_lt

theorem T1Guards.receiveInSequence {skb : Bytes} {frame : X75Frame} (guards : T1Guards x75)
    (spares : frame.pf = 0 → testFlag x75.condition x75AckPendingCondition = false →
      x75.t1timerRunning = false) : T1Guards (receiveInSequence x75 skb frame) := by
  have pending : testFlag (clearFlag x75.condition x75RejectCondition) x75AckPendingCondition =
      testFlag x75.condition x75AckPendingCondition :=
    testFlag_clearFlag_of_apart (by decide)
  unfold X75.receiveInSequence
  dsimp only
  split
  case isTrue => exact ⟨guards.armed, guards.running⟩
  case isFalse noPoll =>
  split
  case isTrue => exact ⟨guards.armed, guards.running⟩
  case isFalse clear =>
      have stopped := spares (not_not.mp noPoll)
        (pending.symm.trans (Bool.eq_false_iff.mpr clear))
      exact ⟨fun running => absurd (stopped.symm.trans running) Bool.false_ne_true,
        guards.running⟩

/-- The machine of the current state keeps T1 on guard. -/
theorem T1Guards.machine {skb rest : Bytes} {stack frame : X75Frame} (guards : T1Guards x75)
    (wellFormed : x75.WellFormed) (window : x75.Connected → AckWindow x75)
    (keeps : KeepsT1 x75 (.dataReceived skb stack))
    (decoded : x75Decode x75 skb stack = some (frame, rest))
    (machine : MachineOutcome x75 rest frame after) : T1Guards after := by
  have received : frame ∈ receivedFrame x75 (.dataReceived skb stack) := by
    simp [receivedFrame, decoded]
  have nr_lt := fun carries : CarriesNr frame.type => x75Decode_nr_lt decoded carries
  have stopped : ∀ {other : X75Cb}, other.t1timerRunning = false → other.ackQueue.msgs = [] →
      T1Guards other :=
    fun rest none => ⟨fun running => absurd (rest.symm.trans running) Bool.false_ne_true,
      fun waiting => absurd none waiting⟩
  cases machine with
  | answered => exact ⟨guards.armed, guards.running⟩
  | connected _ _ _ _ setsUp => exact stopped rfl (keeps.1.1 ⟨frame, received, setsUp⟩)
  | released => exact ⟨fun _ => ⟨rfl, rfl⟩, fun _ => rfl⟩
  | disconnected => exact ⟨fun _ => ⟨rfl, rfl⟩, fun _ => rfl⟩
  | reset =>
      rw [x75RequeueFrames_eq]
      exact stopped rfl rfl
  | rejected => exact ⟨fun _ => ⟨rfl, rfl⟩, fun _ => rfl⟩
  | ready condition events _ connected type _ =>
      have carries : CarriesNr frame.type := carriesNr_of_ready type
      have noted : T1Guards (x75.note condition events) := ⟨guards.armed, guards.running⟩
      have before := window (.inl connected)
      refine noted.check (wellFormed.of_kept rfl rfl wellFormed.sequence) (.inl connected)
        (keeps.1.2 (.inl connected)) ⟨before.length_eq, before.length_le, ?_⟩ (nr_lt carries)
      have grown : x75.events ⊆ (x75.note condition events).events := List.subset_append_left ..
      exact fun installed i skb read => (before.carried installed i skb read).mono grown rfl
  | requeued =>
      rw [x75RequeueFrames_eq]
      exact stopped rfl rfl
  | inSequence connected type valid expected =>
      have va_lt := (wellFormed.sequence (.inl connected)).2.2
      obtain ⟨_, _, _, same⟩ := iframeAcknowledge_eq va_lt (nr_lt (carriesNr_of_iframe type))
      have acked := guards.iframeAcknowledge wellFormed (.inl connected)
        (keeps.1.2 (.inl connected)) (window (.inl connected)) (nr_lt (carriesNr_of_iframe type))
      refine acked.receiveInSequence ?_
      intro noPoll clear
      rw [same] at expected clear
      exact keeps.2.2 frame received connected type valid expected noPoll clear
  | outOfSequence connected type _ _ =>
      have acked := guards.iframeAcknowledge wellFormed (.inl connected)
        (keeps.1.2 (.inl connected)) (window (.inl connected)) (nr_lt (carriesNr_of_iframe type))
      obtain ⟨_, _, -, -, same⟩ :=
        receiveOutOfSequence_eq (X75.iframeAcknowledge x75 frame.nr) frame
      rw [same]
      exact ⟨acked.armed, acked.running⟩
  | reestablished =>
      rw [x75RequeueFrames_eq]
      exact ⟨fun _ => ⟨rfl, rfl⟩, fun _ => rfl⟩

/-- The counters are still exact after a received frame that leaves the link
connected. -/
theorem counted_of_received {skb : Bytes} {stack : X75Frame}
    (counted : x75.state = .state3 ∨ OpSetsUp x75 (.dataReceived skb stack) → Counted x75)
    (change : TrafficChange x75 (.dataReceived skb stack) after)
    (connected : after.state = .state3) : Counted after := by
  cases change with
  | kept same move =>
      refine (counted (.inl ?_)).of_same same
      rcases move with still | ⟨-, four⟩ | ⟨-, zero⟩ | ⟨-, one⟩ | ⟨-, -, zero⟩
      · exact still.symm.trans connected
      all_goals simp_all
  | purged _ _ state =>
      rcases state with zero | two | ⟨leaving, -⟩
      · simp_all
      · simp_all
      · cases leaving
  | setUp setsUp same =>
      have before := counted (.inr setsUp)
      exact Counted.of_same same ⟨before.write, before.ack, before.bounded⟩
  | acked frame three _ _ _ same =>
      have before := counted (.inl three)
      exact Counted.of_same same (before.acknowledge (ackRounds_le before.ack _))
  | requeued vs va _ requeues same =>
      have before := counted (.inl (requeueRounds_cases requeues).1)
      have le := requeueRounds_le before.ack requeues
      exact Counted.of_same same ((before.acknowledge le).requeue vs va)

end Receive

/-! ## Runs -/

/-- T1 is on guard, and in a connection messages do not wait without a reason. -/
structure T1Supervises (x75 : X75Cb) : Prop extends T1Guards x75 where
  sending : x75.state = .state3 → Sending x75

section Step

variable {x75 after : X75Cb} {op : Op}

/-- Starting T1 puts it on guard. -/
theorem t1Guards_start (x75 : X75Cb) : T1Guards (x75StartT1timer x75) where
  armed := fun _ => ⟨rfl, rfl⟩
  running := fun _ => rfl

/-- Outside state 3 only T1 matters. -/
theorem T1Guards.supervises (guards : T1Guards x75) (apart : x75.state ≠ .state3) :
    T1Supervises x75 :=
  ⟨guards, fun three => absurd three apart⟩

/-- `x75Kick` in state 3 leaves nothing waiting. -/
theorem T1Guards.supervises_kick (guards : T1Guards x75) (kicked : x75Kick x75 = some after)
    (will : x75.state = .state3 → WillSend x75) : T1Supervises after where
  toT1Guards := guards.kick kicked
  sending := fun three =>
    sending_of_kick (will ((x75Kick_change kicked).state.symm.trans three)) kicked

/-- A data request in state 3 finds room in the counters when nothing is
unacknowledged, because then nothing waits. -/
theorem willSend_request (supervises : T1Supervises x75) (wellFormed : x75.WellFormed)
    (three : x75.state = .state3) (counted : Counted x75) (skb : Bytes) :
    WillSend (enqueueData x75 skb) := by
  intro waiting idle none
  have empty : x75.writeQueue.msgs = [] := by
    by_contra before
    exact supervises.sending three before idle none
  have ack : x75.ackQueue.msgs = [] := none
  have room : x75.writeQueue.msgs.length + x75.ackQueue.msgs.length + 1 < 2 ^ 32 := by
    simp [empty, ack]
  have wellFormed' : (enqueueData x75 skb).WellFormed :=
    wellFormed.of_kept rfl rfl wellFormed.sequence
  exact (counted.accept skb room).willSend wellFormed' (.inl three) waiting idle none

/-- The handler of an expired timer. The control block is the one after the
expiry, and T1 is on guard in it unless its own handler is about to act. -/
theorem supervises_handler {handler : Option TimerHandler} (wellFormed : x75.WellFormed)
    (counted : x75.state = .state3 → Counted x75) (sending : x75.state = .state3 → Sending x75)
    (guards : handler ≠ some .t1timerExpiry ∨ ¬ x75.T1Due → T1Guards x75)
    (handled : HandlerOutcome x75 handler (some after)) : T1Supervises after := by
  cases handled with
  | idle _ reason =>
      refine ⟨guards ?_, sending⟩
      by_cases own : handler = some .t1timerExpiry
      · exact .inr (reason own)
      · exact .inl own
  | acknowledged _ _ _ busy =>
      have before := guards (.inl (by simp))
      refine ⟨⟨before.armed, before.running⟩, fun three waiting idle => sending three waiting ?_⟩
      rwa [PeerBusy, ← busy]
  | retried n2count events _ apart =>
      have started := t1Guards_start x75
      exact T1Guards.supervises ⟨started.armed, started.running⟩ apart
  | dialled => exact (t1Guards_start _).supervises (by simp [x75EstablishDataLink])
  | gaveUp =>
      exact T1Guards.supervises
        ⟨fun running => absurd running Bool.false_ne_true, fun waiting => absurd rfl waiting⟩
        (by simp)
  | retransmitted _ connected _ kicked =>
      obtain ⟨sent, sentKicked, rfl⟩ := Option.map_eq_some_iff.mp kicked
      refine ⟨t1Guards_start sent, fun _ => ?_⟩
      rw [x75RequeueFrames_eq] at sentKicked
      have wellFormed' :
          (requeued { x75 with n2count := x75.n2count + 1 } x75.vs x75.va).WellFormed :=
        wellFormed.of_kept rfl rfl wellFormed.sequence
      have requeuedCounted := (counted connected).requeue x75.vs x75.va
      have will : WillSend (requeued { x75 with n2count := x75.n2count + 1 } x75.vs x75.va) :=
        Counted.willSend
          ⟨requeuedCounted.write, requeuedCounted.ack, requeuedCounted.bounded⟩
          wellFormed' (.inl connected)
      have sending := sending_of_kick will sentKicked
      exact sending

theorem T1Supervises.step (supervises : T1Supervises x75) (wellFormed : x75.WellFormed)
    (window : x75.Connected → AckWindow x75) (keeps : KeepsT1 x75 op)
    (taken : exec x75 op = some after) : T1Supervises after := by
  have outcome := exec_outcome x75 op
  rw [taken] at outcome
  cases outcome with
  | ignored => exact supervises
  | @requested skb _ connected kicked =>
      have guards : T1Guards (enqueueData x75 skb) := ⟨supervises.armed, supervises.running⟩
      exact guards.supervises_kick kicked fun three =>
        willSend_request supervises wellFormed three (keeps.2.1 (.inl three)) skb
  | received decoded machine kicked =>
      refine (supervises.toT1Guards.machine wellFormed window keeps decoded machine).supervises_kick
        kicked fun three => ?_
      have counted := counted_of_received keeps.2.1 (machine.traffic wellFormed decoded) three
      exact counted.willSend (wellFormed.machine (x75Decode_nr_lt decoded) machine) (.inl three)
  | dialled => exact T1Guards.supervises ⟨fun _ => ⟨rfl, rfl⟩, fun _ => rfl⟩ (by simp)
  | abandoned => exact T1Guards.supervises ⟨fun _ => ⟨rfl, rfl⟩, fun _ => rfl⟩ (by simp)
  | hungUp => exact T1Guards.supervises ⟨fun _ => ⟨rfl, rfl⟩, fun _ => rfl⟩ (by simp)
  | parameters =>
      exact ⟨⟨supervises.armed, supervises.running⟩, supervises.sending⟩
  | unregistered =>
      exact ⟨⟨fun running => absurd running Bool.false_ne_true, fun waiting => absurd rfl waiting⟩,
        fun _ waiting => absurd rfl waiting⟩
  | registered => exact (t1Guards_start _).supervises (by simp)
  | t1Expired armed handled =>
      refine supervises_handler ?_ ?_ ?_ ?_ handled
      · exact wellFormed.of_kept rfl rfl wellFormed.sequence
      · exact fun three => (keeps.2.1 (.inl three)).timers _ _
      · exact supervises.sending
      · intro other
        refine ⟨fun running => ?_, supervises.running⟩
        rcases other with foreign | notDue
        · exact absurd (supervises.armed running).2 foreign
        · exact absurd ⟨rfl, running⟩ notDue
  | t2Expired armed handled =>
      refine supervises_handler ?_ ?_ ?_ ?_ handled
      · exact wellFormed.of_kept rfl rfl wellFormed.sequence
      · exact fun three => (keeps.2.1 (.inl three)).timers _ _
      · exact supervises.sending
      · exact fun _ => ⟨supervises.armed, supervises.running⟩

end Step

/-- **T1 supervises the transfer.** After every operation that leaves the link in
state 3 with frames unacknowledged, or with messages waiting for a peer that is
not busy, T1 runs and is armed with its own handler. This holds in runs that set
the link up only when nothing is unacknowledged, that keep the counters exact in
a connection, and in which T2 is never started while T1 runs. -/
theorem t1_supervises {callbacks : RegisterStruct} {x75 : X75Cb}
    (reached : Reached exec KeepsT1 (x75Register zeroed callbacks) x75)
    (connected : x75.state = .state3)
    (outstanding : x75.ackQueue.msgs ≠ [] ∨ x75.writeQueue.msgs ≠ [] ∧ ¬ PeerBusy x75) :
    x75.t1timerRunning = true ∧ x75.t1timer.active = true ∧
      x75.t1timer.cb = some .t1timerExpiry := by
  have invariant : x75.WellFormed ∧ (x75.Connected → AckWindow x75) ∧ T1Supervises x75 := by
    refine reached.invariant
      (fun x75 => x75.WellFormed ∧ (x75.Connected → AckWindow x75) ∧ T1Supervises x75)
      ⟨wellFormed_register _ _, fun _ => ackWindow_of_empty rfl,
        (t1Guards_start _).supervises (by simp)⟩ ?_
    rintro state next op ⟨wellFormed, window, supervises⟩ keeps taken
    exact ⟨wellFormed.step taken, ackWindow_step wellFormed window keeps.1 taken,
      supervises.step wellFormed window keeps taken⟩
  obtain ⟨-, -, supervises⟩ := invariant
  have unacknowledged : x75.ackQueue.msgs ≠ [] :=
    outstanding.elim id fun ⟨waiting, idle⟩ => supervises.sending connected waiting idle
  have running := supervises.running unacknowledged
  exact ⟨running, supervises.armed running⟩

/-- One frame is sent and not acknowledged. -/
theorem t1_supervises_one_frame :
    ∃ x75, runOps exec (x75Register zeroed .all)
        [.dataReceived [0x01, 0x3F] .zero, .dataRequest [0x41]] = some x75 ∧
      x75.ackQueue.msgs = [[0x41]] ∧
      (x75.t1timerRunning = true ∧ x75.t1timer.active = true ∧
        x75.t1timer.cb = some .t1timerExpiry) := by
  have meets : MeetsAlong exec KeepsT1 (x75Register zeroed .all)
      [.dataReceived [0x01, 0x3F] .zero, .dataRequest [0x41]] := by decide
  exact ⟨_, rfl, rfl, t1_supervises (reached_of_meetsAlong _ .refl meets rfl) (by decide)
    (by decide)⟩

/-- **A busy peer is not supervised.** The peer is busy from the start, and a
payload waits with T1 stopped. -/
theorem busy_peer_unsupervised :
    ∃ x75, runOps exec (x75Register zeroed .all)
        [.dataReceived [0x01, 0x3F] .zero, .dataReceived [0x01, 0x05] .zero,
          .dataRequest [0x41]] = some x75 ∧
      x75.state = .state3 ∧ x75.writeQueue.msgs = [[0x41]] ∧ x75.t1timerRunning = false :=
  ⟨_, rfl, rfl, rfl, rfl⟩

end IsdnRas.X75
