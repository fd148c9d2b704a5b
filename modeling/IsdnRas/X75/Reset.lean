import IsdnRas.X75.InOrder
import IsdnRas.X75.SetUp

/-!
# A link that is set up again

In state 3 the SABM comes again when the peer has not had the answer. Nothing has been
acknowledged or received then. The frames that were sent are queued again, V(S) goes back
to zero, and `x75Kick` sends them with the numbers they had, because the window is open and
the counter of the write queue is exact (`Tracks.reset`). So the reset is a turn of the
station.

`Stands.act` and `Stands.receive` put the operations of an end together, from state 0 on: a
turn each, unless the end gives up.
-/

set_option autoImplicit false

namespace IsdnRas.X75

open GoBackN

/-! ## The reset -/

section Reset

variable {x75 after : X75Cb} {station : Station} {input : Option (Frame Bytes)} {skb : Bytes}
  {frame : X75Frame} {sent : Nat}

theorem x75Machine_resets (connected : x75.state = .state3)
    (type : frame.type = setUpType x75.mode) :
    x75Machine x75 skb frame = resetConnected x75 frame := by
  simp only [x75Machine, connected, x75State3Machine]
  unfold setUpType at type
  cases extended : extendedMode x75.mode <;> simp [extended, type, x75Sabm, x75Sabme]

/-- A UA that comes again is ignored. -/
theorem x75Machine_again (connected : x75.state = .state3) (type : frame.type = x75Ua) :
    x75Machine x75 skb frame = x75 := by
  simp [x75Machine, connected, x75State3Machine, type, x75Sabm, x75Sabme, x75Disc, x75Dm, x75Rnr,
    x75Rr, x75Rej, x75I, x75Frmr, x75Illegal, x75Ua]

/-- Both queues together have room in one counter. -/
def InOneCounter (x75 : X75Cb) : Prop :=
  x75.writeQueue.msgs.length + x75.ackQueue.msgs.length < 2 ^ 32

/-- What the reset would leave if it did not touch V(S). -/
theorem Tracks.unreset (tracks : Tracks x75 ⟨0, sent, 0⟩) (frame : X75Frame) :
    Tracks { resetConnected x75 frame with vs := sent % x75.modulus } ⟨0, sent, 0⟩ := by
  rw [resetConnected, x75RequeueFrames_eq, resetLink_eq]
  have stock : sent ≤ 0 + x75.ackQueue.msgs.length + x75.writeQueue.msgs.length := tracks.stock
  constructor
  case connected => exact tracks.connected
  case va => exact (Nat.zero_mod _).symm
  case vs => rfl
  case vr => exact (Nat.zero_mod _).symm
  case idle => exact testFlag_zero _
  case window_lt => exact tracks.window_lt
  case acked_le => exact Nat.zero_le sent
  case within => exact tracks.within
  case unacked => exact .inl rfl
  case stock =>
      change sent ≤ 0 + 0 + (x75.writeQueue.msgs ++ x75.ackQueue.msgs).length
      rw [List.length_append]
      omega
  case ackCount =>
      have emptied := tracks.ackCount.drop (Nat.le_refl _)
      rwa [List.drop_length] at emptied
  case writeCount => exact tracks.writeCount.append _

/-- After a reset nothing is unacknowledged. -/
theorem Tracks.reset_unacked (tracks : Tracks x75 ⟨0, sent, 0⟩) (frame : X75Frame) :
    (resetConnected x75 frame).ackQueue.count = 0 := by
  refine (tracks.unreset frame).ack_exact.count_eq_zero_iff.mpr ?_
  rw [resetConnected, x75RequeueFrames_eq]
  rfl

/-- `x75Kick` starts at V(A) when nothing is unacknowledged, whatever V(S) is. -/
theorem x75Kick_vs (none : x75.ackQueue.count = 0) (ready : KickReady x75) (vs : Nat) :
    x75Kick { x75 with vs := vs } = x75Kick x75 := by
  have start : kickStart { x75 with vs := vs } = kickStart x75 := by
    unfold kickStart
    rw [if_pos none, if_pos none]
  have ready' : KickReady { x75 with vs := vs } := by
    rw [KickReady, start]
    exact ready
  rw [x75Kick, x75Kick, if_pos ready, if_pos ready', start]
  rfl

/-- After a reset `x75Kick` starts unless there is nothing to send. -/
theorem Tracks.reset_ready (tracks : Tracks x75 ⟨0, sent, 0⟩) (window_pos : 0 < x75.window)
    (bounded : InOneCounter x75) (some_sent : sent ≠ 0) :
    KickReady (resetConnected x75 frame) := by
  have unreset := tracks.unreset frame
  have queued : (resetConnected x75 frame).writeQueue.msgs =
      x75.writeQueue.msgs ++ x75.ackQueue.msgs := by
    rw [resetConnected, x75RequeueFrames_eq]
    rfl
  have va : (resetConnected x75 frame).va = 0 := by
    rw [resetConnected, x75RequeueFrames_eq]
    rfl
  have stop : kickStop (resetConnected x75 frame) = x75.window := by
    rw [kickStop, va, Nat.zero_add]
    exact Nat.mod_eq_of_lt tracks.window_lt
  refine ⟨unreset.idle, ?_, ?_⟩
  · rw [kickStart, if_pos (tracks.reset_unacked frame), va, stop]
    exact Nat.ne_of_lt window_pos
  · have exact' : (resetConnected x75 frame).writeQueue.Exact := by
      refine unreset.writeCount.exact ?_
      rw [queued, List.length_append]
      exact bounded
    intro zero
    have empty := exact'.count_eq_zero_iff.mp zero
    have stock : sent ≤ 0 + x75.ackQueue.msgs.length + x75.writeQueue.msgs.length := tracks.stock
    have length := congrArg List.length (queued.symm.trans empty)
    rw [List.length_append, List.length_nil] at length
    omega

/-- What `x75Kick` does after a reset: it sends at least as many frames as had been sent. -/
theorem Tracks.reset_kick (tracks : Tracks x75 ⟨0, sent, 0⟩) (window_pos : 0 < x75.window)
    (bounded : InOneCounter x75) (kicked : x75Kick (resetConnected x75 frame) = some after) :
    ∃ more log out, sent ≤ more ∧ Moves (resetConnected x75 frame) after ⟨0, more, 0⟩ log ∧
      Emits after ⟨0, more, 0⟩ log out ∧ indicatedOf log = [] ∧ releasedOf log = [] := by
  have unreset := tracks.unreset frame
  by_cases nothing : sent = 0
  · have vs : (resetConnected x75 frame).vs = sent % x75.modulus := by
      rw [resetConnected, x75RequeueFrames_eq, nothing, Nat.zero_mod]
      rfl
    rw [← vs] at unreset
    exact unreset.kick kicked
  · rw [← x75Kick_vs (tracks.reset_unacked frame) (tracks.reset_ready window_pos bounded nothing)
      (sent % x75.modulus)] at kicked
    obtain ⟨more, log, out, sent_le, moves, rest⟩ := unreset.kick kicked
    exact ⟨more, log, out, sent_le,
      ⟨moves.tracks, moves.mode, moves.window, moves.callbacks, moves.events⟩, rest⟩

/-- **A reset is a turn.** The UA is sent, and then the frames again. -/
theorem Tracks.reset (tracks : Tracks x75 ⟨0, sent, 0⟩) (window_pos : 0 < x75.window)
    (bounded : InOneCounter x75) (kicked : x75Kick (resetConnected x75 frame) = some after) :
    ∃ station log out, CallTurn x75 ⟨0, sent, 0⟩ input after station log out ∧
      after.state = .state3 := by
  obtain ⟨more, log, out, sent_le, moves, emits, indicated, released⟩ :=
    tracks.reset_kick window_pos bounded kicked
  have ua : IsUnnumberedType x75Ua := .inr (.inr (.inr (.inr rfl)))
  have answers : ∀ bytes ∈ sentOf (transmitted x75 (controlField x75 x75Ua frame.pf) x75Response),
      IsUnnumbered bytes ∧ SendsIn after bytes := by
    intro bytes member
    have control := hasControl_of_mem ua member
    refine ⟨control.isUnnumbered ua, sendsIn_ua control fun idle => ?_⟩
    exact absurd (moves.tracks.connected.symm.trans idle) (by decide)
  have blank := carries_blank answers
  generalize lead : transmitted x75 (controlField x75 x75Ua frame.pf) x75Response = first
    at answers blank
  have quiet : releasedOf first = [] ∧ indicatedOf first = [] := by
    rw [← lead, transmitted, called]
    split <;> exact ⟨rfl, rfl⟩
  have numbered := ((List.forall₂_and_left _ _).mp (emits.represents.imp fun _ _ represents =>
    ⟨represents.not_isUnnumbered, represents⟩)).1
  have sends : sentOf (first ++ .sequenceReset :: log) = sentOf first ++ sentOf log :=
    sentOf_append first (.sequenceReset :: log)
  have indicates : indicatedOf (first ++ .sequenceReset :: log) = [] := by
    rw [indicatedOf_append, quiet.2]
    exact indicated
  have releases : releasedOf (first ++ .sequenceReset :: log) = [] := by
    rw [releasedOf_append, quiet.1]
    exact released
  have data_eq : dataOf (((sentOf first).map fun _ => ⟨0, none⟩) ++ out) = dataOf out := by
    rw [dataOf_append, dataOf_blank, List.nil_append]
  refine ⟨⟨0, more, 0⟩, first ++ .sequenceReset :: log,
    ((sentOf first).map fun _ => ⟨0, none⟩) ++ out, ⟨.connected moves.tracks, moves.mode,
      moves.window, moves.callbacks, ?_, ⟨Nat.le_refl 0, .inl rfl, sent_le, ?_, .inl rfl, ?_, ?_⟩,
      ?_, ?_, ?_, ?_, .inl ⟨rfl, indicates⟩⟩, moves.tracks.connected⟩
  · rw [moves.events, ← lead, resetConnected, x75RequeueFrames_eq]
    change (x75.events ++ transmitted x75 _ _ ++ [.sequenceReset]) ++ log = _
    simp only [List.append_assoc, List.singleton_append]
  · have within := moves.tracks.within
    rw [moves.window] at within
    exact within
  · intro frame member
    rcases List.mem_append.mp member with early | late
    · obtain ⟨_, -, rfl⟩ := List.mem_map.mp early
      rfl
    · exact emits.answers frame late
  · rw [data_eq]
    exact emits.numbers
  · rw [sends]
    exact List.rel_append blank (emits.represents.imp fun _ _ represents => .numbered represents)
  · rw [sends]
    intro bytes member
    rcases List.mem_append.mp member with early | late
    · exact (answers bytes early).2
    · exact .numbered (numbered bytes late) moves.tracks.connected
  · rw [data_eq]
    exact emits.queued
  · rw [releases]
    rfl

end Reset

/-! ## Room in the counters -/

section Room

variable {x75 before sent after : X75Cb} {op : Op}

theorem InOneCounter.of_same (bounded : InOneCounter x75) (same : SameTraffic x75 after) :
    InOneCounter after := by
  rw [InOneCounter, same.writeQueue, same.ackQueue]
  exact bounded

theorem InOneCounter.change (bounded : InOneCounter x75)
    (room : op.isRequest = true →
      x75.writeQueue.msgs.length + x75.ackQueue.msgs.length + 1 < 2 ^ 32)
    (change : TrafficChange x75 op before) : InOneCounter before := by
  have none : InOneCounter (x75ClearQueues x75) := Nat.two_pow_pos 32
  have released : ∀ rounds, InOneCounter (acknowledge x75 rounds) := by
    intro rounds
    unfold InOneCounter at bounded ⊢
    rw [acknowledge_writeQueue, acknowledge_ackQueue_msgs, List.length_drop]
    omega
  cases change with
  | kept same => exact bounded.of_same same
  | accepted skb _ =>
      have room := room rfl
      unfold InOneCounter
      simp only [enqueueData, CountedQueue.enqueue_msgs, List.length_append, List.length_singleton]
      omega
  | purged _ same => exact none.of_same same
  | setUp _ same =>
      have zero : InOneCounter { x75 with vs := 0, va := 0 } := bounded
      exact zero.of_same same
  | acked frame _ _ _ _ same => exact (released _).of_same same
  | @requeued _ rounds _ vs va _ _ same =>
      refine InOneCounter.of_same ?_ same
      have released := released rounds
      unfold InOneCounter at released ⊢
      rw [requeued_writeQueue_msgs, requeued_ackQueue_msgs, List.length_append, List.length_nil]
      exact released
  | parameters => exact bounded
  | registered => exact Nat.two_pow_pos 32

theorem InOneCounter.kick (bounded : InOneCounter before) (kicked : KickChange before sent) :
    InOneCounter sent := by
  cases kicked with
  | none => exact bounded
  | @sent k _ _ _ same =>
      refine InOneCounter.of_same ?_ same
      unfold InOneCounter at bounded ⊢
      rw [sendFirst_writeQueue_msgs, sendFirst_ackQueue_msgs, List.length_append, List.length_take,
        List.length_drop]
      change before.writeQueue.msgs.length - k +
        (before.ackQueue.msgs.length + min k before.writeQueue.msgs.length) < 2 ^ 32
      omega

/-- **The queues stay in one counter** as long as every payload that is accepted has room. -/
theorem InOneCounter.step (bounded : InOneCounter x75) (wellFormed : x75.WellFormed)
    (room : op.isRequest = true →
      x75.writeQueue.msgs.length + x75.ackQueue.msgs.length + 1 < 2 ^ 32)
    (taken : exec x75 op = some after) : InOneCounter after := by
  obtain ⟨before, sent, change, kicked, same, -⟩ := exec_change wellFormed taken
  exact ((bounded.change room change).kick kicked).of_same same

end Room

/-! ## Every operation of an end -/

/-- The retries of T1 are used up, and the end gives up. -/
def GivesUp (x75 : X75Cb) (op : Op) : Prop :=
  x75.T1Acts op ∧ x75.n2count = x75.n2 ∧ x75.state ≠ .state0

instance (x75 : X75Cb) (op : Op) : Decidable (GivesUp x75 op) :=
  inferInstanceAs (Decidable (_ ∧ _))

/-- How the state moves: a connection is kept, an end is idle only when it was idle, and a
frame that was read has connected the end. -/
structure Onward (mode : UInt32) (x75 after : X75Cb) (read : Option Bytes) : Prop where
  held : x75.state = .state3 → after.state = .state3
  started : after.state = .state0 → x75.state = .state0
  connects : after.state = .state3 →
    x75.state = .state3 ∨ ∃ bytes ∈ read, IsSetUp mode bytes ∨ IsUa bytes
  unpurged : purges after = purges x75

/-- The operation is a turn, and the state moves on. -/
def Taken (mode : UInt32) (x75 : X75Cb) (station : Station) (read : Option Bytes)
    (input : Option (Frame Bytes)) (after : X75Cb) : Prop :=
  Onward mode x75 after read ∧
    ∃ station' log out, CallTurn x75 station input after station' log out

section Ends

variable {x75 after : X75Cb} {station : Station} {op : Op} {mode : UInt32} {bytes : Bytes}
  {sent : Frame Bytes}

/-- Only an operation that purges, a request to disconnect and a registration lead back to
state 0. -/
theorem exec_onward (wellFormed : x75.WellFormed) (taken : exec x75 op = some after)
    (kept : ¬ OpPurges x75 op) (steady : op ≠ .disconnectRequest ∧ op.isRegister = false) :
    purges after = purges x75 ∧
      (after.state = .state0 → x75.state = .state0 ∨ x75.state = .state2) ∧
      (after.state = .state3 → x75.state = .state3 ∨ OpSetsUp x75 op) := by
  obtain ⟨before, sent, change, kicked, same, still⟩ := exec_change wellFormed taken
  have last : purges after = purges before := by
    rw [← purges_kick kicked, purges, same.count_eq rfl, purges]
  have state : after.state = before.state := still.trans kicked.state
  have of_same : ∀ {base : X75Cb}, SameTraffic base before → purges before = purges base :=
    fun same => same.count_eq rfl
  rw [last, state]
  cases change with
  | kept same move =>
      refine ⟨of_same same, fun idle => ?_, fun connected => ?_⟩
      · rcases move with still | ⟨-, four⟩ | ⟨two, -⟩ | ⟨-, one⟩ | ⟨-, request, -⟩
        · exact .inl (still.symm.trans idle)
        · exact absurd (four.symm.trans idle) (by decide)
        · exact .inr two
        · exact absurd (one.symm.trans idle) (by decide)
        · exact absurd request steady.1
      · rcases move with still | ⟨-, four⟩ | ⟨-, zero⟩ | ⟨-, one⟩ | ⟨-, -, zero⟩
        · exact .inl (still.symm.trans connected)
        · exact absurd (four.symm.trans connected) (by decide)
        · exact absurd (zero.symm.trans connected) (by decide)
        · exact absurd (one.symm.trans connected) (by decide)
        · exact absurd (zero.symm.trans connected) (by decide)
  | accepted skb _ => exact ⟨List.count_append.trans rfl, .inl, .inl⟩
  | purged purging => exact absurd purging kept
  | setUp setsUp same three =>
      refine ⟨same.count_eq rfl, fun idle => ?_, fun _ => .inr setsUp⟩
      exact absurd (three.symm.trans idle) (by decide)
  | acked frame connected _ _ _ same three =>
      refine ⟨(of_same same).trans (purges_acknowledge x75 _), fun idle => ?_,
        fun _ => .inl connected⟩
      exact absurd (three.symm.trans idle) (by decide)
  | requeued vs va _ requeues same three =>
      refine ⟨(of_same same).trans (purges_acknowledge x75 _), fun idle => ?_,
        fun _ => .inl (requeueRounds_cases requeues).1⟩
      rcases three with three | one
      · exact absurd (three.symm.trans idle) (by decide)
      · exact absurd (one.symm.trans idle) (by decide)
  | parameters => exact ⟨rfl, .inl, .inl⟩
  | registered => exact absurd steady.2 (by simp [Op.isRegister])

theorem Stands.wellFormed (stands : Stands x75 station) (window_pos : 0 < x75.window) :
    x75.WellFormed := by
  cases stands with
  | waits waits =>
      refine ⟨window_pos, waits.window_lt, fun connected => absurd waits.state ?_⟩
      rcases connected with three | four
      · rw [three]
        decide
      · rw [four]
        decide
  | connected tracks => exact tracks.wellFormed window_pos

theorem Stands.state (stands : Stands x75 station) :
    x75.state = .state0 ∨ x75.state = .state1 ∨ x75.state = .state3 := by
  cases stands with
  | waits waits => exact waits.state.imp_right .inl
  | connected tracks => exact .inr (.inr tracks.connected)

/-- A turn in the connection. -/
theorem TurnTaken.taken {read : Option Bytes} {input : Option (Frame Bytes)}
    {station' : Station} {log : List Event} {out : List (Frame Bytes)}
    (turn : TurnTaken x75 station input after station' log out)
    (connected : x75.state = .state3) (unpurged : purges after = purges x75) :
    Taken mode x75 station read input after := by
  refine ⟨⟨fun _ => turn.tracks.connected, fun idle => ?_, fun _ => .inl connected, unpurged⟩,
    _, _, _, turn.call⟩
  exact absurd (turn.tracks.connected.symm.trans idle) (by decide)

/-- What an end does without a frame. -/
inductive IsOwn : Op → Prop where
  | dataRequest (skb : Bytes) : IsOwn (.dataRequest skb)
  | connectRequest : IsOwn .connectRequest
  | t1Expiry : IsOwn .t1Expiry
  | t2Expiry : IsOwn .t2Expiry

/-- Such an operation purges only when the end gives up. -/
theorem IsOwn.not_purges (own : IsOwn op) (goesOn : ¬ GivesUp x75 op) : ¬ OpPurges x75 op := by
  rintro (⟨frame, received, -⟩ | gives | ⟨rfl, -⟩ | rfl)
  · cases own <;> cases received
  · exact goesOn gives
  · cases own
  · cases own

/-- **What an end does of its own.** -/
theorem Stands.act (stands : Stands x75 station) (window_pos : 0 < x75.window) (own : IsOwn op)
    (goesOn : ¬ GivesUp x75 op) (taken : exec x75 op = some after) :
    Taken mode x75 station none none after := by
  have steady : op ≠ .disconnectRequest ∧ op.isRegister = false := by
    cases own <;> exact ⟨nofun, rfl⟩
  obtain ⟨unpurged, idle, connects⟩ :=
    exec_onward (stands.wellFormed window_pos) taken (own.not_purges goesOn) steady
  cases stands with
  | waits waits none =>
      subst none
      have apart : x75.state ≠ .state3 ∧ x75.state ≠ .state2 := by
        rcases waits.state with zero | one
        · rw [zero]
          decide
        · rw [one]
          decide
      refine ⟨⟨fun three => absurd three apart.1, fun zero => (idle zero).resolve_right apart.2,
        fun three => ?_, unpurged⟩, ⟨0, 0, 0⟩, ?_⟩
      · rcases connects three with connected | ⟨frame, received, -⟩
        · exact absurd connected apart.1
        · cases own <;> cases received
      · cases own with
        | dataRequest skb => exact waits.request taken ▸ waits.stay
        | connectRequest => exact waits.connect taken
        | t1Expiry => exact waits.expire (.inl rfl) taken unpurged
        | t2Expiry => exact waits.expire (.inr rfl) taken unpurged
  | connected tracks =>
      have unended : ¬ Ended x75 after := by
        intro ended
        rcases idle ended.state with zero | two
        · exact absurd (zero.symm.trans tracks.connected) (by decide)
        · exact absurd (two.symm.trans tracks.connected) (by decide)
      cases own with
      | dataRequest skb =>
          obtain ⟨_, _, _, turn⟩ := tracks.request taken
          exact turn.taken tracks.connected unpurged
      | connectRequest =>
          simp only [exec, x75ConnectRequest, tracks.connected, reduceCtorEq, if_false, true_or,
            if_true, Option.some.injEq] at taken
          subst taken
          obtain ⟨_, _, _, turn⟩ := (Arrival.refl tracks none).rest
          exact turn.taken tracks.connected rfl
      | t1Expiry =>
          obtain ⟨_, _, _, turn⟩ := (tracks.expire (.inl rfl) taken).resolve_left unended
          exact turn.taken tracks.connected unpurged
      | t2Expiry =>
          obtain ⟨_, _, _, turn⟩ := (tracks.expire (.inr rfl) taken).resolve_left unended
          exact turn.taken tracks.connected unpurged

/-- What is decoded from a frame of the peer. -/
theorem Carries.decode (carries : Carries mode bytes sent)
    (same : x75.extended = extendedMode mode) (stack : X75Frame) :
    ∃ decoded rest, x75Decode x75 bytes stack = some (decoded, rest) ∧
      (decoded.type ≠ x75Disc ∧ decoded.type ≠ x75Dm ∨
        IsDm bytes ∧ decoded.type = x75Dm ∧ decoded.pf = 0) := by
  cases carries with
  | numbered represents =>
      obtain ⟨decoded, rest, read, -, kind⟩ := represents.decode same stack
      refine ⟨decoded, rest, read, .inl ?_⟩
      rcases kind with ⟨-, rr | rej⟩ | ⟨_, -, data, -⟩
      · rw [rr]
        decide
      · rw [rej]
        decide
      · rw [data]
        decide
  | unnumbered kind =>
      rcases kind with dm | setUp | ⟨pollBit, ua⟩
      · obtain ⟨decoded, rest, read, type, final⟩ :=
          HasControl.decode dm (.inr (.inr (.inr (.inl rfl)))) x75 stack
        exact ⟨decoded, rest, read, .inr ⟨dm, type, final⟩⟩
      · obtain ⟨decoded, rest, read, type, -⟩ :=
          HasControl.decode setUp (setUpType_known mode) x75 stack
        refine ⟨decoded, rest, read, .inl ?_⟩
        rw [type, setUpType]
        split <;> decide
      · obtain ⟨decoded, rest, read, type, -⟩ :=
          HasControl.decode ua (.inr (.inr (.inr (.inr rfl)))) x75 stack
        refine ⟨decoded, rest, read, .inl ?_⟩
        rw [type]
        decide

/-- No frame of the peer releases the link, if no DM comes in state 3. -/
theorem Carries.not_purges (carries : Carries mode bytes sent)
    (same : x75.extended = extendedMode mode) (started : x75.state = .state3 → ¬ IsDm bytes)
    (stack : X75Frame) : ¬ OpPurges x75 (.dataReceived bytes stack) := by
  obtain ⟨decoded, rest, read, kind⟩ := carries.decode same stack
  rintro (⟨frame, received, releases⟩ | ⟨acts, -⟩ | ⟨other, -⟩ | other)
  · rw [receivedFrame, read] at received
    obtain rfl := Option.some.inj received
    rcases kind with ⟨disc, dm⟩ | ⟨dm, type, final⟩
    · rcases releases with ⟨-, type, -⟩ | ⟨-, type | type⟩
      · exact dm type
      · exact disc type
      · exact dm type
    · rcases releases with ⟨-, -, set⟩ | ⟨connected, -⟩
      · exact set final
      · exact started connected dm
  · exact acts
  · cases other
  · cases other

/-- **What an end does with a frame of the peer.** -/
theorem Stands.receive (stands : Stands x75 station) (window_pos : 0 < x75.window)
    (bounded : InOneCounter x75) (carries : Carries mode bytes sent)
    (same : x75.extended = extendedMode mode) (low : station.acked ≤ sent.nr)
    (high : sent.nr ≤ station.sent)
    (expected : ∀ entry ∈ sent.data, entry.1 % x75.modulus = station.received % x75.modulus →
      entry.1 = station.received)
    (started : x75.state = .state3 → ¬ IsDm bytes)
    (unread : IsSetUp mode bytes → station.acked = 0 ∧ station.received = 0) (stack : X75Frame)
    (taken : exec x75 (.dataReceived bytes stack) = some after) :
    Taken mode x75 station (some bytes) (some sent) after := by
  obtain ⟨unpurged, idle, -⟩ := exec_onward (stands.wellFormed window_pos) taken
    (carries.not_purges same started stack) ⟨nofun, rfl⟩
  cases stands with
  | waits waits none =>
      subst none
      obtain ⟨turn, connects⟩ := waits.receive carries same stack taken
      refine ⟨⟨fun three => ?_, fun zero => (idle zero).resolve_right fun two => ?_,
        fun three => .inr ⟨bytes, rfl, connects three⟩, unpurged⟩, _, turn⟩
      · exact absurd waits.state (by simp [three])
      · exact absurd waits.state (by simp [two])
  | connected tracks =>
      cases carries with
      | numbered represents =>
          obtain ⟨-, turns⟩ := tracks.receive represents same low high expected stack
          obtain ⟨_, _, _, turn⟩ := turns after taken
          exact turn.taken tracks.connected unpurged
      | unnumbered kind =>
          rcases kind with dm | setUp | ⟨pollBit, ua⟩
          · exact absurd dm (started tracks.connected)
          · obtain ⟨decoded, rest, read, type, -⟩ :=
              HasControl.decode setUp (setUpType_known mode) x75 stack
            have type' : decoded.type = setUpType x75.mode := by
              rw [type, setUpType, setUpType, ← same]
            obtain ⟨acked, received⟩ := unread setUp
            rcases station with ⟨_, count, _⟩
            obtain rfl : _ = 0 := acked
            obtain rfl : _ = 0 := received
            simp only [exec, x75DataReceived, x75DataInput, read,
              x75Machine_resets tracks.connected type'] at taken
            obtain ⟨_, _, _, turn, three⟩ := tracks.reset window_pos bounded taken
            refine ⟨⟨fun _ => three, fun zero => ?_, fun _ => .inl tracks.connected, unpurged⟩,
              _, _, _, turn⟩
            exact absurd (three.symm.trans zero) (by decide)
          · obtain ⟨decoded, rest, read, type, -⟩ :=
              HasControl.decode ua (.inr (.inr (.inr (.inr rfl)))) x75 stack
            simp only [exec, x75DataReceived, x75DataInput, read,
              x75Machine_again tracks.connected type] at taken
            obtain ⟨_, _, _, turn⟩ := (Arrival.refl tracks (some sent)).kick taken
            exact turn.taken tracks.connected unpurged

end Ends

end IsdnRas.X75
