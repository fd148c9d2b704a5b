import IsdnRas.X75.Outcomes

/-!
# The steps of a control block

`ExecOutcome` lists what one operation can do, with the guard of every form, and
`exec_outcome` says that the list is complete. The forms of a received frame are
those of `MachineOutcome`, followed by `x75Kick`; the forms of a timer that
expires are those of `HandlerOutcome`. A result of `none` is the end of the
process in `x75Kick`.

The module ends with the first invariant of runs: the window stays between one
and the modulus, and in a connection the sequence variables stay below the
modulus (`WellFormed`).
-/

set_option autoImplicit false

namespace IsdnRas.X75

/-! ## Timer handlers -/

/-- T1 has not been armed again and has not been stopped. -/
def X75Cb.T1Due (x75 : X75Cb) : Prop := x75.t1timer.active = false ∧ x75.t1timerRunning = true

instance (x75 : X75Cb) : Decidable x75.T1Due := inferInstanceAs (Decidable (_ ∧ _))

/-- What the handler of an expired timer can do. -/
inductive HandlerOutcome (x75 : X75Cb) : Option TimerHandler → Option X75Cb → Prop where
  /-- No handler, or the handler finds its timer armed again or stopped. -/
  | idle (handler : Option TimerHandler)
      (reason : handler = some .t1timerExpiry → ¬ x75.T1Due) :
      HandlerOutcome x75 handler (some x75)
  /-- The delayed acknowledgement. -/
  | acknowledged (condition : UInt8) (events : List Event)
      (answers : AllAnswers x75.mode x75.vr events)
      (busy : testFlag condition x75PeerRxBusyCondition =
        testFlag x75.condition x75PeerRxBusyCondition) :
      HandlerOutcome x75 (some .t2timerExpiry)
        (some { x75.note condition events with t2timerRunning := false })
  | retried (n2count : UInt16) (events : List Event) (quiet : AllQuiet events)
      (apart : x75.state ≠ .state3) :
      HandlerOutcome x75 (some .t1timerExpiry)
        (some ({ x75StartT1timer x75 with n2count := n2count }.record events))
  | dialled (state : x75.state = .state0) :
      HandlerOutcome x75 (some .t1timerExpiry)
        (some (x75StartT1timer (x75EstablishDataLink { x75 with state := .state1 })))
  | gaveUp (t2timer : OsmoTimer) (t2timerRunning : Bool) (events : List Event)
      (unhandled : t2timer.cb = x75.t2timer.cb) (quiet : AllQuiet events) (due : x75.T1Due)
      (apart : x75.state ≠ .state0) (exhausted : x75.n2count = x75.n2) :
      HandlerOutcome x75 (some .t1timerExpiry)
        (some ({ x75ClearQueues x75 with
          state := .state0
          t1timerRunning := false
          t2timer := t2timer
          t2timerRunning := t2timerRunning }.record events))
  | retransmitted {result : Option X75Cb} (due : x75.T1Due) (connected : x75.state = .state3)
      (left : x75.n2count ≠ x75.n2)
      (kicked : (x75Kick (x75RequeueFrames { x75 with n2count := x75.n2count + 1 })).map
        x75StartT1timer = result) :
      HandlerOutcome x75 (some .t1timerExpiry) result

theorem x75T2timerExpiry_outcome (x75 : X75Cb) :
    HandlerOutcome x75 (some .t2timerExpiry) (some (x75T2timerExpiry x75)) := by
  unfold x75T2timerExpiry
  split
  · exact .idle _ (by simp)
  split
  · exact .idle _ (by simp)
  split
  · exact .acknowledged
      (clearFlag (clearFlag x75.condition x75AckPendingCondition) x75AckPendingCondition) _
      (answers_supervisory _ (.inl rfl) x75Polloff x75Response) (by simp)
  · have outcome : HandlerOutcome x75 (some .t2timerExpiry) _ :=
      .acknowledged x75.condition [] allAnswers_nil rfl
    rwa [note_self] at outcome

/-- T1 expires while there are retries left, outside a connection. -/
theorem retried_outcome {x75 : X75Cb} (apart : x75.state ≠ .state3) (n2count : UInt16)
    {frame : Bytes} {type : UInt8}
    (quiet : AllQuiet (transmitted { x75 with n2count := n2count } frame type)) :
    HandlerOutcome x75 (some .t1timerExpiry)
      (some (x75StartT1timer
        (x75TransmitBuffer { x75 with n2count := n2count } frame type))) :=
  .retried n2count _ quiet apart

theorem x75T1timerExpiry_outcome (x75 : X75Cb) :
    HandlerOutcome x75 (some .t1timerExpiry) (x75T1timerExpiry x75) := by
  unfold x75T1timerExpiry
  split
  case isTrue active => exact .idle _ fun _ due => Bool.false_ne_true (due.1.symm.trans active)
  case isFalse expired =>
  split
  case isTrue stopped => exact .idle _ fun _ due => Bool.false_ne_true (stopped.symm.trans due.2)
  case isFalse running =>
  have due : x75.T1Due := ⟨by simpa using expired, by simpa using running⟩
  split
  case h_1 state =>
      split
      · exact retried_outcome (by simp [state]) _ (quiet_response _ _ _ (by simp))
      · exact .dialled state
  case h_2 state =>
      split
      case isTrue exhausted =>
          exact .gaveUp x75.t2timer x75.t2timerRunning _ rfl (AllQuiet.called trivial)
            due (by simp [state]) exhausted
      case isFalse =>
          refine retried_outcome (by simp [state]) _ (quiet_response _ _ _ ?_)
          cases x75.extended <;> simp
  case h_3 state =>
      split
      case isTrue exhausted =>
          exact .gaveUp x75.t2timer x75.t2timerRunning _ rfl (AllQuiet.called trivial)
            due (by simp [state]) exhausted
      case isFalse =>
          exact retried_outcome (by simp [state]) _ (quiet_response _ _ _ (by simp))
  case h_4 state =>
      split
      case isTrue exhausted =>
          exact .gaveUp (osmoTimerDel x75.t2timer) false _ rfl (AllQuiet.called trivial)
            due (by simp [state]) exhausted
      case isFalse left =>
          exact .retransmitted due state left rfl
  case h_5 state =>
      split
      case isTrue exhausted =>
          exact .gaveUp x75.t2timer x75.t2timerRunning _ rfl (AllQuiet.called trivial)
            due (by simp [state]) exhausted
      case isFalse => exact retried_outcome (by simp [state]) _ (quiet_frmr _)

/-- **What the handler of an expired timer can do.** -/
theorem callHandler_outcome (x75 : X75Cb) (handler : Option TimerHandler) :
    HandlerOutcome x75 handler (callHandler x75 handler) := by
  rcases handler with - | (- | -)
  · exact .idle none (by simp)
  · exact x75T1timerExpiry_outcome x75
  · exact x75T2timerExpiry_outcome x75

/-! ## Operations -/

/-- What one operation can do. -/
inductive ExecOutcome (x75 : X75Cb) : Op → Option X75Cb → Prop where
  /-- A request that is refused or has nothing to do, a frame that cannot be
  decoded, a timer that is not armed. -/
  | ignored (op : Op) : ExecOutcome x75 op (some x75)
  | requested {skb : Bytes} {result : Option X75Cb}
      (connected : x75.state = .state3 ∨ x75.state = .state4)
      (kicked : x75Kick (enqueueData x75 skb) = result) :
      ExecOutcome x75 (.dataRequest skb) result
  | received {skb rest : Bytes} {stack frame : X75Frame} {machined : X75Cb}
      {result : Option X75Cb} (decoded : x75Decode x75 skb stack = some (frame, rest))
      (machine : MachineOutcome x75 rest frame machined)
      (kicked : x75Kick machined = result) :
      ExecOutcome x75 (.dataReceived skb stack) result
  | dialled (apart : x75.state = .state0 ∨ x75.state = .state2) :
      ExecOutcome x75 .connectRequest (some { x75EstablishDataLink x75 with state := .state1 })
  | abandoned (events : List Event) (quiet : AllQuiet events) (awaiting : x75.state = .state1) :
      ExecOutcome x75 .disconnectRequest
        (some ({ x75StartT1timer x75 with state := .state0 }.record events))
  | hungUp (events : List Event) (quiet : AllQuiet events)
      (connected : x75.state = .state3 ∨ x75.state = .state4) :
      ExecOutcome x75 .disconnectRequest
        (some ({ x75StopT2timer (x75StartT1timer (x75ClearQueues x75)) with
          n2count := 0
          state := .state2 }.record events))
  | parameters {parms : ParmsStruct} (mode : UInt32) (window : Nat) (t1 t2 n2 : UInt16)
      (kept : x75.state = .state0 ∨ mode = x75.mode ∧ window = x75.window)
      (accepted : x75.state = .state0 → 0 < window ∧ window < modulusOf mode) :
      ExecOutcome x75 (.setparms parms)
        (some { x75 with mode := mode, window := window, t1 := t1, t2 := t2, n2 := n2 })
  | unregistered : ExecOutcome x75 .unregister (some (x75Unregister x75))
  | registered (callbacks : RegisterStruct) :
      ExecOutcome x75 (.register callbacks) (some (x75Register x75 callbacks))
  | t1Expired {result : Option X75Cb} (armed : x75.t1timer.active = true)
      (handled : HandlerOutcome { x75 with t1timer := osmoTimerDel x75.t1timer }
        x75.t1timer.cb result) :
      ExecOutcome x75 .t1Expiry result
  | t2Expired {result : Option X75Cb} (armed : x75.t2timer.active = true)
      (handled : HandlerOutcome { x75 with t2timer := osmoTimerDel x75.t2timer }
        x75.t2timer.cb result) :
      ExecOutcome x75 .t2Expiry result

/-- A window that is accepted lies between one and the modulus, also after it
has been stored in a byte. -/
theorem windowAccepted_bounds {parms : ParmsStruct} (accepted : windowAccepted parms = true) :
    0 < parms.window.toUInt8.toNat ∧ parms.window.toUInt8.toNat < modulusOf parms.mode := by
  have bounds : 1 ≤ parms.window.toNat ∧ parms.window.toNat < modulusOf parms.mode ∧
      parms.window.toNat < 128 := by
    unfold windowAccepted at accepted
    unfold modulusOf extendedMode
    split at accepted
    case isTrue extended =>
        rw [if_pos extended]
        simp only [Bool.and_eq_true, decide_eq_true_eq, UInt32.le_iff_toNat_le] at accepted
        exact ⟨accepted.1, Nat.lt_succ_of_le accepted.2, Nat.lt_succ_of_le accepted.2⟩
    case isFalse standard =>
        rw [if_neg standard]
        simp only [Bool.and_eq_true, decide_eq_true_eq, UInt32.le_iff_toNat_le] at accepted
        have upper : parms.window.toNat ≤ 7 := accepted.2
        exact ⟨accepted.1, Nat.lt_succ_of_le upper, by omega⟩
  have byte : parms.window.toUInt8.toNat = parms.window.toNat := by
    rw [UInt32.toNat_toUInt8]
    omega
  omega

theorem x75Setparms_outcome (x75 : X75Cb) (parms : ParmsStruct) :
    ExecOutcome x75 (.setparms parms) (some (x75Setparms x75 parms).2) := by
  unfold x75Setparms
  split
  · exact .ignored _
  split
  · exact .ignored _
  case isFalse window =>
  by_cases state : x75.state = .state0
  · have accepted : windowAccepted parms = true := by simpa [state] using window
    simp only [if_pos state]
    exact .parameters parms.mode parms.window.toUInt8.toNat _ _ _ (.inl state)
      fun _ => windowAccepted_bounds accepted
  · simp only [if_neg state]
    exact .parameters x75.mode x75.window _ _ _ (.inr ⟨rfl, rfl⟩) fun apart => absurd apart state

theorem x75DisconnectRequest_outcome (x75 : X75Cb) :
    ExecOutcome x75 .disconnectRequest (some (x75DisconnectRequest x75).2) := by
  have hungUp : x75.state = .state3 ∨ x75.state = .state4 → ExecOutcome x75 .disconnectRequest
      (some { x75StopT2timer (x75StartT1timer (x75SendControl { x75ClearQueues x75 with
        n2count := 0 } x75Disc x75Pollon x75Command)) with state := .state2 }) :=
    fun connected => .hungUp _ (quiet_response _ _ _ (by simp)) connected
  unfold x75DisconnectRequest
  split
  case h_1 => exact .ignored _
  case h_2 state => exact .abandoned _ (quiet_response x75 _ _ (by simp)) state
  case h_3 => exact .ignored _
  case h_4 state => exact hungUp (.inl state)
  case h_5 state => exact hungUp (.inr state)

/-- **What one operation can do.** -/
theorem exec_outcome (x75 : X75Cb) (op : Op) : ExecOutcome x75 op (exec x75 op) := by
  cases op with
  | dataRequest skb =>
      simp only [exec, x75DataRequest]
      split
      · exact .ignored _
      case isFalse connected =>
          refine .requested ?_ (by simp)
          cases state : x75.state <;> simp_all
  | connectRequest =>
      simp only [exec, x75ConnectRequest]
      split
      · exact .ignored _
      split
      · exact .ignored _
      · refine .dialled ?_
        cases state : x75.state <;> simp_all
  | disconnectRequest => exact x75DisconnectRequest_outcome x75
  | dataReceived skb stack =>
      simp only [exec, x75DataReceived, x75DataInput]
      split
      · exact .ignored _
      case h_2 decoded => exact .received decoded (x75Machine_outcome ..) rfl
  | t1Expiry =>
      simp only [exec, t1timerExpires]
      split
      case isTrue armed => exact .t1Expired armed (callHandler_outcome ..)
      case isFalse => exact .ignored _
  | t2Expiry =>
      simp only [exec, t2timerExpires]
      split
      case isTrue armed => exact .t2Expired armed (callHandler_outcome ..)
      case isFalse => exact .ignored _
  | setparms parms => exact x75Setparms_outcome x75 parms
  | unregister => exact .unregistered
  | register callbacks => exact .registered callbacks

/-! ## Well-formed control blocks -/

/-- The control block is in a connection. -/
def X75Cb.Connected (x75 : X75Cb) : Prop := x75.state = .state3 ∨ x75.state = .state4

instance (x75 : X75Cb) : Decidable x75.Connected := inferInstanceAs (Decidable (_ ∨ _))

/-- All sequence variables are below the modulus. -/
def X75Cb.InModulus (x75 : X75Cb) : Prop :=
  x75.vs < x75.modulus ∧ x75.vr < x75.modulus ∧ x75.va < x75.modulus

instance (x75 : X75Cb) : Decidable x75.InModulus := inferInstanceAs (Decidable (_ ∧ _ ∧ _))

/-- The window fits the modulus, and the sequence variables do in a connection.
Outside a connection the mode may change under them. -/
structure X75Cb.WellFormed (x75 : X75Cb) : Prop where
  window_pos : 0 < x75.window
  window_lt : x75.window < x75.modulus
  sequence : x75.Connected → x75.InModulus

/-- A freshly registered control block is well formed. -/
theorem wellFormed_register (x75 : X75Cb) (callbacks : RegisterStruct) :
    (x75Register x75 callbacks).WellFormed where
  window_pos := Nat.zero_lt_succ 6
  window_lt := show 7 < modulusOf (x75Standard ||| x75Slp ||| x75Dce) by decide
  sequence := fun connected => by simp [X75Cb.Connected, x75Register] at connected

namespace X75Cb.WellFormed

variable {x75 after : X75Cb}

/-- A step that keeps the mode and the window. -/
theorem of_kept (wellFormed : x75.WellFormed) (mode : after.mode = x75.mode)
    (window : after.window = x75.window) (sequence : after.Connected → after.InModulus) :
    after.WellFormed := by
  refine ⟨?_, ?_, sequence⟩
  · rw [window]
    exact wellFormed.window_pos
  · rw [window, X75Cb.modulus, mode]
    exact wellFormed.window_lt

theorem of_apart (wellFormed : x75.WellFormed) (mode : after.mode = x75.mode)
    (window : after.window = x75.window) (apart : ¬ after.Connected) : after.WellFormed :=
  wellFormed.of_kept mode window fun connected => absurd connected apart

theorem kick (wellFormed : x75.WellFormed) (kicked : x75Kick x75 = some after) :
    after.WellFormed := by
  rcases x75Kick_cases kicked with ⟨-, rfl⟩ | ⟨-, k, -, rfl⟩
  · exact wellFormed
  · refine wellFormed.of_kept rfl rfl fun connected => ?_
    obtain ⟨-, vr, va⟩ := wellFormed.sequence connected
    exact ⟨Nat.mod_lt _ (modulus_pos x75.mode), vr, va⟩

theorem acknowledge (wellFormed : x75.WellFormed) (connected : x75.Connected) (rounds : Nat) :
    (X75.acknowledge x75 rounds).WellFormed := by
  obtain ⟨vs, vr, -⟩ := wellFormed.sequence connected
  exact wellFormed.of_kept rfl rfl fun _ => ⟨vs, vr, Nat.mod_lt _ (modulus_pos x75.mode)⟩

theorem machine {skb : Bytes} {frame : X75Frame} (wellFormed : x75.WellFormed)
    (nr_lt : CarriesNr frame.type → frame.nr < x75.modulus)
    (machine : MachineOutcome x75 skb frame after) : after.WellFormed := by
  have zero : 0 < x75.modulus := modulus_pos x75.mode
  cases machine with
  | answered => exact wellFormed.of_kept rfl rfl wellFormed.sequence
  | connected =>
      rw [resetLink_eq]
      exact wellFormed.of_kept rfl rfl fun _ => ⟨zero, zero, zero⟩
  | released => exact wellFormed.of_apart rfl rfl (by simp [Connected])
  | disconnected => exact wellFormed.of_apart rfl rfl (by simp [Connected])
  | reset =>
      rw [resetLink_eq]
      exact wellFormed.of_kept rfl rfl fun _ => ⟨zero, zero, zero⟩
  | rejected _ _ _ _ connected =>
      exact wellFormed.of_kept rfl rfl fun _ => wellFormed.sequence (.inl connected)
  | ready condition events _ connected type _ =>
      have carries : CarriesNr frame.type := carriesNr_of_ready type
      have va := (wellFormed.sequence (.inl connected)).2.2
      obtain ⟨_, _, _, same⟩ := ready_eq va (nr_lt carries) condition events
      rw [same]
      have acked := wellFormed.acknowledge (.inl connected)
        (ackRounds (x75.note condition events) frame.nr)
      exact acked.of_kept rfl rfl acked.sequence
  | requeued condition events _ connected type _ _ =>
      have va := (wellFormed.sequence (.inl connected)).2.2
      rw [reject_eq va (nr_lt (carriesNr_of_reject type))]
      have acked := wellFormed.acknowledge (.inl connected)
        (ackRounds (x75.note condition events) frame.nr)
      exact acked.of_kept rfl rfl acked.sequence
  | inSequence connected type _ _ =>
      have va := (wellFormed.sequence (.inl connected)).2.2
      obtain ⟨_, _, _, _, _, _, _, -, -, same⟩ :=
        inSequence_eq va (nr_lt (carriesNr_of_iframe type)) skb frame
      rw [same]
      have acked := wellFormed.acknowledge (.inl connected) (ackRounds x75 frame.nr)
      refine acked.of_kept rfl rfl fun connected => ?_
      obtain ⟨vs, -, va⟩ := acked.sequence connected
      exact ⟨vs, Nat.mod_lt _ zero, va⟩
  | outOfSequence connected type _ _ =>
      have va := (wellFormed.sequence (.inl connected)).2.2
      obtain ⟨_, _, _, _, _, -, -, same⟩ :=
        outOfSequence_eq va (nr_lt (carriesNr_of_iframe type)) frame
      rw [same]
      have acked := wellFormed.acknowledge (.inl connected) (ackRounds x75 frame.nr)
      exact acked.of_kept rfl rfl acked.sequence
  | reestablished => exact wellFormed.of_apart rfl rfl (by simp [Connected])

theorem handler {handler : Option TimerHandler} (wellFormed : x75.WellFormed)
    (handled : HandlerOutcome x75 handler (some after)) : after.WellFormed := by
  cases handled with
  | idle => exact wellFormed
  | acknowledged => exact wellFormed.of_kept rfl rfl wellFormed.sequence
  | retried => exact wellFormed.of_kept rfl rfl wellFormed.sequence
  | dialled =>
      exact wellFormed.of_apart rfl rfl (by simp [Connected, x75EstablishDataLink])
  | gaveUp => exact wellFormed.of_apart rfl rfl (by simp [Connected])
  | retransmitted _ connected _ kicked =>
      obtain ⟨sent, sentKicked, rfl⟩ := Option.map_eq_some_iff.mp kicked
      have requeued : (x75RequeueFrames
          { x75 with n2count := x75.n2count + 1 }).WellFormed :=
        wellFormed.of_kept rfl rfl wellFormed.sequence
      have sentWell := requeued.kick sentKicked
      exact sentWell.of_kept rfl rfl sentWell.sequence

/-- **Every operation keeps a control block well formed.** -/
theorem step {op : Op} (wellFormed : x75.WellFormed) (taken : exec x75 op = some after) :
    after.WellFormed := by
  have outcome := exec_outcome x75 op
  rw [taken] at outcome
  cases outcome with
  | ignored => exact wellFormed
  | requested _ kicked =>
      refine kick ?_ kicked
      exact wellFormed.of_kept rfl rfl wellFormed.sequence
  | received decoded machine kicked =>
      exact (wellFormed.machine (x75Decode_nr_lt decoded) machine).kick kicked
  | dialled => exact wellFormed.of_apart rfl rfl (by simp [Connected])
  | abandoned => exact wellFormed.of_apart rfl rfl (by simp [Connected])
  | hungUp => exact wellFormed.of_apart rfl rfl (by simp [Connected])
  | parameters mode window _ _ _ kept accepted =>
      by_cases state : x75.state = .state0
      · obtain ⟨pos, lt⟩ := accepted state
        exact ⟨pos, lt, fun connected => by simp_all [Connected]⟩
      · obtain ⟨rfl, rfl⟩ := kept.resolve_left state
        exact wellFormed.of_kept rfl rfl wellFormed.sequence
  | unregistered =>
      rw [x75Unregister_eq]
      exact wellFormed.of_kept rfl rfl wellFormed.sequence
  | registered => exact wellFormed_register _ _
  | t1Expired _ handled =>
      refine handler ?_ handled
      exact wellFormed.of_kept rfl rfl wellFormed.sequence
  | t2Expired _ handled =>
      refine handler ?_ handled
      exact wellFormed.of_kept rfl rfl wellFormed.sequence

end X75Cb.WellFormed

/-! ## Events only accumulate -/

section Events

variable {x75 after : X75Cb}

theorem x75Kick_events (kicked : x75Kick x75 = some after) : x75.events <+: after.events := by
  rcases x75Kick_cases kicked with ⟨-, rfl⟩ | ⟨-, k, -, rfl⟩
  · exact List.prefix_rfl
  · exact List.prefix_append ..

theorem MachineOutcome.events {skb : Bytes} {frame : X75Frame} (wellFormed : x75.WellFormed)
    (nr_lt : CarriesNr frame.type → frame.nr < x75.modulus)
    (machine : MachineOutcome x75 skb frame after) : x75.events <+: after.events := by
  cases machine with
  | answered => exact List.prefix_append ..
  | connected before =>
      exact ((List.prefix_append x75.events before).trans (List.prefix_append ..)).trans
        (List.prefix_append ..)
  | released => exact (List.prefix_append x75.events _).trans (List.prefix_append ..)
  | disconnected => exact List.prefix_append ..
  | reset events => exact (List.prefix_append x75.events events).trans (List.prefix_append ..)
  | rejected => exact List.prefix_append ..
  | ready condition events _ connected type _ =>
      have carries : CarriesNr frame.type := carriesNr_of_ready type
      have va := (wellFormed.sequence (.inl connected)).2.2
      obtain ⟨_, _, _, same⟩ := ready_eq va (nr_lt carries) condition events
      rw [same]
      exact (List.prefix_append x75.events events).trans (List.prefix_append ..)
  | requeued condition events _ connected type _ _ =>
      have va := (wellFormed.sequence (.inl connected)).2.2
      rw [reject_eq va (nr_lt (carriesNr_of_reject type))]
      exact (List.prefix_append x75.events events).trans (List.prefix_append ..)
  | inSequence connected type _ _ =>
      have va := (wellFormed.sequence (.inl connected)).2.2
      obtain ⟨_, _, _, _, _, _, _, -, -, same⟩ :=
        inSequence_eq va (nr_lt (carriesNr_of_iframe type)) skb frame
      rw [same]
      exact (List.prefix_append ..).trans (List.prefix_append ..)
  | outOfSequence connected type _ _ =>
      have va := (wellFormed.sequence (.inl connected)).2.2
      obtain ⟨_, _, _, _, _, -, -, same⟩ :=
        outOfSequence_eq va (nr_lt (carriesNr_of_iframe type)) frame
      rw [same]
      exact (List.prefix_append ..).trans (List.prefix_append ..)
  | reestablished => exact List.prefix_append ..

theorem HandlerOutcome.events {handler : Option TimerHandler}
    (handled : HandlerOutcome x75 handler (some after)) : x75.events <+: after.events := by
  cases handled with
  | idle => exact List.prefix_rfl
  | acknowledged => exact List.prefix_append ..
  | retried => exact List.prefix_append ..
  | dialled => exact List.prefix_append ..
  | gaveUp => exact (List.prefix_append x75.events _).trans (List.prefix_append ..)
  | retransmitted _ _ _ kicked =>
      obtain ⟨sent, sentKicked, rfl⟩ := Option.map_eq_some_iff.mp kicked
      have grown := x75Kick_events sentKicked
      exact grown

/-- **An operation appends events** and changes none that happened before. -/
theorem exec_events {op : Op} (wellFormed : x75.WellFormed)
    (taken : exec x75 op = some after) : x75.events <+: after.events := by
  have outcome := exec_outcome x75 op
  rw [taken] at outcome
  cases outcome with
  | ignored => exact List.prefix_rfl
  | requested _ kicked => exact (List.prefix_append ..).trans (x75Kick_events kicked)
  | received decoded machine kicked =>
      exact (machine.events wellFormed (x75Decode_nr_lt decoded)).trans (x75Kick_events kicked)
  | dialled => exact List.prefix_append ..
  | abandoned => exact List.prefix_append ..
  | hungUp => exact (List.prefix_append x75.events _).trans (List.prefix_append ..)
  | parameters => exact List.prefix_rfl
  | unregistered => exact List.prefix_append ..
  | registered => exact List.prefix_rfl
  | t1Expired _ handled => exact handled.events
  | t2Expired _ handled => exact handled.events

end Events

end IsdnRas.X75
