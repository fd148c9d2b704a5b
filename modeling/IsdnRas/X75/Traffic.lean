import IsdnRas.X75.Steps

/-!
# The traffic part of a step

Claims about the queues look at the sequence variables V(S) and V(A), at the two
queues, and at the events that speak about payloads. The other fields of the
control block, timers among them, are left aside here.

An operation changes the traffic in at most two parts. The first is one of eight
changes (`TrafficChange`): nothing, a payload accepted, a purge, the link set up,
frames acknowledged, frames queued again, registration, new parameters. The
second is `x75Kick`, which follows some of the changes. `exec_traffic` says that
every completed operation is of this kind.
-/

set_option autoImplicit false

namespace IsdnRas.X75

/-! ## Events about payloads -/

/-- The events about payloads: accepted, released, purged, carried by an
I-frame. -/
def Event.isLoud (extended : Bool) : Event → Bool
  | .accepted _ => true
  | .acked _ => true
  | .queuesCleared => true
  | .dataTransmit frame => (iframePayload extended frame).isSome
  | _ => false

/-- The events about payloads, in order. -/
def loudOf (extended : Bool) (events : List Event) : List Event :=
  events.filter (·.isLoud extended)

@[simp] theorem loudOf_append (extended : Bool) (first second : List Event) :
    loudOf extended (first ++ second) = loudOf extended first ++ loudOf extended second :=
  List.filter_append ..

@[simp] theorem loudOf_nil (extended : Bool) : loudOf extended [] = [] := rfl

@[simp] theorem loudOf_sequenceReset (extended : Bool) (events : List Event) :
    loudOf extended (.sequenceReset :: events) = loudOf extended events := rfl

@[simp] theorem loudOf_dataIndication (extended installed : Bool) (skb : Bytes) :
    loudOf extended (called installed (.dataIndication skb)) = [] := by
  cases installed <;> rfl

theorem AllPlain.loudOf_eq {mode : UInt32} {vr : Nat} {events : List Event}
    (plain : AllPlain mode vr events) : loudOf (extendedMode mode) events = [] := by
  refine List.filter_eq_nil_iff.mpr fun event member => ?_
  rcases plain event member with quiet | ⟨frame, rfl, noPayload, -⟩
  · cases event with
    | dataTransmit frame =>
        simp only [Event.isLoud, quiet.iframePayload_eq_none, Option.isSome_none]
        exact Bool.false_ne_true
    | accepted | acked | queuesCleared => exact False.elim quiet
    | _ => exact Bool.false_ne_true
  · simp [Event.isLoud, noPayload]

theorem AllQuiet.loudOf_eq {events : List Event} (quiet : AllQuiet events) (mode : UInt32) :
    loudOf (extendedMode mode) events = [] :=
  (quiet.plain : AllPlain mode 0 events).loudOf_eq

section Readings

variable (extended : Bool) (events : List Event)

/-- Accepted payloads are read off the loud events. -/
theorem acceptedOf_loudOf : acceptedOf (loudOf extended events) = acceptedOf events := by
  unfold acceptedOf loudOf
  rw [List.filterMap_filter]
  refine List.filterMap_congr fun event _ => ?_
  cases event with
  | accepted => rfl
  | _ => exact ite_self none

/-- Released payloads are read off the loud events. -/
theorem releasedOf_loudOf : releasedOf (loudOf extended events) = releasedOf events := by
  unfold releasedOf loudOf
  rw [List.filterMap_filter]
  refine List.filterMap_congr fun event _ => ?_
  cases event with
  | acked => rfl
  | _ => exact ite_self none

/-- Carried payloads are read off the loud events. -/
theorem carriedOf_loudOf : carriedOf extended (loudOf extended events) =
    carriedOf extended events := by
  unfold carriedOf loudOf
  rw [List.filterMap_filter]
  refine List.filterMap_congr fun event _ => ?_
  cases event with
  | dataTransmit frame =>
      cases payload : iframePayload extended frame with
      | none => simp [Event.isLoud, payload]
      | some skb => simp [Event.isLoud, payload]
  | _ => exact ite_self none

theorem count_loudOf {event : Event} (loud : event.isLoud extended = true) :
    (loudOf extended events).count event = events.count event :=
  List.count_filter loud

theorem mem_loudOf {event : Event} (loud : event.isLoud extended = true) :
    event ∈ loudOf extended events ↔ event ∈ events := by
  simp [loudOf, loud]

end Readings

/-! ## The same traffic -/

/-- Two control blocks that agree on what the traffic part of a step is about. -/
structure SameTraffic (base after : X75Cb) : Prop where
  mode : after.mode = base.mode
  window : after.window = base.window
  callbacks : after.callbacks = base.callbacks
  vs : after.vs = base.vs
  va : after.va = base.va
  writeQueue : after.writeQueue = base.writeQueue
  ackQueue : after.ackQueue = base.ackQueue
  loud : loudOf base.extended after.events = loudOf base.extended base.events

namespace SameTraffic

variable {base after : X75Cb}

theorem refl (x75 : X75Cb) : SameTraffic x75 x75 := ⟨rfl, rfl, rfl, rfl, rfl, rfl, rfl, rfl⟩

theorem of_fields (mode : after.mode = base.mode) (window : after.window = base.window)
    (callbacks : after.callbacks = base.callbacks) (vs : after.vs = base.vs)
    (va : after.va = base.va) (writeQueue : after.writeQueue = base.writeQueue)
    (ackQueue : after.ackQueue = base.ackQueue)
    {events : List Event} (appended : after.events = base.events ++ events)
    (plain : loudOf base.extended events = []) : SameTraffic base after := by
  refine ⟨mode, window, callbacks, vs, va, writeQueue, ackQueue, ?_⟩
  rw [appended, loudOf_append, plain, List.append_nil]

theorem modulus (same : SameTraffic base after) : after.modulus = base.modulus := by
  rw [X75Cb.modulus, same.mode, X75Cb.modulus]

theorem acceptedOf_eq (same : SameTraffic base after) :
    acceptedOf after.events = acceptedOf base.events := by
  rw [← acceptedOf_loudOf base.extended, same.loud, acceptedOf_loudOf]

theorem releasedOf_eq (same : SameTraffic base after) :
    releasedOf after.events = releasedOf base.events := by
  rw [← releasedOf_loudOf base.extended, same.loud, releasedOf_loudOf]

theorem carriedOf_eq (same : SameTraffic base after) :
    carriedOf base.extended after.events = carriedOf base.extended base.events := by
  rw [← carriedOf_loudOf, same.loud, carriedOf_loudOf]

/-- A loud event happened as often. -/
theorem count_eq (same : SameTraffic base after) {event : Event}
    (loud : event.isLoud base.extended = true) :
    after.events.count event = base.events.count event := by
  rw [← count_loudOf base.extended _ loud, same.loud, count_loudOf base.extended _ loud]

/-- The same loud events happened. -/
theorem mem_iff (same : SameTraffic base after) {event : Event}
    (loud : event.isLoud base.extended = true) : event ∈ after.events ↔ event ∈ base.events := by
  rw [← mem_loudOf base.extended _ loud, same.loud, mem_loudOf base.extended _ loud]

end SameTraffic

/-! ## Changes of the traffic -/

/-- The T1 handler is called for an expired timer and goes on to act. -/
def X75Cb.T1Acts (x75 : X75Cb) : Op → Prop
  | .t1Expiry => x75.t1timer.active = true ∧ x75.t1timer.cb = some .t1timerExpiry ∧
      x75.t1timerRunning = true
  | .t2Expiry => x75.t2timer.active = true ∧ x75.t2timer.cb = some .t1timerExpiry ∧ x75.T1Due
  | _ => False

instance (x75 : X75Cb) : (op : Op) → Decidable (x75.T1Acts op)
  | .t1Expiry => inferInstanceAs (Decidable (_ ∧ _ ∧ _))
  | .t2Expiry => inferInstanceAs (Decidable (_ ∧ _ ∧ _))
  | .dataRequest _ | .connectRequest | .disconnectRequest | .dataReceived _ _ | .setparms _
  | .unregister | .register _ => inferInstanceAs (Decidable False)

/-- The frame that an operation hands to the machine of the current state. -/
def receivedFrame (x75 : X75Cb) : Op → Option X75Frame
  | .dataReceived skb stack => (x75Decode x75 skb stack).map Prod.fst
  | _ => none

/-- The operation sets the link up. -/
def OpSetsUp (x75 : X75Cb) (op : Op) : Prop :=
  ∃ frame ∈ receivedFrame x75 op, SetsUpLink x75 frame

/-- The operation purges the queues. -/
def OpPurges (x75 : X75Cb) (op : Op) : Prop :=
  (∃ frame ∈ receivedFrame x75 op, ReleasesLink x75 frame) ∨
    x75.T1Acts op ∧ x75.n2count = x75.n2 ∧ x75.state ≠ .state0 ∨
    op = .disconnectRequest ∧ x75.Connected ∨ op = .unregister

instance (x75 : X75Cb) (op : Op) : Decidable (OpSetsUp x75 op) :=
  inferInstanceAs (Decidable (∃ _ ∈ _, _))

instance (x75 : X75Cb) (op : Op) : Decidable (OpPurges x75 op) :=
  inferInstanceAs (Decidable (_ ∨ _))

/-- How many frames are released before the unacknowledged ones are queued
again. That happens on a REJ, on a link reset in state 3, on a FRMR, and when T1
expires. -/
def requeueRounds (x75 : X75Cb) (op : Op) : Option Nat :=
  if x75.state = .state3 then
    match receivedFrame x75 op with
    | some frame =>
        if frame.type = x75Rej ∧ x75ValidateNr x75 frame.nr = true then
          some (ackRounds x75 frame.nr)
        else if frame.type = (if x75.extended then x75Sabme else x75Sabm) ∨
            frame.type = x75Frmr then some 0
        else none
    | none => if x75.T1Acts op ∧ x75.n2count ≠ x75.n2 then some 0 else none
  else none

section Requeue

variable {x75 : X75Cb} {op : Op} {frame : X75Frame}

theorem requeueRounds_rej (connected : x75.state = .state3)
    (received : frame ∈ receivedFrame x75 op) (type : frame.type = x75Rej)
    (valid : x75ValidateNr x75 frame.nr = true) :
    requeueRounds x75 op = some (ackRounds x75 frame.nr) := by
  simp [requeueRounds, connected, Option.mem_def.mp received, type, valid]

theorem requeueRounds_zero (connected : x75.state = .state3)
    (received : frame ∈ receivedFrame x75 op)
    (type : frame.type = (if x75.extended then x75Sabme else x75Sabm) ∨ frame.type = x75Frmr) :
    requeueRounds x75 op = some 0 := by
  have other : frame.type ≠ x75Rej := by
    rcases type with reset | frmr
    · rw [reset]
      split <;> decide
    · rw [frmr]
      decide
  simp [requeueRounds, connected, Option.mem_def.mp received, other, type]

theorem requeueRounds_t1 (connected : x75.state = .state3) (acts : x75.T1Acts op)
    (left : x75.n2count ≠ x75.n2) : requeueRounds x75 op = some 0 := by
  have noFrame : receivedFrame x75 op = none := by
    cases op with
    | dataReceived => exact acts.elim
    | _ => rfl
  simp [requeueRounds, connected, noFrame, acts, left]

/-- Frames are queued again in state 3, and after the release of what a valid
N(R) acknowledges, if of anything. -/
theorem requeueRounds_cases {rounds : Nat} (requeues : requeueRounds x75 op = some rounds) :
    x75.state = .state3 ∧ (rounds = 0 ∨ ∃ frame ∈ receivedFrame x75 op,
      CarriesNr frame.type ∧ x75ValidateNr x75 frame.nr = true ∧
        rounds = ackRounds x75 frame.nr) := by
  unfold requeueRounds at requeues
  split at requeues
  case isFalse => cases requeues
  case isTrue connected =>
  refine ⟨connected, ?_⟩
  split at requeues
  case h_2 =>
      split at requeues
      · exact .inl (Option.some.inj requeues).symm
      · cases requeues
  case h_1 frame received =>
  split at requeues
  case isTrue rej =>
      exact .inr ⟨frame, received, .inr (.inr (.inr rej.1)), rej.2, (Option.some.inj requeues).symm⟩
  case isFalse =>
      obtain ⟨-, zero⟩ | ⟨-, none⟩ := ite_eq_iff.mp requeues
      · exact .inl (Option.some.inj zero).symm
      · cases none

end Requeue

/-- The ways in which the state may move while the traffic stays the same. -/
def StateMove (x75 : X75Cb) (op : Op) (state : LinkState) : Prop :=
  state = x75.state ∨ x75.state = .state3 ∧ state = .state4 ∨
    x75.state = .state2 ∧ state = .state0 ∨
    (x75.state = .state0 ∨ x75.state = .state2) ∧ state = .state1 ∨
    x75.state = .state1 ∧ op = .disconnectRequest ∧ state = .state0

/-- What an operation changes in the traffic, before `x75Kick`. -/
inductive TrafficChange (x75 : X75Cb) : Op → X75Cb → Prop where
  | kept {op : Op} {after : X75Cb} (same : SameTraffic x75 after)
      (move : StateMove x75 op after.state) : TrafficChange x75 op after
  | accepted (skb : Bytes) (connected : x75.Connected) :
      TrafficChange x75 (.dataRequest skb) (enqueueData x75 skb)
  | purged {op : Op} {after : X75Cb} (purges : OpPurges x75 op)
      (same : SameTraffic (x75ClearQueues x75) after)
      (state : after.state = .state0 ∨ after.state = .state2 ∨
        op = .unregister ∧ after.state = x75.state) : TrafficChange x75 op after
  | setUp {op : Op} {after : X75Cb} (setsUp : OpSetsUp x75 op)
      (same : SameTraffic { x75 with vs := 0, va := 0 } after) (state : after.state = .state3) :
      TrafficChange x75 op after
  | acked {op : Op} {after : X75Cb} (frame : X75Frame) (connected : x75.state = .state3)
      (received : frame ∈ receivedFrame x75 op) (carries : CarriesNr frame.type)
      (valid : x75ValidateNr x75 frame.nr = true)
      (same : SameTraffic (acknowledge x75 (ackRounds x75 frame.nr)) after)
      (state : after.state = .state3) : TrafficChange x75 op after
  | requeued {op : Op} {rounds : Nat} {after : X75Cb} (vs va : Nat) (va_lt : va < x75.modulus)
      (requeues : requeueRounds x75 op = some rounds)
      (same : SameTraffic (requeued (acknowledge x75 rounds) vs va) after)
      (state : after.state = .state3 ∨ after.state = .state1) : TrafficChange x75 op after
  | parameters {parms : ParmsStruct} (mode : UInt32) (window : Nat) (t1 t2 n2 : UInt16)
      (kept : x75.state = .state0 ∨ mode = x75.mode ∧ window = x75.window) :
      TrafficChange x75 (.setparms parms)
        { x75 with mode := mode, window := window, t1 := t1, t2 := t2, n2 := n2 }
  | registered (callbacks : RegisterStruct) :
      TrafficChange x75 (.register callbacks) (x75Register x75 callbacks)

/-- What `x75Kick` changes in the traffic: nothing, or it sends from the head of
the write queue. -/
inductive KickChange (x75 : X75Cb) : X75Cb → Prop where
  | none : KickChange x75 x75
  | sent {k : Nat} {after : X75Cb} (ready : KickReady x75)
      (count : KickCount { x75 with vs := kickStart x75 } (kickStop x75) k)
      (same : SameTraffic (sendFirst { x75 with vs := kickStart x75 } k) after)
      (state : after.state = x75.state) : KickChange x75 after

theorem x75Kick_change {x75 after : X75Cb} (kicked : x75Kick x75 = some after) :
    KickChange x75 after := by
  rcases x75Kick_cases kicked with ⟨-, rfl⟩ | ⟨ready, k, count, rfl⟩
  · exact .none
  · refine .sent ready count ?_ rfl
    exact .of_fields rfl rfl rfl rfl rfl rfl rfl (List.append_nil _).symm rfl

namespace KickChange

variable {x75 after : X75Cb}

theorem state (kicked : KickChange x75 after) : after.state = x75.state := by
  cases kicked with
  | none => rfl
  | sent _ _ _ state => exact state

theorem mode (kicked : KickChange x75 after) : after.mode = x75.mode := by
  cases kicked with
  | none => rfl
  | sent _ _ same => exact same.mode

theorem acceptedOf_eq (kicked : KickChange x75 after) :
    acceptedOf after.events = acceptedOf x75.events := by
  cases kicked with
  | none => rfl
  | sent _ _ same =>
      rw [same.acceptedOf_eq, sendFirst_events, acceptedOf_append, acceptedOf_iframesFrom,
        List.append_nil]

end KickChange

/-! ## Every operation -/

/-- What the machine of the current state changes in the traffic. -/
theorem MachineOutcome.traffic {x75 after : X75Cb} {skb rest : Bytes} {stack frame : X75Frame}
    (wellFormed : x75.WellFormed) (decoded : x75Decode x75 skb stack = some (frame, rest))
    (machine : MachineOutcome x75 rest frame after) :
    TrafficChange x75 (.dataReceived skb stack) after := by
  have received : frame ∈ receivedFrame x75 (.dataReceived skb stack) := by
    simp [receivedFrame, decoded]
  have nr_lt := fun carries : CarriesNr frame.type => x75Decode_nr_lt decoded carries
  cases machine with
  | answered events quiet =>
      exact .kept (.of_fields rfl rfl rfl rfl rfl rfl rfl rfl (quiet.loudOf_eq x75.mode)) (.inl rfl)
  | connected before after quiet quiet' setsUp =>
      rw [resetLink_eq]
      refine .setUp ⟨frame, received, setsUp⟩ ⟨rfl, rfl, rfl, rfl, rfl, rfl, rfl, ?_⟩ rfl
      change loudOf x75.extended (x75.events ++ before ++ [.sequenceReset] ++ after) =
        loudOf x75.extended x75.events
      simp [quiet.loudOf_eq, quiet'.loudOf_eq]
  | released events quiet releases =>
      exact .purged (.inl ⟨frame, received, releases⟩)
        (.of_fields rfl rfl rfl rfl rfl rfl rfl rfl (quiet.loudOf_eq x75.mode)) (.inl rfl)
  | disconnected events quiet awaiting =>
      exact .kept (.of_fields rfl rfl rfl rfl rfl rfl rfl rfl (quiet.loudOf_eq x75.mode))
        (.inr (.inr (.inl ⟨awaiting, rfl⟩)))
  | reset events quiet connected type =>
      have va_lt := (wellFormed.sequence (.inl connected)).2.2
      rw [resetLink_eq, x75RequeueFrames_eq]
      refine .requeued 0 0 (modulus_pos x75.mode)
        (requeueRounds_zero connected received (.inl type)) ?_ (.inl connected)
      rw [acknowledge_zero va_lt]
      refine ⟨rfl, rfl, rfl, rfl, rfl, rfl, rfl, ?_⟩
      change loudOf x75.extended (x75.events ++ events ++ [.sequenceReset]) =
        loudOf x75.extended x75.events
      simp [quiet.loudOf_eq]
  | rejected condition frmrType events plain connected =>
      exact .kept (.of_fields rfl rfl rfl rfl rfl rfl rfl rfl plain.loudOf_eq)
        (.inr (.inl ⟨connected, rfl⟩))
  | ready condition events plain connected type valid =>
      have carries : CarriesNr frame.type := carriesNr_of_ready type
      have va_lt := (wellFormed.sequence (.inl connected)).2.2
      obtain ⟨_, _, _, same⟩ := ready_eq va_lt (nr_lt carries) condition events
      rw [same]
      refine .acked frame connected received carries valid
        ⟨rfl, rfl, rfl, rfl, rfl, rfl, rfl, ?_⟩ connected
      simp [plain.loudOf_eq, ackRounds]
  | requeued condition events plain connected type idle valid =>
      have va_lt := (wellFormed.sequence (.inl connected)).2.2
      rw [reject_eq va_lt (nr_lt (carriesNr_of_reject type)), x75RequeueFrames_eq]
      refine .requeued x75.vs (acknowledge x75 (ackRounds x75 frame.nr)).va
        (Nat.mod_lt _ (modulus_pos x75.mode)) (requeueRounds_rej connected received type valid)
        ⟨rfl, rfl, rfl, rfl, rfl, rfl, rfl, ?_⟩ (.inl connected)
      change loudOf x75.extended
          (acknowledge (x75.note condition events) (ackRounds x75 frame.nr)).events =
        loudOf x75.extended (acknowledge x75 (ackRounds x75 frame.nr)).events
      simp [plain.loudOf_eq]
  | inSequence connected type valid expected =>
      have va_lt := (wellFormed.sequence (.inl connected)).2.2
      obtain ⟨_, events, _, _, _, _, _, answers, -, same⟩ :=
        inSequence_eq va_lt (nr_lt (carriesNr_of_iframe type)) rest frame
      rw [same]
      refine .acked frame connected received (.inl type) valid
        (.of_fields rfl rfl rfl rfl rfl rfl rfl rfl ?_) connected
      rw [loudOf_append, loudOf_dataIndication]
      exact answers.plain.loudOf_eq
  | outOfSequence connected type valid unexpected =>
      have va_lt := (wellFormed.sequence (.inl connected)).2.2
      obtain ⟨_, events, _, _, _, answers, -, same⟩ :=
        outOfSequence_eq va_lt (nr_lt (carriesNr_of_iframe type)) frame
      rw [same]
      exact .acked frame connected received (.inl type) valid
        (.of_fields rfl rfl rfl rfl rfl rfl rfl rfl answers.plain.loudOf_eq) connected
  | reestablished connected type =>
      have va_lt := (wellFormed.sequence (.inl connected)).2.2
      refine .requeued x75.vs x75.va va_lt (requeueRounds_zero connected received (.inr type)) ?_
        (.inr rfl)
      rw [x75RequeueFrames_eq, acknowledge_zero va_lt]
      exact .of_fields rfl rfl rfl rfl rfl rfl rfl rfl
        ((quiet_establish { x75 with condition := 0x00, n2count := 0 }).loudOf_eq x75.mode)

/-- How `x75Kick` follows a change. -/
inductive KickFollows (before : X75Cb) : Option X75Cb → Prop where
  | omitted : KickFollows before (some before)
  | kicked {result : Option X75Cb} (kicked : x75Kick before = result) : KickFollows before result
  /-- T1 is started again after it has expired. -/
  | restarted {result : Option X75Cb} (kicked : (x75Kick before).map x75StartT1timer = result) :
      KickFollows before result

/-- What the handler of an expired timer changes in the traffic. The timers are
those after the expiry. -/
theorem HandlerOutcome.traffic {x75 : X75Cb} {t1timer t2timer : OsmoTimer}
    {handler : Option TimerHandler} {result : Option X75Cb} {op : Op}
    (wellFormed : x75.WellFormed)
    (acts : handler = some .t1timerExpiry → t1timer.active = false → x75.t1timerRunning = true →
      x75.T1Acts op)
    (handled : HandlerOutcome { x75 with t1timer := t1timer, t2timer := t2timer } handler
      result) :
    ∃ before, TrafficChange x75 op before ∧ KickFollows before result := by
  cases handled with
  | idle =>
      refine ⟨_, ?_, .omitted⟩
      exact .kept (.of_fields rfl rfl rfl rfl rfl rfl rfl (List.append_nil _).symm rfl) (.inl rfl)
  | acknowledged condition events answers =>
      refine ⟨_, ?_, .omitted⟩
      exact .kept (.of_fields rfl rfl rfl rfl rfl rfl rfl rfl answers.plain.loudOf_eq) (.inl rfl)
  | retried n2count events quiet =>
      refine ⟨_, ?_, .omitted⟩
      exact .kept (.of_fields rfl rfl rfl rfl rfl rfl rfl rfl (quiet.loudOf_eq x75.mode)) (.inl rfl)
  | dialled state =>
      refine ⟨_, ?_, .omitted⟩
      exact .kept (.of_fields rfl rfl rfl rfl rfl rfl rfl rfl
        ((quiet_establish { x75 with condition := 0x00, n2count := 0 }).loudOf_eq x75.mode))
        (.inr (.inr (.inr (.inl ⟨.inl state, rfl⟩))))
  | gaveUp t2timer t2timerRunning events _ quiet due apart exhausted =>
      refine ⟨_, ?_, .omitted⟩
      exact .purged (.inr (.inl ⟨acts rfl due.1 due.2, exhausted, apart⟩))
        (.of_fields rfl rfl rfl rfl rfl rfl rfl rfl (quiet.loudOf_eq x75.mode)) (.inl rfl)
  | retransmitted due connected left kicked =>
      have va_lt := (wellFormed.sequence (.inl connected)).2.2
      refine ⟨_, ?_, .restarted kicked⟩
      refine .requeued x75.vs x75.va va_lt
        (requeueRounds_t1 connected (acts rfl due.1 due.2) left) ?_ (.inl connected)
      rw [x75RequeueFrames_eq, acknowledge_zero va_lt]
      exact .of_fields rfl rfl rfl rfl rfl rfl rfl (List.append_nil _).symm rfl

/-- **What one operation changes in the traffic.** -/
theorem exec_traffic {x75 : X75Cb} (wellFormed : x75.WellFormed) (op : Op) :
    ∃ before, TrafficChange x75 op before ∧ KickFollows before (exec x75 op) := by
  have outcome := exec_outcome x75 op
  generalize exec x75 op = result at outcome ⊢
  cases outcome with
  | ignored => exact ⟨x75, .kept (.refl x75) (.inl rfl), .omitted⟩
  | requested connected kicked => exact ⟨_, .accepted _ connected, .kicked kicked⟩
  | received decoded machine kicked =>
      exact ⟨_, machine.traffic wellFormed decoded, .kicked kicked⟩
  | dialled apart =>
      refine ⟨_, ?_, .omitted⟩
      exact .kept (.of_fields rfl rfl rfl rfl rfl rfl rfl rfl
        ((quiet_establish { x75 with condition := 0x00, n2count := 0 }).loudOf_eq x75.mode))
        (.inr (.inr (.inr (.inl ⟨apart, rfl⟩))))
  | abandoned events quiet awaiting =>
      refine ⟨_, ?_, .omitted⟩
      exact .kept (.of_fields rfl rfl rfl rfl rfl rfl rfl rfl (quiet.loudOf_eq x75.mode))
        (.inr (.inr (.inr (.inr ⟨awaiting, rfl, rfl⟩))))
  | hungUp events quiet connected =>
      refine ⟨_, ?_, .omitted⟩
      exact .purged (.inr (.inr (.inl ⟨rfl, connected⟩)))
        (.of_fields rfl rfl rfl rfl rfl rfl rfl rfl (quiet.loudOf_eq x75.mode)) (.inr (.inl rfl))
  | parameters mode window t1 t2 n2 kept _ =>
      exact ⟨_, .parameters mode window t1 t2 n2 kept, .omitted⟩
  | unregistered =>
      rw [x75Unregister_eq]
      refine ⟨_, ?_, .omitted⟩
      exact .purged (.inr (.inr (.inr rfl)))
        (.of_fields rfl rfl rfl rfl rfl rfl rfl (List.append_nil _).symm rfl)
        (.inr (.inr ⟨rfl, rfl⟩))
  | registered callbacks => exact ⟨_, .registered callbacks, .omitted⟩
  | t1Expired armed handled =>
      refine HandlerOutcome.traffic wellFormed ?_ handled
      exact fun handler _ running => ⟨armed, handler, running⟩
  | t2Expired armed handled =>
      refine HandlerOutcome.traffic wellFormed ?_ handled
      exact fun handler active running => ⟨armed, handler, active, running⟩

/-- A completed operation changes the traffic, lets `x75Kick` send, and leaves
the rest. -/
theorem exec_change {x75 after : X75Cb} {op : Op} (wellFormed : x75.WellFormed)
    (taken : exec x75 op = some after) :
    ∃ before sent, TrafficChange x75 op before ∧ KickChange before sent ∧
      SameTraffic sent after ∧ after.state = sent.state := by
  obtain ⟨before, change, follows⟩ := exec_traffic wellFormed op
  rw [taken] at follows
  cases follows with
  | omitted => exact ⟨after, after, change, .none, .refl after, rfl⟩
  | kicked kicked => exact ⟨before, after, change, x75Kick_change kicked, .refl after, rfl⟩
  | restarted kicked =>
      obtain ⟨sent, sentKicked, rfl⟩ := Option.map_eq_some_iff.mp kicked
      exact ⟨before, sent, change, x75Kick_change sentKicked,
        .of_fields rfl rfl rfl rfl rfl rfl rfl (List.append_nil _).symm rfl, rfl⟩

/-- An operation ends the process only when `x75Kick` is promised a message that
the queue does not have. -/
theorem exec_ne_none {x75 : X75Cb} {op : Op} (wellFormed : x75.WellFormed)
    (stocked : ∀ before, TrafficChange x75 op before → before.writeQueue.count ≠ 0 →
      before.writeQueue.msgs ≠ []) : exec x75 op ≠ none := by
  obtain ⟨before, change, follows⟩ := exec_traffic wellFormed op
  intro ended
  rw [ended] at follows
  have kicked : x75Kick before = none := by
    cases follows with
    | kicked kicked => exact kicked
    | restarted kicked => exact Option.map_eq_none_iff.mp kicked
  obtain ⟨⟨-, -, count⟩, empty⟩ := x75Kick_eq_none_iff.mp kicked
  exact stocked before change count empty

end IsdnRas.X75
