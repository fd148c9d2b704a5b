import IsdnRas.Library.Runs
import IsdnRas.X75.Traffic

/-!
# The acknowledgement on its way

An accepted I-frame is acknowledged by the N(R) of a later frame: of the RR that
answers a poll, of an I-frame that `x75Kick` sends, or of the RR of T2. The last
one never comes. `x75StartT2timer` sets the handler of T2 up on T1, and T2 is
armed without a handler (`step_t2timer`).

So the last N(R) sent is V(R) in the runs in which every accepted I-frame is
acknowledged at once, by its poll bit or by an I-frame (`acknowledgement_sent`).
-/

set_option autoImplicit false

namespace IsdnRas.X75

/-! ## The last N(R) sent -/

/-- A reset forgets the last N(R), and a frame that carries one replaces it. -/
def noteNr (extended : Bool) (last : Option Nat) : Event → Option Nat
  | .sequenceReset => none
  | .dataTransmit frame => (frameNr extended frame).or last
  | _ => last

/-- The N(R) of the last I-frame or supervisory frame since V(R) was reset. -/
def lastNr (extended : Bool) (events : List Event) : Option Nat :=
  events.foldl (noteNr extended) none

/-- V(R) is the last N(R) sent, or it is zero and none was sent. -/
def Acknowledged (x75 : X75Cb) : Prop :=
  (lastNr x75.extended x75.events).getD 0 = x75.vr

/-- The acknowledgement is left to T2. -/
def AckScheduled (x75 : X75Cb) : Prop :=
  testFlag x75.condition x75AckPendingCondition = true ∧ x75.t2timer.active = true ∧
    x75.t2timer.cb = some .t2timerExpiry

instance (x75 : X75Cb) : Decidable (Acknowledged x75) := inferInstanceAs (Decidable (_ = _))

instance (x75 : X75Cb) : Decidable (AckScheduled x75) :=
  inferInstanceAs (Decidable (_ ∧ _ ∧ _))

section Reading

variable {mode : UInt32} {vr : Nat} {events : List Event}

theorem lastNr_append (extended : Bool) (first second : List Event) :
    lastNr extended (first ++ second) = second.foldl (noteNr extended) (lastNr extended first) :=
  List.foldl_append

/-- Plain events leave the last N(R) or make it V(R). -/
theorem AllPlain.foldl_noteNr (plain : AllPlain mode vr events) (last : Option Nat) :
    events.foldl (noteNr (extendedMode mode)) last = last ∨
      events.foldl (noteNr (extendedMode mode)) last = some (vr % modulusOf mode) := by
  induction events generalizing last with
  | nil => exact .inl rfl
  | cons event rest ih =>
      have later := ih fun other member => plain other (List.mem_cons_of_mem _ member)
      have first : noteNr (extendedMode mode) last event = last ∨
          noteNr (extendedMode mode) last event = some (vr % modulusOf mode) := by
        rcases plain event (List.mem_cons_self ..) with quiet | ⟨frame, rfl, -, nr⟩
        · cases event with
          | dataTransmit frame => exact .inl (by simp [noteNr, quiet.frameNr_eq_none])
          | sequenceReset => exact quiet.elim
          | _ => exact .inl rfl
        · exact .inr (by simp [noteNr, nr])
      rcases first with same | sent
      · rw [List.foldl_cons, same]
        exact later last
      · rw [List.foldl_cons, sent]
        exact (later _).elim .inr .inr

/-- Quiet events leave the last N(R). -/
theorem AllQuiet.foldl_noteNr (quiet : AllQuiet events) (extended : Bool) (last : Option Nat) :
    events.foldl (noteNr extended) last = last := by
  induction events generalizing last with
  | nil => rfl
  | cons event rest ih =>
      have later := ih fun other member => quiet other (List.mem_cons_of_mem _ member)
      have first : noteNr extended last event = last := by
        have here := quiet event (List.mem_cons_self ..)
        cases event with
        | dataTransmit frame => simp [noteNr, IsUnnumbered.frameNr_eq_none here]
        | sequenceReset => exact here.elim
        | _ => rfl
      rw [List.foldl_cons, first, later]

/-- Events that transmit nothing and reset nothing leave the last N(R). -/
theorem foldl_noteNr_of_silent (extended : Bool)
    (silent : ∀ event ∈ events, ∀ last, noteNr extended last event = last) (last : Option Nat) :
    events.foldl (noteNr extended) last = last := by
  induction events with
  | nil => rfl
  | cons event rest ih =>
      rw [List.foldl_cons, silent event (List.mem_cons_self ..) last]
      exact ih fun other member => silent other (List.mem_cons_of_mem _ member)

theorem lastNr_acknowledge (x75 : X75Cb) (rounds : Nat) :
    lastNr x75.extended (acknowledge x75 rounds).events = lastNr x75.extended x75.events := by
  rw [acknowledge_events, lastNr_append]
  refine foldl_noteNr_of_silent _ ?_ _
  intro event member last
  rcases List.mem_append.mp member with released | null
  · obtain ⟨skb, -, rfl⟩ := List.mem_map.mp released
    rfl
  · obtain rfl := List.eq_of_mem_replicate null
    rfl

/-- I-frames with consecutive N(S) carry V(R). -/
theorem foldl_noteNr_iframesFrom {x75 : X75Cb} (installed : x75.callbacks.dataTransmit = true)
    (msgs : List Bytes) : ∀ (vs : Nat) (last : Option Nat), vs < x75.modulus →
      (iframesFrom x75 vs msgs).foldl (noteNr x75.extended) last =
        if msgs = [] then last else some (x75.vr % x75.modulus) := by
  induction msgs with
  | nil =>
      intro vs last _
      rfl
  | cons skb rest ih =>
      intro vs last vs_lt
      have nr : frameNr x75.extended
          (x75Address x75 x75Command :: iframeField { x75 with vs := vs } skb x75Polloff) =
            some (x75.vr % x75.modulus) :=
        (iframe_frame { x75 with vs := vs } vs_lt skb x75Polloff _).2
      have first : (transmitted x75 (iframeField { x75 with vs := vs } skb x75Polloff)
          x75Command).foldl (noteNr x75.extended) last = some (x75.vr % x75.modulus) := by
        simp [transmitted, called, installed, noteNr, nr]
      rw [iframesFrom, List.foldl_append, first, ih _ _ (Nat.mod_lt _ (modulus_pos x75.mode))]
      simp

end Reading

/-! ## Steps -/

/-- An accepted I-frame is acknowledged at once: frames are transmitted at all,
and the poll bit is set or, with the N(R) of the frame taken into account, a
message waits, the window is open and the peer is not busy. -/
def AcksAtOnce (x75 : X75Cb) (op : Op) : Prop :=
  ∀ frame ∈ receivedFrame x75 op, x75.state = .state3 → frame.type = x75I →
    x75ValidateNr x75 frame.nr = true → frame.ns = x75.vr →
      x75.callbacks.dataTransmit = true ∧
        (frame.pf ≠ 0 ∨ KickReady (x75FramesAcked x75 frame.nr))

instance (x75 : X75Cb) (op : Op) : Decidable (AcksAtOnce x75 op) :=
  inferInstanceAs (Decidable (∀ _ ∈ _, _))

section Step

variable {x75 after : X75Cb}

/-- The last N(R) is the same, and so is V(R). -/
theorem Acknowledged.of_eq (acked : Acknowledged x75)
    (last : lastNr after.extended after.events = lastNr x75.extended x75.events)
    (vr : after.vr = x75.vr) : Acknowledged after := by
  rw [Acknowledged, last, vr]
  exact acked

/-- V(R) has been sent. -/
theorem acknowledged_of_sent (inModulus : after.vr < after.modulus)
    (last : lastNr after.extended after.events = some (after.vr % after.modulus)) :
    Acknowledged after := by
  rw [Acknowledged, last, Nat.mod_eq_of_lt inModulus]
  rfl

/-- Plain events after the last N(R). -/
theorem Acknowledged.plain {events : List Event} (acked : Acknowledged x75)
    (inModulus : x75.vr < x75.modulus) (plain : AllPlain x75.mode x75.vr events)
    (mode : after.mode = x75.mode) (vr : after.vr = x75.vr)
    (appended : lastNr x75.extended after.events =
      events.foldl (noteNr x75.extended) (lastNr x75.extended x75.events)) :
    Acknowledged after := by
  have extended : after.extended = x75.extended := by
    rw [X75Cb.extended, mode, X75Cb.extended]
  rcases plain.foldl_noteNr (lastNr x75.extended x75.events) with same | sent
  · refine acked.of_eq ?_ vr
    rw [extended, appended]
    exact same
  · have modulus : after.modulus = x75.modulus := by
      rw [X75Cb.modulus, mode, X75Cb.modulus]
    refine acknowledged_of_sent ?_ ?_
    · rw [vr, modulus]
      exact inModulus
    · rw [extended, appended, vr, modulus]
      exact sent

/-- Right after a reset nothing has been sent, and V(R) is zero. -/
theorem acknowledged_of_reset {before events : List Event} (quiet : AllQuiet events)
    (appended : after.events = before ++ [.sequenceReset] ++ events) (vr : after.vr = 0) :
    Acknowledged after := by
  have last : lastNr after.extended after.events = none := by
    rw [appended, lastNr_append, quiet.foldl_noteNr, lastNr_append]
    rfl
  rw [Acknowledged, last, vr]
  rfl

/-- Nothing is transmitted when `data_transmit` is not installed. -/
theorem iframesFrom_of_not_installed (absent : x75.callbacks.dataTransmit = false)
    (msgs : List Bytes) : ∀ vs, iframesFrom x75 vs msgs = [] := by
  induction msgs with
  | nil =>
      intro vs
      rfl
  | cons skb rest ih =>
      intro vs
      simp [iframesFrom, transmitted, called, absent, ih]

/-- The I-frames that `x75Kick` sends carry V(R). -/
theorem acknowledged_of_kick (inModulus : x75.InModulus)
    (installed : x75.callbacks.dataTransmit = true) (ready : KickReady x75)
    (kicked : x75Kick x75 = some after) : Acknowledged after := by
  obtain ⟨vs_lt, vr_lt, va_lt⟩ := inModulus
  rcases x75Kick_cases kicked with ⟨notReady, -⟩ | ⟨-, k, count, rfl⟩
  · exact absurd ready notReady
  · have start_lt : kickStart x75 < x75.modulus := by
      unfold kickStart
      split
      · exact va_lt
      · exact vs_lt
    have some : x75.writeQueue.msgs.take k ≠ [] := by
      intro none
      have length := congrArg List.length none
      have positive := count.positive
      have le : k ≤ x75.writeQueue.msgs.length := count.le_length
      rw [List.length_take, Nat.min_eq_left le, List.length_nil] at length
      omega
    have sent := foldl_noteNr_iframesFrom installed (x75.writeQueue.msgs.take k)
      (kickStart x75) (lastNr x75.extended x75.events) start_lt
    rw [if_neg some] at sent
    refine acknowledged_of_sent vr_lt ?_
    have same : iframesFrom { x75 with vs := kickStart x75 } (kickStart x75)
        (x75.writeQueue.msgs.take k) =
          iframesFrom x75 (kickStart x75) (x75.writeQueue.msgs.take k) := by
      apply iframesFrom_congr <;> rfl
    rw [afterKick_events, sendFirst_events, lastNr_append, same]
    exact sent

theorem Acknowledged.kick (acked : Acknowledged x75) (inModulus : x75.InModulus)
    (kicked : x75Kick x75 = some after) : Acknowledged after := by
  by_cases ready : KickReady x75
  · by_cases installed : x75.callbacks.dataTransmit = true
    · exact acknowledged_of_kick inModulus installed ready kicked
    · rcases x75Kick_cases kicked with ⟨-, rfl⟩ | ⟨-, k, -, rfl⟩
      · exact acked
      · refine acked.of_eq ?_ rfl
        have absent : { x75 with vs := kickStart x75 }.callbacks.dataTransmit = false :=
          Bool.eq_false_iff.mpr installed
        have none := iframesFrom_of_not_installed absent (x75.writeQueue.msgs.take k)
          (kickStart x75)
        rw [afterKick_events, sendFirst_events, none, List.append_nil]
        rfl
  · rcases x75Kick_cases kicked with ⟨-, rfl⟩ | ⟨already, -⟩
    · exact acked
    · exact absurd already ready

/-- The answer to a poll carries the new V(R). -/
theorem lastNr_receiveInSequence (skb : Bytes) {frame : X75Frame} (poll : frame.pf ≠ 0)
    (installed : x75.callbacks.dataTransmit = true) :
    lastNr x75.extended (receiveInSequence x75 skb frame).events =
      some ((x75.vr + 1) % x75.modulus % x75.modulus) := by
  have nr : frameNr x75.extended (x75Address x75 x75Response ::
      controlField { x75 with vr := (x75.vr + 1) % x75.modulus } x75Rr x75Pollon) =
        some ((x75.vr + 1) % x75.modulus % x75.modulus) :=
    (supervisory_frame { x75 with vr := (x75.vr + 1) % x75.modulus } (.inl rfl) x75Pollon
      (x75Address x75 x75Response)).2
  unfold receiveInSequence
  dsimp only
  rw [if_pos poll]
  change lastNr x75.extended (x75.events ++ _ ++ called x75.callbacks.dataTransmit
    (.dataTransmit (x75Address x75 x75Response :: controlField
      { x75 with vr := (x75.vr + 1) % x75.modulus } x75Rr x75Pollon))) = _
  rw [lastNr_append, installed]
  simp [called, noteNr, nr]

theorem acknowledged_receiveInSequence (skb : Bytes) {frame : X75Frame} (poll : frame.pf ≠ 0)
    (installed : x75.callbacks.dataTransmit = true) :
    Acknowledged (receiveInSequence x75 skb frame) := by
  obtain ⟨_, _, _, _, _, -, -, same⟩ := receiveInSequence_eq x75 skb frame
  have vr : (receiveInSequence x75 skb frame).vr = (x75.vr + 1) % x75.modulus := by
    rw [same]
    rfl
  have mode : (receiveInSequence x75 skb frame).mode = x75.mode := by
    rw [same]
    rfl
  have modulus : (receiveInSequence x75 skb frame).modulus = x75.modulus :=
    congrArg modulusOf mode
  have extended : (receiveInSequence x75 skb frame).extended = x75.extended :=
    congrArg extendedMode mode
  refine acknowledged_of_sent ?_ ?_
  · rw [vr, modulus]
    exact Nat.mod_lt _ (modulus_pos x75.mode)
  · rw [vr, modulus, extended]
    exact lastNr_receiveInSequence skb poll installed

/-- `x75Kick` does not look at V(R), at the timers or at the events. -/
theorem kickReady_congr (busy : testFlag after.condition x75PeerRxBusyCondition =
      testFlag x75.condition x75PeerRxBusyCondition) (mode : after.mode = x75.mode)
    (vs : after.vs = x75.vs) (va : after.va = x75.va) (window : after.window = x75.window)
    (ackQueue : after.ackQueue = x75.ackQueue) (writeQueue : after.writeQueue = x75.writeQueue) :
    KickReady after ↔ KickReady x75 := by
  simp only [KickReady, kickStart, kickStop, X75Cb.modulus, busy, mode, vs, va, window, ackQueue,
    writeQueue]

/-- After the machine the last N(R) is V(R), or `x75Kick` is going to send it. -/
theorem machine_acknowledged {skb rest : Bytes} {stack frame : X75Frame}
    (wellFormed : x75.WellFormed) (acked : x75.state = .state3 → Acknowledged x75)
    (acks : AcksAtOnce x75 (.dataReceived skb stack))
    (decoded : x75Decode x75 skb stack = some (frame, rest))
    (machine : MachineOutcome x75 rest frame after) (connected : after.state = .state3) :
    Acknowledged after ∨ after.callbacks.dataTransmit = true ∧ KickReady after := by
  have nr_lt := fun carries : CarriesNr frame.type => x75Decode_nr_lt decoded carries
  cases machine with
  | answered events quiet =>
      refine .inl ((acked connected).of_eq ?_ rfl)
      exact (lastNr_append ..).trans (quiet.foldl_noteNr _ _)
  | connected before after quiet quiet' setsUp =>
      exact .inl (acknowledged_of_reset quiet' rfl rfl)
  | released => cases connected
  | disconnected => cases connected
  | reset events quiet state =>
      exact .inl (acknowledged_of_reset allQuiet_nil (List.append_nil _).symm rfl)
  | rejected => cases connected
  | ready condition events plain state type valid =>
      have carries : CarriesNr frame.type := carriesNr_of_ready type
      obtain ⟨-, vr_lt, va_lt⟩ := wellFormed.sequence (.inl state)
      obtain ⟨_, _, _, same⟩ := ready_eq va_lt (nr_lt carries) condition events
      rw [same]
      refine .inl ((acked state).plain vr_lt plain rfl rfl ?_)
      exact (lastNr_acknowledge (x75.note condition events) _).trans (lastNr_append ..)
  | requeued condition events plain state type idle valid =>
      obtain ⟨-, vr_lt, va_lt⟩ := wellFormed.sequence (.inl state)
      rw [reject_eq va_lt (nr_lt (carriesNr_of_reject type)), x75RequeueFrames_eq]
      refine .inl ((acked state).plain vr_lt plain rfl rfl ?_)
      exact (lastNr_acknowledge (x75.note condition events) _).trans (lastNr_append ..)
  | inSequence state type valid expected =>
      obtain ⟨-, vr_lt, va_lt⟩ := wellFormed.sequence (.inl state)
      obtain ⟨_, _, _, same⟩ := iframeAcknowledge_eq va_lt (nr_lt (carriesNr_of_iframe type))
      have received : frame ∈ receivedFrame x75 (.dataReceived skb stack) := by
        simp [receivedFrame, decoded]
      have expected' : frame.ns = x75.vr := by
        rw [expected, same]
        rfl
      obtain ⟨installed, poll | ready⟩ := acks frame received state type valid expected'
      · exact .inl (acknowledged_receiveInSequence rest poll (by rw [same]; exact installed))
      · obtain ⟨_, _, _, _, _, _, _, -, busy, same'⟩ :=
          inSequence_eq va_lt (nr_lt (carriesNr_of_iframe type)) rest frame
        rw [x75FramesAcked_eq va_lt (nr_lt (carriesNr_of_iframe type))] at ready
        rw [same']
        refine .inr ⟨installed, (kickReady_congr ?_ ?_ ?_ ?_ ?_ ?_ ?_).mpr ready⟩
        case refine_1 => exact busy
        all_goals rfl
  | outOfSequence state type valid unexpected =>
      obtain ⟨-, vr_lt, va_lt⟩ := wellFormed.sequence (.inl state)
      obtain ⟨condition, events, _, _, _, answers, -, same⟩ :=
        outOfSequence_eq va_lt (nr_lt (carriesNr_of_iframe type)) frame
      rw [same]
      refine .inl ((acked state).plain vr_lt answers.plain rfl rfl ?_)
      rw [← lastNr_acknowledge x75 (ackRounds x75 frame.nr)]
      exact lastNr_append ..
  | reestablished => cases connected

theorem handler_acknowledged {handler : Option TimerHandler} (wellFormed : x75.WellFormed)
    (acked : x75.state = .state3 → Acknowledged x75)
    (handled : HandlerOutcome x75 handler (some after)) (connected : after.state = .state3) :
    Acknowledged after := by
  cases handled with
  | idle => exact acked connected
  | acknowledged condition events answers =>
      have vr_lt := (wellFormed.sequence (.inl connected)).2.1
      exact (acked connected).plain vr_lt answers.plain rfl rfl (lastNr_append ..)
  | retried _ _ _ apart => exact absurd connected apart
  | dialled => cases connected
  | gaveUp => cases connected
  | retransmitted _ state _ kicked =>
      obtain ⟨sent, sentKicked, rfl⟩ := Option.map_eq_some_iff.mp kicked
      rw [x75RequeueFrames_eq] at sentKicked
      have requeuedAcked : Acknowledged
          (requeued { x75 with n2count := x75.n2count + 1 } x75.vs x75.va) :=
        (acked state).of_eq rfl rfl
      have sentAcked := requeuedAcked.kick (wellFormed.sequence (.inl state)) sentKicked
      exact sentAcked.of_eq rfl rfl

theorem step_acknowledged {op : Op} (wellFormed : x75.WellFormed)
    (acked : x75.state = .state3 → Acknowledged x75) (acks : AcksAtOnce x75 op)
    (taken : exec x75 op = some after) (connected : after.state = .state3) :
    Acknowledged after := by
  have outcome := exec_outcome x75 op
  rw [taken] at outcome
  cases outcome with
  | ignored => exact acked connected
  | @requested skb _ state kicked =>
      have same : after.state = x75.state := (x75Kick_change kicked).state
      rw [same] at connected
      have queued : Acknowledged (enqueueData x75 skb) := (acked connected).of_eq
        (lastNr_append ..) rfl
      exact queued.kick (wellFormed.sequence (.inl connected)) kicked
  | received decoded machine kicked =>
      have same := (x75Kick_change kicked).state
      rw [same] at connected
      have machined := wellFormed.machine (x75Decode_nr_lt decoded) machine
      have inModulus := machined.sequence (.inl connected)
      rcases machine_acknowledged wellFormed acked acks decoded machine connected with
        machineAcked | ⟨installed, ready⟩
      · exact machineAcked.kick inModulus kicked
      · exact acknowledged_of_kick inModulus installed ready kicked
  | dialled => cases connected
  | abandoned => cases connected
  | hungUp => cases connected
  | parameters mode window _ _ _ kept =>
      have state : x75.state = .state3 := connected
      obtain ⟨rfl, rfl⟩ := kept.resolve_left (by simp [state])
      exact (acked state).of_eq rfl rfl
  | unregistered =>
      rw [x75Unregister_eq] at connected ⊢
      exact (acked connected).of_eq (lastNr_append ..) rfl
  | registered => cases connected
  | t1Expired _ handled =>
      refine handler_acknowledged ?_ ?_ handled connected
      · exact wellFormed.of_kept rfl rfl wellFormed.sequence
      · exact fun state => (acked state).of_eq rfl rfl
  | t2Expired _ handled =>
      refine handler_acknowledged ?_ ?_ handled connected
      · exact wellFormed.of_kept rfl rfl wellFormed.sequence
      · exact fun state => (acked state).of_eq rfl rfl

/-! ## The handler of T2 -/

theorem x75Kick_t2timer (kicked : x75Kick x75 = some after) : after.t2timer = x75.t2timer := by
  rcases x75Kick_cases kicked with ⟨-, rfl⟩ | ⟨-, k, -, rfl⟩ <;> rfl

theorem receiveInSequence_t2timer (x75 : X75Cb) (skb : Bytes) (frame : X75Frame) :
    (receiveInSequence x75 skb frame).t2timer.cb = x75.t2timer.cb := by
  unfold receiveInSequence
  dsimp only
  split
  · rfl
  · split <;> rfl

theorem machine_t2timer {skb : Bytes} {frame : X75Frame} (wellFormed : x75.WellFormed)
    (nr_lt : CarriesNr frame.type → frame.nr < x75.modulus)
    (machine : MachineOutcome x75 skb frame after) : after.t2timer.cb = x75.t2timer.cb := by
  cases machine with
  | answered | connected | released | disconnected | reset | rejected | reestablished => rfl
  | ready condition events _ state type _ =>
      have carries : CarriesNr frame.type := carriesNr_of_ready type
      have va_lt := (wellFormed.sequence (.inl state)).2.2
      obtain ⟨_, _, _, same⟩ := ready_eq va_lt (nr_lt carries) condition events
      rw [same]
      rfl
  | requeued condition events _ state type _ _ =>
      have va_lt := (wellFormed.sequence (.inl state)).2.2
      rw [reject_eq va_lt (nr_lt (carriesNr_of_reject type))]
      rfl
  | inSequence state type =>
      have va_lt := (wellFormed.sequence (.inl state)).2.2
      obtain ⟨_, _, _, same⟩ := iframeAcknowledge_eq va_lt (nr_lt (carriesNr_of_iframe type))
      rw [receiveInSequence_t2timer, same]
      rfl
  | outOfSequence state type =>
      have va_lt := (wellFormed.sequence (.inl state)).2.2
      obtain ⟨_, _, _, _, _, -, -, same⟩ :=
        outOfSequence_eq va_lt (nr_lt (carriesNr_of_iframe type)) frame
      rw [same]
      rfl

theorem handler_t2timer {handler : Option TimerHandler}
    (handled : HandlerOutcome x75 handler (some after)) : after.t2timer.cb = x75.t2timer.cb := by
  cases handled with
  | idle | acknowledged | retried | dialled => rfl
  | gaveUp _ _ _ unhandled => exact unhandled
  | retransmitted _ _ _ kicked =>
      obtain ⟨sent, sentKicked, rfl⟩ := Option.map_eq_some_iff.mp kicked
      have same := x75Kick_t2timer sentKicked
      exact congrArg OsmoTimer.cb same

/-- No operation sets the handler of T2 up. -/
theorem step_t2timer {op : Op} (wellFormed : x75.WellFormed) (without : x75.t2timer.cb = none)
    (taken : exec x75 op = some after) : after.t2timer.cb = none := by
  have outcome := exec_outcome x75 op
  rw [taken] at outcome
  cases outcome with
  | ignored | dialled | abandoned | hungUp | parameters | unregistered => exact without
  | requested _ kicked => rwa [x75Kick_t2timer kicked]
  | received decoded machine kicked =>
      rw [x75Kick_t2timer kicked, machine_t2timer wellFormed (x75Decode_nr_lt decoded) machine]
      exact without
  | registered => rfl
  | t1Expired _ handled => exact (handler_t2timer handled).trans without
  | t2Expired _ handled => exact (handler_t2timer handled).trans without

end Step

/-! ## Runs -/

/-- **The acknowledgement is on its way** after every operation that leaves the
link in state 3, in runs in which every accepted I-frame is acknowledged at
once. -/
theorem acknowledgement_sent {callbacks : RegisterStruct} {x75 : X75Cb}
    (reached : Reached exec AcksAtOnce (x75Register zeroed callbacks) x75)
    (connected : x75.state = .state3) : Acknowledged x75 ∨ AckScheduled x75 := by
  have invariant := reached.invariant
    (fun x75 => x75.WellFormed ∧ (x75.state = .state3 → Acknowledged x75))
    ⟨wellFormed_register _ _, fun connected => by cases connected⟩
    fun _ inv acks taken => ⟨inv.1.step taken, step_acknowledged inv.1 inv.2 acks taken⟩
  exact .inl (invariant.2 connected)

/-- An I-frame with the poll bit is answered. -/
theorem acknowledgement_sent_poll :
    ∃ x75, runOps exec (x75Register zeroed .all)
        [.dataReceived [0x01, 0x3F] .zero, .dataReceived [0x01, 0x10, 0x41] .zero] = some x75 ∧
      x75.vr = 1 ∧ (Acknowledged x75 ∨ AckScheduled x75) := by
  have meets : MeetsAlong exec AcksAtOnce (x75Register zeroed .all)
      [.dataReceived [0x01, 0x3F] .zero, .dataReceived [0x01, 0x10, 0x41] .zero] := by decide
  exact ⟨_, rfl, rfl, acknowledgement_sent (reached_of_meetsAlong _ .refl meets rfl) rfl⟩

/-- **A delayed acknowledgement is never sent.** An I-frame without the poll bit
arrives and nothing waits to be sent. T2 is armed without a handler, and after
it has expired V(R) is still not acknowledged. -/
theorem delayed_acknowledgement_lost :
    ∃ x75, runOps exec (x75Register zeroed .all)
        [.dataReceived [0x01, 0x3F] .zero, .dataReceived [0x01, 0x00, 0x41] .zero] = some x75 ∧
      x75.state = .state3 ∧ x75.vr = 1 ∧ ¬ (Acknowledged x75 ∨ AckScheduled x75) ∧
      ∃ next, exec x75 .t2Expiry = some next ∧ next.events = x75.events :=
  ⟨_, rfl, rfl, rfl, by decide, _, rfl, rfl⟩

end IsdnRas.X75
