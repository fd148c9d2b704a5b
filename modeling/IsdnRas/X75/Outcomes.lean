import IsdnRas.X75.Procedures
import IsdnRas.X75.Wire

/-!
# What an operation can do

One inversion lemma for the state machines (`x75Machine_outcome`) and one for
the timer handlers (`callHandler_outcome`). Each lists the forms the next state
can take, with the guard of each form. Properties of runs are proved by cases
on these forms and never unfold the machines again.

A plain event is a quiet event or the transmission of a supervisory frame whose
N(R) is the current V(R).
-/

set_option autoImplicit false

namespace IsdnRas.X75

/-! ## Plain events -/

/-- A quiet event, or a supervisory frame that acknowledges up to `vr`. -/
def Event.Plain (mode : UInt32) (vr : Nat) (event : Event) : Prop :=
  event.Quiet ∨ ∃ frame, event = .dataTransmit frame ∧
    iframePayload (extendedMode mode) frame = none ∧
    frameNr (extendedMode mode) frame = some (vr % modulusOf mode)

/-- Events that are all plain. -/
def AllPlain (mode : UInt32) (vr : Nat) (events : List Event) : Prop :=
  ∀ event ∈ events, event.Plain mode vr

section Plain

variable {mode : UInt32} {vr : Nat} {first second : List Event}

theorem allPlain_nil : AllPlain mode vr [] := by simp [AllPlain]

theorem AllQuiet.plain (quiet : AllQuiet first) : AllPlain mode vr first :=
  fun event member => .inl (quiet event member)

theorem AllPlain.append (plain : AllPlain mode vr first) (later : AllPlain mode vr second) :
    AllPlain mode vr (first ++ second) := by
  intro event member
  rcases List.mem_append.mp member with early | late
  · exact plain event early
  · exact later event late

/-- A reading that passes over quiet events and transmissions finds nothing. -/
theorem AllPlain.filterMap_eq_nil {Payload : Type} {read : Event → Option Payload}
    (plain : AllPlain mode vr first) (quiet : ∀ event : Event, event.Quiet → read event = none)
    (sent : ∀ frame, read (.dataTransmit frame) = none) : first.filterMap read = [] := by
  refine List.filterMap_eq_nil_iff.mpr fun event member => ?_
  rcases plain event member with silent | ⟨frame, rfl, -⟩
  · exact quiet event silent
  · exact sent frame

theorem AllPlain.releasedOf_eq (plain : AllPlain mode vr first) : releasedOf first = [] :=
  plain.filterMap_eq_nil (fun event quiet => by cases event <;> simp_all [Event.Quiet])
    fun _ => rfl

theorem AllPlain.indicatedOf_eq (plain : AllPlain mode vr first) : indicatedOf first = [] :=
  plain.filterMap_eq_nil (fun event quiet => by cases event <;> simp_all [Event.Quiet])
    fun _ => rfl

end Plain

/-- An RR or a REJ that acknowledges up to `vr`. -/
def IsAnswer (mode : UInt32) (vr : Nat) (frame : Bytes) : Prop :=
  ∃ sender : X75Cb, sender.mode = mode ∧ sender.vr = vr ∧
    ∃ frametype, (frametype = x75Rr ∨ frametype = x75Rej) ∧
      ∃ pollBit addr, frame = addr :: controlField sender frametype pollBit

/-- Transmissions of RR and REJ frames, and nothing else. -/
def AllAnswers (mode : UInt32) (vr : Nat) (events : List Event) : Prop :=
  ∀ event ∈ events, ∃ frame, event = .dataTransmit frame ∧ IsAnswer mode vr frame

section Answers

variable {mode : UInt32} {vr : Nat}

theorem allAnswers_nil : AllAnswers mode vr [] := by simp [AllAnswers]

theorem AllAnswers.plain {events : List Event} (answers : AllAnswers mode vr events) :
    AllPlain mode vr events := by
  intro event member
  obtain ⟨frame, rfl, sender, rfl, rfl, frametype, type, pollBit, addr, rfl⟩ :=
    answers event member
  have supervisory : IsSupervisory frametype := by
    rcases type with rr | rej
    · exact .inl rr
    · exact .inr (.inr rej)
  obtain ⟨noPayload, nr⟩ := supervisory_frame sender supervisory pollBit addr
  exact .inr ⟨_, rfl, noPayload, nr⟩

end Answers

theorem answers_supervisory (x75 : X75Cb) {frametype : UInt16}
    (answer : frametype = x75Rr ∨ frametype = x75Rej) (pollBit type : UInt8) :
    AllAnswers x75.mode x75.vr (transmitted x75 (controlField x75 frametype pollBit) type) := by
  intro event member
  unfold transmitted called at member
  split at member
  · obtain rfl := List.mem_singleton.mp member
    exact ⟨_, rfl, x75, rfl, rfl, frametype, answer, pollBit, _, rfl⟩
  · cases member

/-! ## Frames -/

/-- The frame sets the link up from the state of the control block. -/
def SetsUpLink (x75 : X75Cb) (frame : X75Frame) : Prop :=
  (x75.state = .state0 ∨ x75.state = .state4) ∧
      frame.type = (if x75.extended then x75Sabme else x75Sabm) ∨
    x75.state = .state1 ∧ frame.type = x75Ua ∧ frame.pf ≠ 0

/-- The frame releases the link and purges the queues. -/
def ReleasesLink (x75 : X75Cb) (frame : X75Frame) : Prop :=
  x75.state = .state1 ∧ frame.type = x75Dm ∧ frame.pf ≠ 0 ∨
    x75.state = .state3 ∧ (frame.type = x75Disc ∨ frame.type = x75Dm)

instance (x75 : X75Cb) (frame : X75Frame) : Decidable (SetsUpLink x75 frame) :=
  inferInstanceAs (Decidable (_ ∨ _))

instance (x75 : X75Cb) (frame : X75Frame) : Decidable (ReleasesLink x75 frame) :=
  inferInstanceAs (Decidable (_ ∨ _))

/-- The forms of the state after the machine of the current state. -/
inductive MachineOutcome (x75 : X75Cb) (skb : Bytes) (frame : X75Frame) : X75Cb → Prop where
  /-- Nothing, or a response. -/
  | answered (events : List Event) (quiet : AllQuiet events) :
      MachineOutcome x75 skb frame (x75.record events)
  | connected (before after : List Event) (quiet : AllQuiet before) (quiet' : AllQuiet after)
      (setsUp : SetsUpLink x75 frame) :
      MachineOutcome x75 skb frame
        ({ resetLink (x75.record before) with state := .state3 }.record after)
  | released (events : List Event) (quiet : AllQuiet events) (releases : ReleasesLink x75 frame) :
      MachineOutcome x75 skb frame
        ({ x75StopT2timer (x75StartT1timer (x75ClearQueues x75)) with state := .state0 }.record
          events)
  | disconnected (events : List Event) (quiet : AllQuiet events) (awaiting : x75.state = .state2) :
      MachineOutcome x75 skb frame
        ({ x75StopT2timer (x75StartT1timer x75) with state := .state0 }.record events)
  | reset (events : List Event) (quiet : AllQuiet events) (connected : x75.state = .state3)
      (type : frame.type = if x75.extended then x75Sabme else x75Sabm) :
      MachineOutcome x75 skb frame (x75RequeueFrames (resetLink (x75.record events)))
  | rejected (condition frmrType : UInt8) (events : List Event)
      (plain : AllPlain x75.mode x75.vr events) (connected : x75.state = .state3) :
      MachineOutcome x75 skb frame
        ({ x75StopT2timer (x75StartT1timer x75) with
          state := .state4
          n2count := 0
          condition := condition
          frmrData := frame
          frmrType := frmrType }.record events)
  /-- RR, or RNR. -/
  | ready (condition : UInt8) (events : List Event) (plain : AllPlain x75.mode x75.vr events)
      (connected : x75.state = .state3)
      (type : frame.type = x75Rr ∧ testFlag condition x75PeerRxBusyCondition = false ∨
        frame.type = x75Rnr ∧ testFlag condition x75PeerRxBusyCondition = true)
      (valid : x75ValidateNr x75 frame.nr = true) :
      MachineOutcome x75 skb frame
        (x75CheckIframesAcked (x75.note condition events) frame.nr)
  /-- REJ. -/
  | requeued (condition : UInt8) (events : List Event) (plain : AllPlain x75.mode x75.vr events)
      (connected : x75.state = .state3) (type : frame.type = x75Rej)
      (idle : testFlag condition x75PeerRxBusyCondition = false)
      (valid : x75ValidateNr x75 frame.nr = true) :
      MachineOutcome x75 skb frame
        (x75RequeueFrames { x75StopT1timer
          (x75FramesAcked (x75.note condition events) frame.nr) with
          n2count := 0 })
  | inSequence (connected : x75.state = .state3) (type : frame.type = x75I)
      (valid : x75ValidateNr x75 frame.nr = true)
      (expected : frame.ns = (iframeAcknowledge x75 frame.nr).vr) :
      MachineOutcome x75 skb frame
        (receiveInSequence (iframeAcknowledge x75 frame.nr) skb frame)
  | outOfSequence (connected : x75.state = .state3) (type : frame.type = x75I)
      (valid : x75ValidateNr x75 frame.nr = true)
      (unexpected : frame.ns ≠ (iframeAcknowledge x75 frame.nr).vr) :
      MachineOutcome x75 skb frame
        (receiveOutOfSequence (iframeAcknowledge x75 frame.nr) frame)
  | reestablished (connected : x75.state = .state3) (type : frame.type = x75Frmr) :
      MachineOutcome x75 skb frame
        { x75RequeueFrames (x75EstablishDataLink x75) with state := .state1 }

/-- Noting the same condition and no event changes nothing. -/
theorem note_self (x75 : X75Cb) : x75.note x75.condition [] = x75 := by
  apply X75Cb.ext
  case events => exact List.append_nil _
  all_goals rfl

/-- The poll answer leaves an answer and may clear the pending
acknowledgement. -/
theorem x75CheckNeedResponse_eq (x75 : X75Cb) (type pf : UInt8) :
    ∃ condition events, AllAnswers x75.mode x75.vr events ∧
      testFlag condition x75PeerRxBusyCondition =
        testFlag x75.condition x75PeerRxBusyCondition ∧
      x75CheckNeedResponse x75 type pf = x75.note condition events := by
  unfold x75CheckNeedResponse
  split
  · exact ⟨_, _, answers_supervisory x75 (.inl rfl) x75Pollon x75Response,
      busy_clearFlag_ack x75.condition, rfl⟩
  · exact ⟨x75.condition, [], allAnswers_nil, rfl, (note_self x75).symm⟩

/-- An I-frame in sequence is delivered, V(R) is advanced, and the
acknowledgement is sent or left to T2. -/
theorem receiveInSequence_eq (x75 : X75Cb) (skb : Bytes) (frame : X75Frame) :
    ∃ condition events t1timer t2timer t2timerRunning,
      AllAnswers x75.mode ((x75.vr + 1) % x75.modulus) events ∧
      testFlag condition x75PeerRxBusyCondition =
        testFlag x75.condition x75PeerRxBusyCondition ∧
      receiveInSequence x75 skb frame =
        { x75 with
          vr := (x75.vr + 1) % x75.modulus
          condition := condition
          t1timer := t1timer
          t2timer := t2timer
          t2timerRunning := t2timerRunning }.record
            (called x75.callbacks.dataIndication (.dataIndication skb) ++ events) := by
  unfold receiveInSequence
  dsimp only
  split
  · refine ⟨clearFlag (clearFlag x75.condition x75RejectCondition) x75AckPendingCondition, _,
      x75.t1timer, x75.t2timer, x75.t2timerRunning,
      answers_supervisory { x75 with vr := (x75.vr + 1) % x75.modulus } (.inl rfl) x75Pollon
        x75Response, by simp, ?_⟩
    apply X75Cb.ext
    case events => exact List.append_assoc ..
    all_goals rfl
  split
  · refine ⟨clearFlag x75.condition x75RejectCondition, [], x75.t1timer, x75.t2timer,
      x75.t2timerRunning, allAnswers_nil, by simp, ?_⟩
    apply X75Cb.ext
    case events => exact congrArg (x75.events ++ ·) (List.append_nil _).symm
    all_goals rfl
  · refine ⟨setFlag (clearFlag x75.condition x75RejectCondition) x75AckPendingCondition, [],
      (x75StartT2timer x75).t1timer, (x75StartT2timer x75).t2timer, true, allAnswers_nil,
      by simp, ?_⟩
    apply X75Cb.ext
    case events => exact congrArg (x75.events ++ ·) (List.append_nil _).symm
    all_goals rfl

/-- Any other I-frame is discarded, at most with a REJ or an RR. -/
theorem receiveOutOfSequence_eq (x75 : X75Cb) (frame : X75Frame) :
    ∃ condition events, AllAnswers x75.mode x75.vr events ∧
      testFlag condition x75PeerRxBusyCondition =
        testFlag x75.condition x75PeerRxBusyCondition ∧
      receiveOutOfSequence x75 frame = x75.note condition events := by
  unfold receiveOutOfSequence
  split
  · split
    · exact ⟨_, _, answers_supervisory x75 (.inl rfl) x75Pollon x75Response,
        busy_clearFlag_ack x75.condition, rfl⟩
    · exact ⟨x75.condition, [], allAnswers_nil, rfl, (note_self x75).symm⟩
  · exact ⟨clearFlag (setFlag x75.condition x75RejectCondition) x75AckPendingCondition, _,
      answers_supervisory x75 (.inr rfl) frame.pf x75Response, by simp, rfl⟩

section Acknowledging

variable {x75 : X75Cb} {nr : Nat}

/-- RR and RNR, after the answer to a poll. -/
theorem ready_eq (va_lt : x75.va < x75.modulus) (nr_lt : nr < x75.modulus) (condition : UInt8)
    (events : List Event) :
    ∃ t1timer t1timerRunning n2count, x75CheckIframesAcked (x75.note condition events) nr =
      { acknowledge (x75.note condition events) (ackRounds x75 nr) with
        t1timer := t1timer
        t1timerRunning := t1timerRunning
        n2count := n2count } :=
  @x75CheckIframesAcked_eq (x75.note condition events) nr va_lt nr_lt

/-- REJ, after the answer to a poll. -/
theorem reject_eq (va_lt : x75.va < x75.modulus) (nr_lt : nr < x75.modulus) (condition : UInt8)
    (events : List Event) :
    x75FramesAcked (x75.note condition events) nr =
      acknowledge (x75.note condition events) (ackRounds x75 nr) :=
  @x75FramesAcked_eq (x75.note condition events) nr va_lt nr_lt

/-- An I-frame in sequence, with what it acknowledges. -/
theorem inSequence_eq (va_lt : x75.va < x75.modulus) (nr_lt : nr < x75.modulus) (skb : Bytes)
    (frame : X75Frame) :
    ∃ condition events t1timer t2timer t1timerRunning t2timerRunning n2count,
      AllAnswers x75.mode ((x75.vr + 1) % x75.modulus) events ∧
      testFlag condition x75PeerRxBusyCondition =
        testFlag x75.condition x75PeerRxBusyCondition ∧
      receiveInSequence (iframeAcknowledge x75 nr) skb frame =
        { acknowledge x75 (ackRounds x75 nr) with
          vr := (x75.vr + 1) % x75.modulus
          condition := condition
          t1timer := t1timer
          t2timer := t2timer
          t1timerRunning := t1timerRunning
          t2timerRunning := t2timerRunning
          n2count := n2count }.record
            (called x75.callbacks.dataIndication (.dataIndication skb) ++ events) := by
  obtain ⟨_, t1timerRunning, n2count, acked⟩ := iframeAcknowledge_eq va_lt nr_lt
  obtain ⟨condition, events, t1timer, t2timer, t2timerRunning, answers, busy, same⟩ :=
    receiveInSequence_eq (iframeAcknowledge x75 nr) skb frame
  rw [acked] at answers busy
  rw [same, acked]
  exact ⟨condition, events, t1timer, t2timer, t1timerRunning, t2timerRunning, n2count, answers,
    busy, rfl⟩

/-- Any other I-frame, with what it acknowledges. -/
theorem outOfSequence_eq (va_lt : x75.va < x75.modulus) (nr_lt : nr < x75.modulus)
    (frame : X75Frame) :
    ∃ condition events t1timer t1timerRunning n2count, AllAnswers x75.mode x75.vr events ∧
      testFlag condition x75PeerRxBusyCondition =
        testFlag x75.condition x75PeerRxBusyCondition ∧
      receiveOutOfSequence (iframeAcknowledge x75 nr) frame =
        { (acknowledge x75 (ackRounds x75 nr)).note condition events with
          t1timer := t1timer
          t1timerRunning := t1timerRunning
          n2count := n2count } := by
  obtain ⟨t1timer, t1timerRunning, n2count, acked⟩ := iframeAcknowledge_eq va_lt nr_lt
  obtain ⟨condition, events, answers, busy, same⟩ :=
    receiveOutOfSequence_eq (iframeAcknowledge x75 nr) frame
  rw [acked] at answers busy
  rw [same, acked]
  exact ⟨condition, events, t1timer, t1timerRunning, n2count, answers, busy, rfl⟩

end Acknowledging

/-- Unnumbered responses and commands are quiet. -/
theorem quiet_response (x75 : X75Cb) (pollBit type : UInt8) {frametype : UInt16}
    (unnumbered : frametype = x75Ua ∨ frametype = x75Dm ∨ frametype = x75Disc ∨
      frametype = x75Sabm ∨ frametype = x75Sabme) :
    AllQuiet (transmitted x75 (controlField x75 frametype pollBit) type) := by
  apply quiet_unnumbered
  rcases unnumbered with rfl | rfl | rfl | rfl | rfl <;> decide

/-- The command with which the link is set up is quiet. -/
theorem quiet_establish (x75 : X75Cb) :
    AllQuiet (transmitted x75 (controlField x75 (if x75.extended then x75Sabme else x75Sabm)
      x75Pollon) x75Command) := by
  apply quiet_response
  cases x75.extended <;> simp

/-- The frame reject procedure after a poll answer. -/
theorem rejected_outcome {x75 : X75Cb} (skb : Bytes) (frame : X75Frame)
    (connected : x75.state = .state3) (condition frmrType : UInt8) {events : List Event}
    (plain : AllPlain x75.mode x75.vr events) :
    MachineOutcome x75 skb frame (rejectFrame (x75.note condition events) frame frmrType) := by
  have quiet : AllPlain x75.mode x75.vr _ := (quiet_frmr
    { x75.note condition events with frmrData := frame, frmrType := frmrType }).plain
  have outcome : MachineOutcome x75 skb frame _ :=
    .rejected condition frmrType (events ++ _) (plain.append quiet) connected
  convert outcome using 1
  apply X75Cb.ext
  case events => exact List.append_assoc ..
  all_goals rfl

theorem rejected_outcome' {x75 : X75Cb} (skb : Bytes) (frame : X75Frame)
    (connected : x75.state = .state3) (frmrType : UInt8) :
    MachineOutcome x75 skb frame (rejectFrame x75 frame frmrType) := by
  have outcome := rejected_outcome skb frame connected x75.condition frmrType allPlain_nil
  rwa [note_self] at outcome

/-- RR and RNR. `condition` is the condition byte after the busy bit was
updated. -/
theorem receiveReady_outcome {x75 : X75Cb} {skb : Bytes} {frame : X75Frame}
    (connected : x75.state = .state3) (condition : UInt8)
    (type : frame.type = x75Rr ∧ testFlag condition x75PeerRxBusyCondition = false ∨
      frame.type = x75Rnr ∧ testFlag condition x75PeerRxBusyCondition = true) :
    MachineOutcome x75 skb frame (receiveReady { x75 with condition := condition } frame) := by
  obtain ⟨answered, events, answers, busy, same⟩ :=
    x75CheckNeedResponse_eq { x75 with condition := condition } frame.cr frame.pf
  simp only [receiveReady, same]
  split
  case isTrue valid =>
      refine .ready answered events answers.plain connected ?_ valid
      rw [busy]
      exact type
  case isFalse => exact rejected_outcome _ frame connected answered x75FrmrZ answers.plain

theorem receiveReject_outcome {x75 : X75Cb} {skb : Bytes} {frame : X75Frame}
    (connected : x75.state = .state3) (condition : UInt8) (type : frame.type = x75Rej)
    (idle : testFlag condition x75PeerRxBusyCondition = false) :
    MachineOutcome x75 skb frame (receiveReject { x75 with condition := condition } frame) := by
  obtain ⟨answered, events, answers, busy, same⟩ :=
    x75CheckNeedResponse_eq { x75 with condition := condition } frame.cr frame.pf
  simp only [receiveReject, same]
  split
  case isTrue valid =>
      exact .requeued answered events answers.plain connected type (busy.trans idle) valid
  case isFalse => exact rejected_outcome _ frame connected answered x75FrmrZ answers.plain

theorem receiveIframe_outcome {x75 : X75Cb} {skb : Bytes} {frame : X75Frame}
    (connected : x75.state = .state3) (type : frame.type = x75I) :
    MachineOutcome x75 skb frame (receiveIframe x75 skb frame) := by
  unfold receiveIframe
  by_cases valid : x75ValidateNr x75 frame.nr = true
  · rw [if_pos valid]
    by_cases expected : frame.ns = (iframeAcknowledge x75 frame.nr).vr
    · convert MachineOutcome.inSequence connected type valid expected using 1
      exact if_pos expected
    · convert MachineOutcome.outOfSequence connected type valid expected using 1
      exact if_neg expected
  · rw [if_neg valid]
    exact rejected_outcome' _ frame connected x75FrmrZ

/-! ## The branches of state 3 -/

/-- What the machine of state 3 does with a frame, by the type of the frame. -/
inductive State3Branch (x75 : X75Cb) (skb : Bytes) (frame : X75Frame) : X75Cb → Prop where
  /-- The link set-up of the other mode. -/
  | refused (type : frame.type = if x75.extended then x75Sabm else x75Sabme) :
      State3Branch x75 skb frame (x75SendControl x75 x75Dm frame.pf x75Response)
  | reset (type : frame.type = if x75.extended then x75Sabme else x75Sabm) :
      State3Branch x75 skb frame (resetConnected x75 frame)
  | disc (type : frame.type = x75Disc) :
      State3Branch x75 skb frame
        (x75DisconnectIndication
          { x75StopT2timer (x75StartT1timer
              (x75SendControl (x75ClearQueues x75) x75Ua frame.pf x75Response)) with
            state := .state0 } .ok)
  | dm (type : frame.type = x75Dm) :
      State3Branch x75 skb frame
        (x75DisconnectIndication
          (x75StopT2timer (x75StartT1timer { x75ClearQueues x75 with state := .state0 }))
          .notConnected)
  | rnr (type : frame.type = x75Rnr) :
      State3Branch x75 skb frame
        (receiveReady { x75 with condition := setFlag x75.condition x75PeerRxBusyCondition } frame)
  | rr (type : frame.type = x75Rr) :
      State3Branch x75 skb frame
        (receiveReady { x75 with condition := clearFlag x75.condition x75PeerRxBusyCondition }
          frame)
  | rej (type : frame.type = x75Rej) :
      State3Branch x75 skb frame
        (receiveReject { x75 with condition := clearFlag x75.condition x75PeerRxBusyCondition }
          frame)
  | iframe (type : frame.type = x75I) : State3Branch x75 skb frame (receiveIframe x75 skb frame)
  | frmr (type : frame.type = x75Frmr) :
      State3Branch x75 skb frame
        { x75RequeueFrames (x75EstablishDataLink x75) with state := .state1 }
  | illegal (type : frame.type = x75Illegal) :
      State3Branch x75 skb frame (rejectFrame x75 frame x75FrmrW)
  /-- A UA, which state 3 does not expect, or a type that the protocol does not have. -/
  | ignored (unlisted : frame.type ∉ [x75Sabm, x75Sabme, x75Disc, x75Dm, x75Rnr, x75Rr, x75Rej,
      x75I, x75Frmr, x75Illegal]) : State3Branch x75 skb frame x75

theorem state3_branch (x75 : X75Cb) (skb : Bytes) (frame : X75Frame) :
    State3Branch x75 skb frame (x75State3Machine x75 skb frame) := by
  unfold x75State3Machine
  by_cases sabm : frame.type = x75Sabm
  · rw [if_pos sabm]
    cases extended : x75.extended with
    | true => exact .refused (by rw [sabm, extended, if_pos rfl])
    | false => exact .reset (by rw [sabm, extended, if_neg Bool.false_ne_true])
  rw [if_neg sabm]
  by_cases sabme : frame.type = x75Sabme
  · rw [if_pos sabme]
    cases extended : x75.extended with
    | true => exact .reset (by rw [sabme, extended, if_pos rfl])
    | false => exact .refused (by rw [sabme, extended, if_neg Bool.false_ne_true])
  rw [if_neg sabme]
  by_cases disc : frame.type = x75Disc
  · rw [if_pos disc]
    exact .disc disc
  rw [if_neg disc]
  by_cases dm : frame.type = x75Dm
  · rw [if_pos dm]
    exact .dm dm
  rw [if_neg dm]
  by_cases rnr : frame.type = x75Rnr
  · rw [if_pos rnr]
    exact .rnr rnr
  rw [if_neg rnr]
  by_cases rr : frame.type = x75Rr
  · rw [if_pos rr]
    exact .rr rr
  rw [if_neg rr]
  by_cases rej : frame.type = x75Rej
  · rw [if_pos rej]
    exact .rej rej
  rw [if_neg rej]
  by_cases iframe : frame.type = x75I
  · rw [if_pos iframe]
    exact .iframe iframe
  rw [if_neg iframe]
  by_cases frmr : frame.type = x75Frmr
  · rw [if_pos frmr]
    exact .frmr frmr
  rw [if_neg frmr]
  by_cases illegal : frame.type = x75Illegal
  · rw [if_pos illegal]
    exact .illegal illegal
  rw [if_neg illegal]
  exact .ignored (by simp [*])

section Machine

variable (x75 : X75Cb) (skb : Bytes) (frame : X75Frame)

theorem ignored_outcome : MachineOutcome x75 skb frame x75 := by
  have outcome : MachineOutcome x75 skb frame _ := .answered [] allQuiet_nil
  convert outcome using 1
  apply X75Cb.ext
  case events => exact (List.append_nil _).symm
  all_goals rfl

theorem answered_outcome (pollBit type : UInt8) {frametype : UInt16}
    (unnumbered : frametype = x75Ua ∨ frametype = x75Dm ∨ frametype = x75Disc ∨
      frametype = x75Sabm ∨ frametype = x75Sabme) :
    MachineOutcome x75 skb frame (x75SendControl x75 frametype pollBit type) :=
  .answered _ (quiet_response x75 pollBit type unnumbered)

/-- The link is set up with an acknowledging UA. -/
theorem acknowledged_outcome (setsUp : SetsUpLink x75 frame) :
    MachineOutcome x75 skb frame
      (x75ConnectIndication
        { resetLink (x75SendControl x75 x75Ua frame.pf x75Response) with state := .state3 } .ok) :=
  .connected _ _ (quiet_response x75 frame.pf x75Response (.inl rfl))
    (AllQuiet.called trivial) setsUp

theorem state0_outcome (state : x75.state = .state0) :
    MachineOutcome x75 skb frame (x75State0Machine x75 frame) := by
  unfold x75State0Machine
  split
  · split
    · exact answered_outcome x75 skb frame _ _ (by simp)
    · exact acknowledged_outcome x75 skb frame (.inl ⟨.inl state, by simp_all⟩)
  · split
    · split
      · exact acknowledged_outcome x75 skb frame (.inl ⟨.inl state, by simp_all⟩)
      · exact answered_outcome x75 skb frame _ _ (by simp)
    · split
      · exact answered_outcome x75 skb frame _ _ (by simp)
      · exact ignored_outcome x75 skb frame

theorem state1_outcome (state : x75.state = .state1) :
    MachineOutcome x75 skb frame (x75State1Machine x75 frame) := by
  unfold x75State1Machine
  split
  · split <;> exact answered_outcome x75 skb frame _ _ (by simp)
  · split
    · split <;> exact answered_outcome x75 skb frame _ _ (by simp)
    · split
      · exact answered_outcome x75 skb frame _ _ (by simp)
      · split
        case isTrue ua =>
            split
            case isTrue pf =>
                have outcome : MachineOutcome x75 skb frame _ :=
                  .connected [] (called x75.callbacks.connectConfirmation
                    (.connectConfirmation .ok)) allQuiet_nil (AllQuiet.called trivial)
                    (.inr ⟨state, ua, pf⟩)
                convert outcome using 1
                apply X75Cb.ext
                case events => simp [x75ConnectConfirmation, resetLink]
                all_goals rfl
            case isFalse => exact ignored_outcome x75 skb frame
        case isFalse =>
            split
            case isTrue dm =>
                split
                case isTrue pf =>
                    exact MachineOutcome.released _ (AllQuiet.called trivial)
                      (.inl ⟨state, dm, pf⟩)
                case isFalse => exact ignored_outcome x75 skb frame
            case isFalse => exact ignored_outcome x75 skb frame

theorem state2_outcome (state : x75.state = .state2) :
    MachineOutcome x75 skb frame (x75State2Machine x75 frame) := by
  have disconnected : ∀ reason, MachineOutcome x75 skb frame
      (x75DisconnectConfirmation
        (x75StopT2timer (x75StartT1timer { x75 with state := .state0 })) reason) :=
    fun reason => MachineOutcome.disconnected _ (AllQuiet.called trivial) state
  unfold x75State2Machine
  split
  · exact answered_outcome x75 skb frame _ _ (by simp)
  · split
    · exact answered_outcome x75 skb frame _ _ (by simp)
    · split
      · split
        · exact disconnected .ok
        · exact ignored_outcome x75 skb frame
      · split
        · split
          · exact disconnected .notConnected
          · exact ignored_outcome x75 skb frame
        · split
          · split
            · exact answered_outcome x75 skb frame _ _ (by simp)
            · exact ignored_outcome x75 skb frame
          · exact ignored_outcome x75 skb frame

theorem resetConnected_outcome (state : x75.state = .state3)
    (type : frame.type = if x75.extended then x75Sabme else x75Sabm) :
    MachineOutcome x75 skb frame (resetConnected x75 frame) :=
  .reset _ (quiet_response x75 frame.pf x75Response (.inl rfl)) state type

theorem state3_outcome (state : x75.state = .state3) :
    MachineOutcome x75 skb frame (x75State3Machine x75 skb frame) := by
  have branch := state3_branch x75 skb frame
  generalize x75State3Machine x75 skb frame = after at branch ⊢
  cases branch with
  | refused => exact answered_outcome x75 skb frame _ _ (by simp)
  | reset type => exact resetConnected_outcome x75 skb frame state type
  | disc disc =>
      have answer : AllQuiet (transmitted (x75ClearQueues x75)
          (controlField (x75ClearQueues x75) x75Ua frame.pf) x75Response) :=
        quiet_response _ _ _ (.inl rfl)
      have indication : AllQuiet
          (called x75.callbacks.disconnectIndication (.disconnectIndication .ok)) :=
        AllQuiet.called trivial
      have outcome : MachineOutcome x75 skb frame _ :=
        .released _ (answer.append indication) (.inr ⟨state, .inl disc⟩)
      convert outcome using 1
      apply X75Cb.ext
      case events => exact List.append_assoc ..
      all_goals rfl
  | dm dm => exact MachineOutcome.released _ (AllQuiet.called trivial) (.inr ⟨state, .inr dm⟩)
  | rnr rnr => exact receiveReady_outcome state _ (.inr ⟨rnr, busy_setFlag_busy x75.condition⟩)
  | rr rr => exact receiveReady_outcome state _ (.inl ⟨rr, busy_clearFlag_busy x75.condition⟩)
  | rej rej => exact receiveReject_outcome state _ rej (busy_clearFlag_busy x75.condition)
  | iframe iframe => exact receiveIframe_outcome state iframe
  | frmr frmr => exact MachineOutcome.reestablished state frmr
  | illegal => exact rejected_outcome' skb frame state x75FrmrW
  | ignored => exact ignored_outcome x75 skb frame

theorem state4_outcome (state : x75.state = .state4) :
    MachineOutcome x75 skb frame (x75State4Machine x75 frame) := by
  unfold x75State4Machine
  split
  · split
    · exact answered_outcome x75 skb frame _ _ (by simp)
    · exact acknowledged_outcome x75 skb frame (.inl ⟨.inr state, by simp_all⟩)
  · split
    · split
      · exact acknowledged_outcome x75 skb frame (.inl ⟨.inr state, by simp_all⟩)
      · exact answered_outcome x75 skb frame _ _ (by simp)
    · exact ignored_outcome x75 skb frame

/-- **What the machine of the current state can do with a frame.** -/
theorem x75Machine_outcome : MachineOutcome x75 skb frame (x75Machine x75 skb frame) := by
  unfold x75Machine
  split
  case h_1 state => exact state0_outcome x75 skb frame state
  case h_2 state => exact state1_outcome x75 skb frame state
  case h_3 state => exact state2_outcome x75 skb frame state
  case h_4 state => exact state3_outcome x75 skb frame state
  case h_5 state => exact state4_outcome x75 skb frame state

end Machine

end IsdnRas.X75
