import IsdnRas.X75.Acts
import IsdnRas.X75.Retries

/-!
# What a connection delivers

A sequence of frames is received in state 3, from any peer, and the link is neither
left nor reset. An I-frame is delivered when its N(R) is valid and its N(S) is V(R).
Delivery advances V(R) and ends the reject condition; any other I-frame with a valid
N(R) asks for V(R) again with a REJ, unless the reject condition says that this has
been done.

Everything else that a received frame causes leaves V(R) and the reject condition, and
sends no REJ (`KeepsReceiver`). So the frames delivered are numbered in order, and a
frame is delivered between any two REJ frames (`delivered_in_sequence`).
-/

set_option autoImplicit false

namespace IsdnRas.X75

/-! ## REJ frames on the wire -/

/-- The frame is a REJ. -/
def isReject : Bytes → Bool
  | _ :: control :: _ => (control &&& 0x0F).toUInt16 == x75Rej
  | _ => false

/-- The REJ frames handed to `data_transmit`. -/
def rejectsOf (events : List Event) : List Bytes := (sentOf events).filter isReject

@[simp] theorem rejectsOf_append (first second : List Event) :
    rejectsOf (first ++ second) = rejectsOf first ++ rejectsOf second := by
  simp [rejectsOf]

/-- The four low bits of a REJ say that it is a supervisory frame. -/
theorem isReject_bits {addr control : UInt8} {rest : Bytes}
    (reject : isReject (addr :: control :: rest) = true) : control &&& x75U = 1 := by
  have low : (control &&& 0x0F).toUInt16 = x75Rej := by simpa [isReject] using reject
  have byte : control &&& 0x0F = 9 := by
    have read := congrArg UInt16.toUInt8 low
    rwa [UInt8.toUInt8_toUInt16] at read
  have both : control &&& 0x0F &&& x75U = control &&& x75U := by
    rw [UInt8.and_assoc]
    rfl
  rw [← both, byte]
  rfl

theorem isReject_unnumbered {frame : Bytes} (unnumbered : IsUnnumbered frame) :
    isReject frame = false := by
  obtain ⟨control, read, bits⟩ := unnumbered
  obtain ⟨addr, rest, rfl⟩ := eq_cons_of_controlByte read
  refine Bool.eq_false_iff.mpr fun reject => ?_
  exact absurd (bits.symm.trans (isReject_bits reject)) (by decide)

/-- An I-frame has an even control byte. -/
theorem isReject_iframe (x75 : X75Cb) (skb : Bytes) (addr : UInt8) :
    isReject (addr :: iframeField x75 skb x75Polloff) = false := by
  refine Bool.eq_false_iff.mpr fun reject => ?_
  have payload := iframePayload_iframe x75 skb addr
  have odd : ∀ {control : UInt8} {rest : Bytes}, iframeField x75 skb x75Polloff = control :: rest →
      control &&& x75U ≠ 1 := by
    intro control rest field supervisory
    have bit : control &&& x75S ≠ 0 := by
      have both : control &&& x75U &&& x75S = control &&& x75S := UInt8.and_assoc ..
      rw [← both, supervisory]
      decide
    rw [field, iframePayload, if_neg bit] at payload
    cases payload
  cases field : iframeField x75 skb x75Polloff with
  | nil => simp [field, isReject] at reject
  | cons control rest =>
      rw [field] at reject
      exact odd field (isReject_bits reject)

theorem isReject_supervisory (x75 : X75Cb) {frametype : UInt16}
    (supervisory : IsSupervisory frametype) (pollBit addr : UInt8) :
    isReject (addr :: controlField x75 frametype pollBit) = (frametype == x75Rej) := by
  rw [controlField_supervisory x75 supervisory]
  cases x75.extended with
  | true => rw [if_pos rfl, isReject, (supervisory_type supervisory).2.2]
  | false =>
      have read := standard_and (frametype.toUInt8 ||| standardPoll pollBit) x75.vr 0x0F (by decide)
      rw [if_neg Bool.false_ne_true, isReject, read, (supervisory_bits supervisory pollBit).2.2.2.1]

/-! ## What leaves the receiver alone -/

/-- A REJ has been sent and the frame asked for has not come. -/
abbrev rejecting (x75 : X75Cb) : Bool := testFlag x75.condition x75RejectCondition

/-- V(R) and the reject condition stay, no REJ is sent and nothing is delivered. -/
structure KeepsReceiver (x75 after : X75Cb) : Prop where
  mode : after.mode = x75.mode
  callbacks : after.callbacks = x75.callbacks
  vr : after.vr = x75.vr
  rejecting : rejecting after = rejecting x75
  events : ∃ events, after.events = x75.events ++ events ∧ rejectsOf events = [] ∧
    indicatedOf events = []

namespace KeepsReceiver

variable {x75 middle after : X75Cb}

theorem refl (x75 : X75Cb) : KeepsReceiver x75 x75 :=
  ⟨rfl, rfl, rfl, rfl, [], (List.append_nil _).symm, rfl, rfl⟩

theorem trans (before : KeepsReceiver x75 middle) (later : KeepsReceiver middle after) :
    KeepsReceiver x75 after where
  mode := later.mode.trans before.mode
  callbacks := later.callbacks.trans before.callbacks
  vr := later.vr.trans before.vr
  rejecting := later.rejecting.trans before.rejecting
  events := by
    obtain ⟨first, happened, rejects, indicated⟩ := before.events
    obtain ⟨second, happened', rejects', indicated'⟩ := later.events
    refine ⟨first ++ second, ?_, ?_, ?_⟩
    · rw [happened', happened, List.append_assoc]
    · rw [rejectsOf_append, rejects, rejects', List.append_nil]
    · rw [indicatedOf_append, indicated, indicated', List.append_nil]

theorem of_fields (keeps : KeepsReceiver x75 middle) (mode : after.mode = middle.mode)
    (callbacks : after.callbacks = middle.callbacks) (vr : after.vr = middle.vr)
    (same : X75.rejecting after = X75.rejecting middle) (events : after.events = middle.events) :
    KeepsReceiver x75 after :=
  keeps.trans ⟨mode, callbacks, vr, same, [], by rw [events, List.append_nil], rfl, rfl⟩

theorem record (x75 : X75Cb) {events : List Event} (rejects : rejectsOf events = [])
    (indicated : indicatedOf events = []) : KeepsReceiver x75 (x75.record events) :=
  ⟨rfl, rfl, rfl, rfl, events, rfl, rejects, indicated⟩

theorem transmit (x75 : X75Cb) {skb : Bytes} {type : UInt8}
    (other : isReject (x75Address x75 type :: skb) = false) :
    KeepsReceiver x75 (x75TransmitBuffer x75 skb type) := by
  refine record x75 ?_ ?_
  · unfold called
    split
    · simp [rejectsOf, sentOf, other]
    · rfl
  · unfold called
    split <;> rfl

/-- Unnumbered frames and call-backs about the connection. -/
theorem quiet (x75 : X75Cb) {events : List Event} (quiet : AllQuiet events) :
    KeepsReceiver x75 (x75.record events) := by
  refine record x75 ?_ ?_
  · refine List.filter_eq_nil_iff.mpr fun frame member => ?_
    obtain ⟨event, sent, read⟩ := List.mem_filterMap.mp member
    have unnumbered := quiet event sent
    cases event with
    | dataTransmit other =>
        obtain rfl := Option.some.inj read
        simp [isReject_unnumbered unnumbered]
    | _ => cases read
  · exact AllPlain.indicatedOf_eq (@AllQuiet.plain x75.mode x75.vr events quiet)

theorem unnumbered (x75 : X75Cb) {frametype : UInt16} (pollBit type : UInt8)
    (unnumbered : frametype.toUInt8 &&& x75U = x75U) :
    KeepsReceiver x75 (x75SendControl x75 frametype pollBit type) :=
  quiet x75 (quiet_unnumbered x75 pollBit type unnumbered)

theorem continuing (act : Continuing x75 after) : KeepsReceiver x75 after := by
  cases act with
  | noted same =>
      exact (refl x75).of_fields same.mode same.callbacks same.vr same.rejecting same.events
  | acked nr =>
      obtain ⟨_, _, freed, same⟩ := x75FramesAcked_kept x75 nr
      have silent : rejectsOf (freed.map .acked) = [] := by simp [rejectsOf, sentOf]
      have none : indicatedOf (freed.map .acked) = [] := by simp [indicatedOf]
      rw [same]
      exact (record x75 silent none).of_fields rfl rfl rfl rfl rfl
  | kicked kicked =>
      rcases x75Kick_cases kicked with ⟨-, rfl⟩ | ⟨-, k, -, rfl⟩
      · exact refl after
      · -- I-frames are sent, and the acknowledgement that was pending is theirs
        have silent : rejectsOf (iframesFrom { x75 with vs := kickStart x75 } (kickStart x75)
            (x75.writeQueue.msgs.take k)) = [] := by
          refine List.filter_eq_nil_iff.mpr fun frame member => ?_
          obtain ⟨event, sent, read⟩ := List.mem_filterMap.mp member
          obtain ⟨_, _, -, rfl⟩ := mem_iframesFrom sent
          obtain rfl := Option.some.inj read
          exact Bool.eq_false_iff.mp (isReject_iframe ..)
        have recorded := record x75 silent (indicatedOf_iframesFrom ..)
        exact recorded.of_fields rfl rfl rfl (testFlag_clearFlag_of_apart (by decide)) rfl
  | enqueued skb =>
      have recorded : KeepsReceiver x75 (x75.record [.accepted skb]) := record x75 rfl rfl
      exact recorded.of_fields rfl rfl rfl rfl rfl
  | cleared =>
      have recorded : KeepsReceiver x75 (x75.record [.queuesCleared]) := record x75 rfl rfl
      exact recorded.of_fields rfl rfl rfl rfl rfl
  | command kind pollBit =>
      refine unnumbered x75 pollBit x75Command ?_
      rcases kind with rfl | rfl
      · split <;> decide
      · decide
  | frmr => exact quiet x75 (quiet_frmr x75)

theorem continues {pollBits : List UInt8} (continues : Continues x75 pollBits after) :
    KeepsReceiver x75 after := by
  induction continues with
  | refl => exact refl x75
  | act _ last ih => exact ih.trans (continuing last)
  | @replied _ base _ _ reply pollBit ih =>
      rcases reply with rfl | rfl | rfl
      · exact ih.trans (transmit base (isReject_supervisory base (.inl rfl) pollBit _))
      · exact ih.trans (unnumbered base pollBit x75Response (by decide))
      · exact ih.trans (unnumbered base pollBit x75Response (by decide))

/-- A procedure that does not end in state 4. -/
theorem handles {pollBits : List UInt8} (handles : Handles x75 pollBits after)
    (stays : after.state = .state3) : KeepsReceiver x75 after := by
  cases handles with
  | continued continued => exact continues continued
  | rejected => cases stays

end KeepsReceiver

/-! ## What a frame does -/

/-- The frame is delivered: an I-frame with a valid N(R) whose N(S) is V(R). -/
def IsExpected (x75 : X75Cb) (frame : X75Frame) : Prop :=
  frame.type = x75I ∧ x75ValidateNr x75 frame.nr = true ∧ frame.ns = x75.vr

instance (x75 : X75Cb) (frame : X75Frame) : Decidable (IsExpected x75 frame) :=
  inferInstanceAs (Decidable (_ ∧ _ ∧ _))

/-- An in-sequence frame is handed over: V(R) advances and the reject condition ends. -/
structure HandsOver (x75 : X75Cb) (skb : Bytes) (after : X75Cb) : Prop where
  mode : after.mode = x75.mode
  callbacks : after.callbacks = x75.callbacks
  vr : after.vr = (x75.vr + 1) % x75.modulus
  clear : rejecting after = false
  events : after.events =
    x75.events ++ called x75.callbacks.dataIndication (.dataIndication skb)

/-- V(R) is asked for again: the reject condition is set and one frame is sent. -/
structure AsksAgain (x75 after : X75Cb) : Prop where
  mode : after.mode = x75.mode
  callbacks : after.callbacks = x75.callbacks
  vr : after.vr = x75.vr
  set : rejecting after = true
  events : ∃ reject, after.events =
    x75.events ++ called x75.callbacks.dataTransmit (.dataTransmit reject)

/-- What a frame does in state 3, when the link stays there and is not reset. -/
inductive FrameTaken (x75 : X75Cb) (skb : Bytes) (frame : X75Frame) (after : X75Cb) : Prop where
  | delivered (expected : IsExpected x75 frame) {base middle : X75Cb}
      (before : KeepsReceiver x75 base) (hands : HandsOver base skb middle)
      (later : KeepsReceiver middle after)
  | asked (other : ¬ IsExpected x75 frame) (clear : rejecting x75 = false) {base middle : X75Cb}
      (before : KeepsReceiver x75 base) (asks : AsksAgain base middle)
      (later : KeepsReceiver middle after)
  | kept (other : ¬ IsExpected x75 frame) (keeps : KeepsReceiver x75 after)

section Taken

variable {x75 middle after : X75Cb} {skb : Bytes} {frame : X75Frame}

theorem FrameTaken.trans (taken : FrameTaken x75 skb frame middle)
    (last : KeepsReceiver middle after) : FrameTaken x75 skb frame after := by
  cases taken with
  | delivered expected before hands later =>
      exact .delivered expected before hands (later.trans last)
  | asked other clear before asks later => exact .asked other clear before asks (later.trans last)
  | kept other keeps => exact .kept other (keeps.trans last)

/-- Frames of another type are not delivered. -/
theorem not_isExpected_of_type (other : frame.type ≠ x75I) : ¬ IsExpected x75 frame :=
  fun expected => other expected.1

theorem handsOver_handedOver (x75 : X75Cb) (skb : Bytes) :
    HandsOver x75 skb (handedOver x75 skb) :=
  ⟨rfl, rfl, rfl, testFlag_clearFlag_self .., rfl⟩

theorem asksAgain_askedAgain (x75 : X75Cb) (pf : UInt8) : AsksAgain x75 (askedAgain x75 pf) := by
  refine ⟨rfl, rfl, rfl, ?_, _, rfl⟩
  have kept : testFlag (clearFlag (setFlag x75.condition x75RejectCondition)
      x75AckPendingCondition) x75RejectCondition =
      testFlag (setFlag x75.condition x75RejectCondition) x75RejectCondition :=
    testFlag_clearFlag_of_apart (by decide)
  exact kept.trans (testFlag_setFlag_self (by decide))

theorem receiveIframe_taken (type : frame.type = x75I)
    (stays : (receiveIframe x75 skb frame).state = .state3) :
    FrameTaken x75 skb frame (receiveIframe x75 skb frame) := by
  unfold receiveIframe at stays ⊢
  split
  case isFalse invalid =>
      rw [if_neg invalid] at stays
      cases stays
  case isTrue valid =>
  have acked := KeepsReceiver.continues (continues_iframeAcknowledge x75 frame.nr)
  dsimp only
  split
  case isTrue expected =>
      exact .delivered ⟨type, valid, expected.trans acked.vr⟩ acked (handsOver_handedOver _ skb)
        (.continues (receiveInSequence_continues _ skb frame))
  case isFalse unexpected =>
      have other : ¬ IsExpected x75 frame :=
        fun expected => unexpected (expected.2.2.trans acked.vr.symm)
      rcases receiveOutOfSequence_cases (iframeAcknowledge x75 frame.nr) frame with
        continues | ⟨clear, same⟩
      · exact .kept other (acked.trans (.continues continues))
      · rw [same]
        exact .asked other (acked.rejecting ▸ clear) acked (asksAgain_askedAgain _ frame.pf)
          (.refl _)

/-- The machine of state 3, when the link stays in the state and is not reset. -/
theorem state3_taken (unreset : frame.type ≠ if x75.extended then x75Sabme else x75Sabm)
    (stays : (x75State3Machine x75 skb frame).state = .state3) :
    FrameTaken x75 skb frame (x75State3Machine x75 skb frame) := by
  have other : ∀ {type : UInt16}, frame.type = type → type ≠ x75I → ¬ IsExpected x75 frame :=
    fun same apart => not_isExpected_of_type (same ▸ apart)
  have branch := state3_branch x75 skb frame
  generalize x75State3Machine x75 skb frame = after at branch stays ⊢
  cases branch with
  | refused type =>
      refine .kept (other type ?_) (.unnumbered x75 frame.pf x75Response (by decide))
      cases x75.extended <;> decide
  | reset type => exact absurd type unreset
  | disc => cases stays
  | dm => cases stays
  | rnr type => exact .kept (other type (by decide)) (.handles (handles_rnr x75 frame) stays)
  | rr type => exact .kept (other type (by decide)) (.handles (handles_rr x75 frame) stays)
  | rej type => exact .kept (other type (by decide)) (.handles (handles_rej x75 frame) stays)
  | iframe type => exact receiveIframe_taken type stays
  | frmr => cases stays
  | illegal => cases stays
  | ignored unlisted =>
      refine .kept (not_isExpected_of_type fun type => unlisted ?_) (.refl x75)
      simp [type]

end Taken

/-! ## Runs -/

/-- What the receiving side of a connection does that the peer can tell. -/
inductive Mark where
  | delivered (frame : X75Frame) (skb : Bytes)
  | rejected (reject : Bytes)
deriving Repr, DecidableEq

def deliveredOf (marks : List Mark) : List (X75Frame × Bytes) :=
  marks.filterMap fun
    | .delivered frame skb => some (frame, skb)
    | .rejected _ => none

@[simp] theorem deliveredOf_append (first second : List Mark) :
    deliveredOf (first ++ second) = deliveredOf first ++ deliveredOf second :=
  List.filterMap_append

theorem deliveredOf_rejected (rejects : List Bytes) :
    deliveredOf (rejects.map .rejected) = [] := by
  simp [deliveredOf]

/-- Between any two REJ frames a frame is delivered. -/
def Spaced (marks : List Mark) : Prop :=
  ∀ before between after first second,
    marks = before ++ .rejected first :: (between ++ .rejected second :: after) →
      deliveredOf between ≠ []

/-- A frame has been delivered since the last REJ. -/
def Answered (marks : List Mark) : Prop :=
  ∀ before after reject, marks = before ++ .rejected reject :: after → deliveredOf after ≠ []

section Marks

variable {marks : List Mark}

/-- A mark of a list that has grown is the last one, or a mark of the list before. -/
theorem append_singleton_split {last mark : Mark} {before after : List Mark}
    (split : marks ++ [last] = before ++ mark :: after) :
    after = [] ∧ marks = before ∧ last = mark ∨
      ∃ rest, after = rest ++ [last] ∧ marks = before ++ mark :: rest := by
  rcases List.eq_nil_or_concat' after with rfl | ⟨rest, final, rfl⟩
  · obtain ⟨same, last_eq⟩ := List.append_inj' split rfl
    exact .inl ⟨rfl, same, List.singleton_inj.mp last_eq⟩
  · rw [← List.cons_append, ← List.append_assoc] at split
    obtain ⟨same, final_eq⟩ := List.append_inj' split rfl
    obtain rfl := List.singleton_inj.mp final_eq
    exact .inr ⟨rest, rfl, same⟩

theorem answered_delivered (marks : List Mark) (frame : X75Frame) (skb : Bytes) :
    Answered (marks ++ [.delivered frame skb]) := by
  intro before after reject split none
  rcases append_singleton_split split with ⟨-, -, other⟩ | ⟨rest, rfl, -⟩
  · cases other
  · rw [deliveredOf_append] at none
    exact absurd (List.append_eq_nil_iff.mp none).2 (List.cons_ne_nil _ _)

theorem Spaced.delivered (spaced : Spaced marks) (frame : X75Frame) (skb : Bytes) :
    Spaced (marks ++ [.delivered frame skb]) := by
  intro before between after first second split
  rcases append_singleton_split split with ⟨none, -⟩ | ⟨rest, longer, same⟩
  · simp at none
  · rcases append_singleton_split longer.symm with ⟨-, -, other⟩ | ⟨rest', -, rfl⟩
    · cases other
    · exact spaced before between rest' first second same

theorem Spaced.rejected (spaced : Spaced marks) (answered : Answered marks) (reject : Bytes) :
    Spaced (marks ++ [.rejected reject]) := by
  intro before between after first second split
  rcases append_singleton_split split with ⟨none, -⟩ | ⟨rest, longer, same⟩
  · simp at none
  · rcases append_singleton_split longer.symm with ⟨-, rfl, -⟩ | ⟨rest', -, rfl⟩
    · exact answered before rest first same
    · exact spaced before between rest' first second same

end Marks

/-- A control block, and what its receiving side has done. -/
structure Receiving where
  x75 : X75Cb
  marks : List Mark
deriving DecidableEq

/-- The frame that an operation delivers, with its payload. -/
def deliveredBy (x75 : X75Cb) : Op → Option (X75Frame × Bytes)
  | .dataReceived skb stack =>
      (x75Decode x75 skb stack).filter fun taken => IsExpected x75 taken.1
  | _ => none

/-- One operation, with the frame that it delivers and the REJ frames that it sends. -/
def Receiving.step (receiving : Receiving) (op : Op) : Option Receiving :=
  (exec receiving.x75 op).map fun after =>
    { x75 := after
      marks := receiving.marks ++
        ((deliveredBy receiving.x75 op).toList.map fun taken => .delivered taken.1 taken.2) ++
          (rejectsOf (after.events.drop receiving.x75.events.length)).map .rejected }

def Op.isFrame : Op → Bool
  | .dataReceived _ _ => true
  | _ => false

/-- A frame is received in state 3, and the link stays there without a reset. -/
def StaysConnected (receiving : Receiving) (op : Op) : Prop :=
  receiving.x75.state = .state3 ∧ op.isFrame = true ∧ ¬ OpResets receiving.x75 op ∧
    ∀ after ∈ exec receiving.x75 op, after.state = .state3

instance (receiving : Receiving) (op : Op) : Decidable (StaysConnected receiving op) :=
  inferInstanceAs (Decidable (_ ∧ _ ∧ _ ∧ ∀ _ ∈ _, _))

/-- The deliveries up to now are in sequence, and REJ frames are spaced. -/
structure Receiving.InSequence (start : X75Cb) (receiving : Receiving) : Prop where
  mode : receiving.x75.mode = start.mode
  callbacks : receiving.x75.callbacks = start.callbacks
  vr : receiving.x75.vr = (deliveredOf receiving.marks).length % start.modulus
  indicated : indicatedOf receiving.x75.events = indicatedOf start.events ++
    if start.callbacks.dataIndication then (deliveredOf receiving.marks).map Prod.snd else []
  numbered : ∀ k taken, (deliveredOf receiving.marks)[k]? = some taken →
    taken.1.ns = k % start.modulus
  spaced : Spaced receiving.marks
  answered : rejecting receiving.x75 = false → Answered receiving.marks

section Runs

variable {start x75 after : X75Cb} {receiving : Receiving} {skb : Bytes} {frame : X75Frame}

/-- A frame that is delivered, with the events that it adds. -/
theorem FrameTaken.of_isExpected (taken : FrameTaken x75 skb frame after)
    (expected : IsExpected x75 frame) :
    after.mode = x75.mode ∧ after.callbacks = x75.callbacks ∧
      after.vr = (x75.vr + 1) % x75.modulus ∧ rejecting after = false ∧
      ∃ events, after.events = x75.events ++ events ∧ rejectsOf events = [] ∧
        indicatedOf events = if x75.callbacks.dataIndication then [skb] else [] := by
  cases taken with
  | @delivered _ base middle before hands later =>
      obtain ⟨first, happened, rejects, indicated⟩ := before.events
      obtain ⟨second, happened', rejects', indicated'⟩ := later.events
      refine ⟨later.mode.trans (hands.mode.trans before.mode),
        later.callbacks.trans (hands.callbacks.trans before.callbacks), ?_,
        later.rejecting.trans hands.clear,
        first ++ called base.callbacks.dataIndication (.dataIndication skb) ++ second, ?_, ?_, ?_⟩
      · rw [later.vr, hands.vr, X75Cb.modulus, before.mode, before.vr]
      · simp only [happened', hands.events, happened, List.append_assoc]
      · have silent : rejectsOf (called base.callbacks.dataIndication (.dataIndication skb)) =
            [] := by
          cases base.callbacks.dataIndication <;> rfl
        simp [rejects, rejects', silent]
      · rw [indicatedOf_append, indicatedOf_append, indicated, indicated', before.callbacks]
        cases x75.callbacks.dataIndication <;> rfl
  | asked other => exact absurd expected other
  | kept other => exact absurd expected other

theorem FrameTaken.of_not_isExpected (taken : FrameTaken x75 skb frame after)
    (other : ¬ IsExpected x75 frame) :
    after.mode = x75.mode ∧ after.callbacks = x75.callbacks ∧ after.vr = x75.vr ∧
      ∃ events, after.events = x75.events ++ events ∧ indicatedOf events = [] ∧
        (rejectsOf events = [] ∧ (rejecting after = false → rejecting x75 = false) ∨
          ∃ reject, rejectsOf events = [reject] ∧ rejecting x75 = false ∧
            rejecting after = true) := by
  cases taken with
  | delivered expected => exact absurd expected other
  | @asked _ clear base middle before asks later =>
      obtain ⟨first, happened, rejects, indicated⟩ := before.events
      obtain ⟨second, happened', rejects', indicated'⟩ := later.events
      obtain ⟨reject, sent⟩ := asks.events
      have set : rejecting after = true := later.rejecting.trans asks.set
      refine ⟨later.mode.trans (asks.mode.trans before.mode),
        later.callbacks.trans (asks.callbacks.trans before.callbacks),
        later.vr.trans (asks.vr.trans before.vr),
        first ++ called base.callbacks.dataTransmit (.dataTransmit reject) ++ second, ?_, ?_, ?_⟩
      · simp only [happened', sent, happened, List.append_assoc]
      · have silent : indicatedOf (called base.callbacks.dataTransmit (.dataTransmit reject)) =
            [] := by
          cases base.callbacks.dataTransmit <;> rfl
        simp [indicated, indicated', silent]
      · have all : rejectsOf (first ++ called base.callbacks.dataTransmit (.dataTransmit reject) ++
            second) = rejectsOf (called base.callbacks.dataTransmit (.dataTransmit reject)) := by
          simp [rejects, rejects']
        rw [all]
        cases base.callbacks.dataTransmit with
        | false => exact .inl ⟨rfl, fun unset => absurd (set.symm.trans unset) (by decide)⟩
        | true =>
            cases isRej : isReject reject with
            | false =>
                left
                exact ⟨by simp [called, rejectsOf, sentOf, isRej],
                  fun unset => absurd (set.symm.trans unset) (by decide)⟩
            | true => exact .inr ⟨reject, by simp [called, rejectsOf, sentOf, isRej], clear, set⟩
  | kept _ keeps =>
      obtain ⟨events, happened, rejects, indicated⟩ := keeps.events
      exact ⟨keeps.mode, keeps.callbacks, keeps.vr, events, happened, indicated,
        .inl ⟨rejects, fun unset => keeps.rejecting.symm.trans unset⟩⟩

/-- What a received frame leaves, when the link stays in state 3 and is not reset. -/
theorem frameTaken_exec {stack : X75Frame} {rest : Bytes} (connected : x75.state = .state3)
    (unreset : ¬ OpResets x75 (.dataReceived skb stack))
    (decoded : x75Decode x75 skb stack = some (frame, rest))
    (taken : exec x75 (.dataReceived skb stack) = some after) (stays : after.state = .state3) :
    FrameTaken x75 rest frame after := by
  change x75DataInput x75 skb stack = some after at taken
  simp only [x75DataInput, decoded, x75Machine, connected] at taken
  have received : receivedFrame x75 (.dataReceived skb stack) = some frame := by
    simp [receivedFrame, decoded]
  have machined : FrameTaken x75 rest frame (x75State3Machine x75 rest frame) := by
    refine state3_taken (fun type => unreset ⟨connected, frame, received, type⟩) ?_
    exact (x75Kick_retries taken).2.2.2.symm.trans stays
  exact machined.trans (.continuing (.kicked taken))

theorem Receiving.InSequence.deliver (inSequence : receiving.InSequence start)
    (expected : IsExpected receiving.x75 frame) {events : List Event}
    (mode : after.mode = receiving.x75.mode) (callbacks : after.callbacks = receiving.x75.callbacks)
    (vr : after.vr = (receiving.x75.vr + 1) % receiving.x75.modulus)
    (happened : after.events = receiving.x75.events ++ events)
    (indicated : indicatedOf events =
      if receiving.x75.callbacks.dataIndication then [skb] else []) :
    Receiving.InSequence start ⟨after, receiving.marks ++ [.delivered frame skb]⟩ := by
  have grown : deliveredOf (receiving.marks ++ [.delivered frame skb]) =
      deliveredOf receiving.marks ++ [(frame, skb)] := deliveredOf_append ..
  have modulus : receiving.x75.modulus = start.modulus := by
    rw [X75Cb.modulus, inSequence.mode]
  refine ⟨mode.trans inSequence.mode, callbacks.trans inSequence.callbacks, ?_, ?_, ?_,
    inSequence.spaced.delivered frame skb, fun _ => answered_delivered _ frame skb⟩
  · change after.vr = _
    rw [vr, grown, List.length_append, modulus, inSequence.vr, Nat.mod_add_mod]
    rfl
  · change indicatedOf after.events = _
    rw [happened, indicatedOf_append, inSequence.indicated, indicated, inSequence.callbacks, grown]
    cases start.callbacks.dataIndication <;> simp
  · intro k taken read
    rw [grown, List.getElem?_append] at read
    split at read
    · exact inSequence.numbered k taken read
    case isFalse last =>
        rw [List.getElem?_singleton] at read
        split at read
        case isFalse => cases read
        case isTrue here =>
            obtain rfl := Option.some.inj read
            have index : k = (deliveredOf receiving.marks).length := by omega
            rw [index, ← inSequence.vr]
            exact expected.2.2

/-- Any other frame, with the REJ frames that it causes. -/
theorem Receiving.InSequence.other (inSequence : receiving.InSequence start)
    {events : List Event}
    (mode : after.mode = receiving.x75.mode) (callbacks : after.callbacks = receiving.x75.callbacks)
    (vr : after.vr = receiving.x75.vr)
    (happened : after.events = receiving.x75.events ++ events)
    (indicated : indicatedOf events = [])
    (rejects : rejectsOf events = [] ∧
        (rejecting after = false → rejecting receiving.x75 = false) ∨
      ∃ reject, rejectsOf events = [reject] ∧ rejecting receiving.x75 = false ∧
        rejecting after = true) :
    Receiving.InSequence start
      ⟨after, receiving.marks ++ (rejectsOf events).map .rejected⟩ := by
  have same : deliveredOf (receiving.marks ++ (rejectsOf events).map .rejected) =
      deliveredOf receiving.marks := by
    rw [deliveredOf_append, deliveredOf_rejected, List.append_nil]
  refine ⟨mode.trans inSequence.mode, callbacks.trans inSequence.callbacks, ?_, ?_, ?_, ?_, ?_⟩
  · rw [same]
    exact vr.trans inSequence.vr
  · change indicatedOf after.events = _
    rw [same, happened, indicatedOf_append, indicated, List.append_nil]
    exact inSequence.indicated
  · rw [same]
    exact inSequence.numbered
  · rcases rejects with ⟨none, -⟩ | ⟨reject, one, clear, -⟩
    · rw [none, List.map_nil, List.append_nil]
      exact inSequence.spaced
    · rw [one]
      exact inSequence.spaced.rejected (inSequence.answered clear) reject
  · intro unset
    rcases rejects with ⟨none, before⟩ | ⟨reject, -, -, set⟩
    · rw [none, List.map_nil, List.append_nil]
      exact inSequence.answered (before unset)
    · exact absurd (set.symm.trans unset) (by decide)

theorem Receiving.InSequence.step {next : Receiving} {op : Op}
    (inSequence : receiving.InSequence start) (stays : StaysConnected receiving op)
    (taken : receiving.step op = some next) : next.InSequence start := by
  obtain ⟨after, executed, rfl⟩ := Option.map_eq_some_iff.mp taken
  obtain ⟨connected, isFrame, unreset, stays⟩ := stays
  cases op with
  | dataReceived skb stack =>
      cases decoded : x75Decode receiving.x75 skb stack with
      | none =>
          have same : receiving.x75 = after := by
            have ignored : x75DataInput receiving.x75 skb stack = some receiving.x75 := by
              simp [x75DataInput, decoded]
            exact Option.some.inj (ignored.symm.trans executed)
          subst same
          simpa [deliveredBy, decoded, rejectsOf] using inSequence
      | some both =>
          obtain ⟨frame, rest⟩ := both
          have frameTaken := frameTaken_exec connected unreset decoded executed (stays _ executed)
          by_cases expected : IsExpected receiving.x75 frame
          · obtain ⟨mode, callbacks, vr, -, events, happened, rejects, indicated⟩ :=
              frameTaken.of_isExpected expected
            have delivered := inSequence.deliver expected mode callbacks vr happened indicated
            simpa [deliveredBy, decoded, Option.filter_some, expected, happened, rejects]
              using delivered
          · obtain ⟨mode, callbacks, vr, events, happened, indicated, rejects⟩ :=
              frameTaken.of_not_isExpected expected
            have kept := inSequence.other mode callbacks vr happened indicated rejects
            simpa [deliveredBy, decoded, Option.filter_some, expected, happened] using kept
  | _ => cases isFrame

/-- **A connection delivers in sequence.** From V(R) = 0 any frames are received while the
link stays in state 3 without a reset. The payloads handed
to `data_indication` are those of the I-frames that had a valid N(R) and N(S) = V(R) when
they came; frame number k of these has N(S) = k modulo the modulus; V(R) is their number
modulo the modulus; and between any two REJ frames sent one of them came. -/
theorem delivered_in_sequence (vr : start.vr = 0)
    (reached : Reached Receiving.step StaysConnected ⟨start, []⟩ receiving) :
    (indicatedOf receiving.x75.events = indicatedOf start.events ++
        if start.callbacks.dataIndication then (deliveredOf receiving.marks).map Prod.snd
        else []) ∧
      (∀ k taken, (deliveredOf receiving.marks)[k]? = some taken →
        taken.1.ns = k % start.modulus) ∧
      receiving.x75.vr = (deliveredOf receiving.marks).length % start.modulus ∧
      Spaced receiving.marks := by
  have none : ∀ {before after : List Mark} {mark : Mark}, [] ≠ before ++ mark :: after := by
    intro before after mark
    simp
  have initial : Receiving.InSequence start ⟨start, []⟩ := by
    refine ⟨rfl, rfl, vr.trans (Nat.zero_mod _).symm, ?_, ?_, ?_, ?_⟩
    · cases start.callbacks.dataIndication <;> simp [deliveredOf]
    · intro k taken read
      cases read
    · intro before between after first second split
      exact absurd split none
    · intro _ before after reject split
      exact absurd split none
  have inSequence := reached.invariant (Receiving.InSequence start) initial
    fun _ inSequence stays taken => inSequence.step stays taken
  exact ⟨inSequence.indicated, inSequence.numbered, inSequence.vr, inSequence.spaced⟩

end Runs

/-- The second I-frame comes before the first, and again after it: the first is asked for
with a REJ, and then both are delivered. -/
theorem delivered_around_reject :
    ∃ receiving, runOps Receiving.step ⟨{ x75Register zeroed .all with state := .state3 }, []⟩
        [.dataReceived [0x01, 0x02, 0x42] .zero, .dataReceived [0x01, 0x00, 0x41] .zero,
          .dataReceived [0x01, 0x02, 0x42] .zero] = some receiving ∧
      receiving.marks.length = 3 ∧ receiving.x75.vr = 2 ∧
      indicatedOf receiving.x75.events = [[0x41], [0x42]] ∧ Spaced receiving.marks := by
  have meets : MeetsAlong Receiving.step StaysConnected
      ⟨{ x75Register zeroed .all with state := .state3 }, []⟩
      [.dataReceived [0x01, 0x02, 0x42] .zero, .dataReceived [0x01, 0x00, 0x41] .zero,
        .dataReceived [0x01, 0x02, 0x42] .zero] := by decide
  have reached := reached_of_meetsAlong _ .refl meets rfl
  have delivered := delivered_in_sequence rfl reached
  exact ⟨_, rfl, rfl, rfl, rfl, delivered.2.2.2⟩

end IsdnRas.X75
