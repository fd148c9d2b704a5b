import IsdnRas.X75.Outcomes
import Mathlib.Logic.Relation

/-!
# The acts of an operation

An operation that does not choose the mode is a sequence of acts: a frame is sent, frames
are acknowledged, a queue changes, the link is reset, the state moves or the owner is called
(`exec_acts`). What every act does to a property is proved act by act, and a relation that
is reflexive and transitive then holds over the whole operation.

Most procedures go on with the link as it is (`Continues`). The state, V(R) and the reject
condition stay, and the responses are RR, UA and DM frames, whose poll bits are kept in a
list.
-/

set_option autoImplicit false

namespace IsdnRas.X75

/-- The types that a station of this mode sends as commands. -/
def IsCommandType (mode : UInt32) (frametype : UInt16) : Prop :=
  frametype = (if extendedMode mode then x75Sabme else x75Sabm) ∨ frametype = x75Disc

/-- The types that a station sends as responses. -/
def IsResponseType (frametype : UInt16) : Prop :=
  frametype = x75Rr ∨ frametype = x75Rej ∨ frametype = x75Ua ∨ frametype = x75Dm

/-- The operation does not choose the mode. -/
def Op.keepsMode : Op → Bool
  | .setparms _ | .register _ => false
  | _ => true

/-! ## Going on with the link -/

/-- Timers, counters and the condition byte change, and the queues. -/
structure SameLink (x75 after : X75Cb) : Prop where
  mode : after.mode = x75.mode
  callbacks : after.callbacks = x75.callbacks
  state : after.state = x75.state
  vs : after.vs = x75.vs
  va : after.va = x75.va
  events : after.events = x75.events

structure SameReceiver (x75 after : X75Cb) : Prop extends SameLink x75 after where
  vr : after.vr = x75.vr
  rejecting : testFlag after.condition x75RejectCondition =
    testFlag x75.condition x75RejectCondition

/-- One act that goes on with the link and sends no response. -/
inductive Continuing (x75 : X75Cb) : X75Cb → Prop where
  | noted {after : X75Cb} (same : SameReceiver x75 after) : Continuing x75 after
  | acked (nr : Nat) : Continuing x75 (x75FramesAcked x75 nr)
  | kicked {after : X75Cb} (kicked : x75Kick x75 = some after) : Continuing x75 after
  | enqueued (skb : Bytes) : Continuing x75 (enqueueData x75 skb)
  | cleared : Continuing x75 (x75ClearQueues x75)
  | command {frametype : UInt16} (kind : IsCommandType x75.mode frametype) (pollBit : UInt8) :
      Continuing x75 (x75SendControl x75 frametype pollBit x75Command)
  | frmr : Continuing x75 (x75TransmitFrmr x75)

/-- Such acts in turn, with the poll bits of the responses between them. -/
inductive Continues (x75 : X75Cb) : List UInt8 → X75Cb → Prop where
  | refl : Continues x75 [] x75
  | act {pollBits : List UInt8} {base after : X75Cb} (before : Continues x75 pollBits base)
      (act : Continuing base after) : Continues x75 pollBits after
  | replied {pollBits : List UInt8} {base : X75Cb} (before : Continues x75 pollBits base)
      {frametype : UInt16}
      (reply : frametype = x75Rr ∨ frametype = x75Ua ∨ frametype = x75Dm) (pollBit : UInt8) :
      Continues x75 (pollBits ++ [pollBit]) (x75SendControl base frametype pollBit x75Response)

/-- The poll bits with which a poll is answered. -/
def pollsOf (pf : UInt8) : List UInt8 := if pf ≠ 0 then [x75Pollon] else []

/-- Only a command is answered. -/
def pollsAnswered (type pf : UInt8) : List UInt8 := if type = x75Command then pollsOf pf else []

theorem Continuing.same {x75 after : X75Cb} (act : Continuing x75 after) :
    after.mode = x75.mode ∧ after.callbacks = x75.callbacks ∧ after.state = x75.state := by
  cases act with
  | noted same => exact ⟨same.mode, same.callbacks, same.state⟩
  | acked nr =>
      obtain ⟨_, _, _, same⟩ := x75FramesAcked_kept x75 nr
      rw [same]
      exact ⟨rfl, rfl, rfl⟩
  | kicked kicked =>
      rcases x75Kick_cases kicked with ⟨-, rfl⟩ | ⟨-, _, -, rfl⟩
      · exact ⟨rfl, rfl, rfl⟩
      · exact ⟨rfl, rfl, rfl⟩
  | _ => exact ⟨rfl, rfl, rfl⟩

namespace Continues

variable {x75 base after : X75Cb} {pollBits : List UInt8}

theorem state (continues : Continues x75 pollBits after) : after.state = x75.state := by
  induction continues with
  | refl => rfl
  | act _ act ih => exact act.same.2.2.trans ih
  | replied _ _ _ ih => exact ih

/-- Fields change that are not about the link. -/
theorem noted (before : Continues x75 pollBits base) (same : SameLink base after)
    (vr : after.vr = base.vr)
    (rejecting : testFlag after.condition x75RejectCondition =
      testFlag base.condition x75RejectCondition) : Continues x75 pollBits after :=
  .act before (.noted ⟨same, vr, rejecting⟩)

theorem enquiryResponse (before : Continues x75 pollBits base) :
    Continues x75 (pollBits ++ [x75Pollon]) (x75EnquiryResponse base) :=
  (before.replied (.inl rfl) x75Pollon).noted ⟨rfl, rfl, rfl, rfl, rfl, rfl⟩ rfl
    (testFlag_clearFlag_of_apart (by decide))

theorem pollResponse (before : Continues x75 pollBits base) (pf : UInt8) :
    Continues x75 (pollBits ++ pollsOf pf) (if pf ≠ 0 then x75EnquiryResponse base else base) := by
  unfold pollsOf
  split
  · exact before.enquiryResponse
  · rwa [List.append_nil]

theorem checkNeedResponse (before : Continues x75 pollBits base) (type pf : UInt8) :
    Continues x75 (pollBits ++ pollsAnswered type pf) (x75CheckNeedResponse base type pf) := by
  unfold x75CheckNeedResponse pollsAnswered
  by_cases command : type = x75Command
  · simpa only [command, true_and, if_true] using before.pollResponse pf
  · simpa only [command, false_and, if_false, List.append_nil] using before

theorem checkIframesAcked (before : Continues x75 pollBits base) (nr : Nat) :
    Continues x75 pollBits (x75CheckIframesAcked base nr) := by
  have acked := before.act (.acked nr)
  unfold x75CheckIframesAcked
  split
  · exact acked.noted ⟨rfl, rfl, rfl, rfl, rfl, rfl⟩ rfl rfl
  split
  · exact acked.noted ⟨rfl, rfl, rfl, rfl, rfl, rfl⟩ rfl rfl
  · exact before

theorem iframeAcknowledge (before : Continues x75 pollBits base) (nr : Nat) :
    Continues x75 pollBits (iframeAcknowledge base nr) := by
  unfold X75.iframeAcknowledge
  split
  · exact before.act (.acked nr)
  · exact before.checkIframesAcked nr

theorem requeueFrames (before : Continues x75 pollBits base) :
    Continues x75 pollBits (x75RequeueFrames base) := by
  rw [x75RequeueFrames_eq]
  exact before.noted ⟨rfl, rfl, rfl, rfl, rfl, rfl⟩ rfl rfl

end Continues

/-- The procedure goes on with the link, but for state 4 at its end. -/
inductive Handles (x75 : X75Cb) (pollBits : List UInt8) : X75Cb → Prop where
  | continued {after : X75Cb} (continues : Continues x75 pollBits after) :
      Handles x75 pollBits after
  | rejected {base : X75Cb} (continues : Continues x75 pollBits base) :
      Handles x75 pollBits { base with state := .state4 }

section Handles

variable {x75 base : X75Cb} {pollBits : List UInt8}

theorem Continues.rejectFrame (before : Continues x75 pollBits base) (frame : X75Frame)
    (frmrType : UInt8) : Handles x75 pollBits (rejectFrame base frame frmrType) := by
  have noted : Continues x75 pollBits { base with frmrData := frame, frmrType := frmrType } :=
    before.noted ⟨rfl, rfl, rfl, rfl, rfl, rfl⟩ rfl rfl
  have sent := noted.act .frmr
  have timed : Continues x75 pollBits { x75StopT2timer (x75StartT1timer (x75TransmitFrmr
      { base with frmrData := frame, frmrType := frmrType })) with n2count := 0 } :=
    sent.noted ⟨rfl, rfl, rfl, rfl, rfl, rfl⟩ rfl rfl
  exact .rejected timed

/-- RR and RNR: the poll is answered, and then the frame is acknowledged or rejected. -/
theorem Continues.receiveReady (before : Continues x75 pollBits base) (frame : X75Frame) :
    Handles x75 (pollBits ++ pollsAnswered frame.cr frame.pf) (receiveReady base frame) := by
  have answered := before.checkNeedResponse frame.cr frame.pf
  unfold X75.receiveReady
  dsimp only
  split
  · exact .continued (answered.checkIframesAcked frame.nr)
  · exact answered.rejectFrame frame x75FrmrZ

theorem Continues.receiveReject (before : Continues x75 pollBits base) (frame : X75Frame) :
    Handles x75 (pollBits ++ pollsAnswered frame.cr frame.pf) (receiveReject base frame) := by
  have answered := before.checkNeedResponse frame.cr frame.pf
  unfold X75.receiveReject
  dsimp only
  split
  · have acked := answered.act (.acked frame.nr)
    refine .continued (requeueFrames ?_)
    exact acked.noted ⟨rfl, rfl, rfl, rfl, rfl, rfl⟩ rfl rfl
  · exact answered.rejectFrame frame x75FrmrZ

end Handles

section Supervisory

variable (x75 : X75Cb) (frame : X75Frame)

/-- The busy bit is not the reject bit. -/
theorem continues_condition {condition : UInt8}
    (apart : testFlag condition x75RejectCondition =
      testFlag x75.condition x75RejectCondition) :
    Continues x75 [] { x75 with condition := condition } :=
  Continues.refl.noted ⟨rfl, rfl, rfl, rfl, rfl, rfl⟩ rfl apart

theorem handles_rnr : Handles x75 (pollsAnswered frame.cr frame.pf)
    (receiveReady { x75 with condition := setFlag x75.condition x75PeerRxBusyCondition }
      frame) := by
  have busy := continues_condition x75 (@testFlag_setFlag_of_apart x75.condition
    x75PeerRxBusyCondition x75RejectCondition (by decide))
  exact busy.receiveReady frame

theorem handles_rr : Handles x75 (pollsAnswered frame.cr frame.pf)
    (receiveReady { x75 with condition := clearFlag x75.condition x75PeerRxBusyCondition }
      frame) := by
  have idle := continues_condition x75 (@testFlag_clearFlag_of_apart x75.condition
    x75PeerRxBusyCondition x75RejectCondition (by decide))
  exact idle.receiveReady frame

theorem handles_rej : Handles x75 (pollsAnswered frame.cr frame.pf)
    (receiveReject { x75 with condition := clearFlag x75.condition x75PeerRxBusyCondition }
      frame) := by
  have idle := continues_condition x75 (@testFlag_clearFlag_of_apart x75.condition
    x75PeerRxBusyCondition x75RejectCondition (by decide))
  exact idle.receiveReject frame

theorem continues_iframeAcknowledge (nr : Nat) : Continues x75 [] (iframeAcknowledge x75 nr) :=
  Continues.refl.iframeAcknowledge nr

end Supervisory

/-- What an I-frame in sequence changes before it is acknowledged. -/
def handedOver (x75 : X75Cb) (skb : Bytes) : X75Cb :=
  { x75DataIndication x75 skb with
    vr := (x75.vr + 1) % x75.modulus
    condition := clearFlag x75.condition x75RejectCondition }

/-- The acknowledgement is sent, or left to T2. -/
theorem receiveInSequence_continues (x75 : X75Cb) (skb : Bytes) (frame : X75Frame) :
    Continues (handedOver x75 skb) (pollsOf frame.pf) (receiveInSequence x75 skb frame) := by
  unfold receiveInSequence
  dsimp only
  by_cases poll : frame.pf ≠ 0
  · rw [if_pos poll, pollsOf, if_pos poll]
    exact Continues.refl.enquiryResponse
  · rw [if_neg poll, pollsOf, if_neg poll]
    split
    · exact .refl
    · exact Continues.refl.noted ⟨rfl, rfl, rfl, rfl, rfl, rfl⟩ rfl
        (testFlag_setFlag_of_apart (by decide))

/-- V(R) is asked for with a REJ. -/
def askedAgain (x75 : X75Cb) (pf : UInt8) : X75Cb :=
  let x75 := { x75 with condition := setFlag x75.condition x75RejectCondition }
  let x75 := x75SendControl x75 x75Rej pf x75Response
  { x75 with condition := clearFlag x75.condition x75AckPendingCondition }

/-- Any other I-frame is answered with a REJ, unless one has been sent. -/
theorem receiveOutOfSequence_cases (x75 : X75Cb) (frame : X75Frame) :
    Continues x75 (pollsOf frame.pf) (receiveOutOfSequence x75 frame) ∨
      testFlag x75.condition x75RejectCondition = false ∧
        receiveOutOfSequence x75 frame = askedAgain x75 frame.pf := by
  unfold receiveOutOfSequence
  split
  case isTrue => exact .inl (Continues.refl.pollResponse frame.pf)
  case isFalse clear => exact .inr ⟨Bool.eq_false_iff.mpr clear, rfl⟩

/-! ## Acts -/

inductive Act (x75 : X75Cb) : X75Cb → Prop where
  | continuing {after : X75Cb} (act : Continuing x75 after) : Act x75 after
  | noted {after : X75Cb} (same : SameLink x75 after) : Act x75 after
  | response {frametype : UInt16} (kind : IsResponseType frametype) (pollBit : UInt8) :
      Act x75 (x75SendControl x75 frametype pollBit x75Response)
  | delivered (skb : Bytes) : Act x75 (x75DataIndication x75 skb)
  | reset : Act x75 (resetLink x75)
  | moved {state : LinkState}
      (allowed : state = .state1 ∨ state = .state2 ∨ x75.state = .state3 ∧ state = .state4) :
      Act x75 { x75 with state := state }
  | connectConfirmation (reason : Reason) :
      Act x75 (x75ConnectConfirmation { x75 with state := .state3 } reason)
  | connectIndication (reason : Reason) :
      Act x75 (x75ConnectIndication { x75 with state := .state3 } reason)
  | disconnectConfirmation (reason : Reason) :
      Act x75 (x75DisconnectConfirmation { x75 with state := .state0 } reason)
  | disconnectIndication (reason : Reason) :
      Act x75 (x75DisconnectIndication { x75 with state := .state0 } reason)

abbrev Acts : X75Cb → X75Cb → Prop := Relation.ReflTransGen Act

namespace Acts

variable {x75 base after : X75Cb}

theorem act (acts : Acts x75 base) (act : Act base after) : Acts x75 after := acts.tail act

theorem noted (acts : Acts x75 base) (same : SameLink base after) : Acts x75 after :=
  acts.act (.noted same)

theorem continuing (acts : Acts x75 base) (act : Continuing base after) : Acts x75 after :=
  acts.tail (.continuing act)

theorem continues {pollBits : List UInt8} (acts : Acts x75 base)
    (continues : Continues base pollBits after) : Acts x75 after := by
  induction continues with
  | refl => exact acts
  | act _ act ih => exact ih.continuing act
  | replied _ reply pollBit ih =>
      refine ih.act (.response ?_ pollBit)
      rcases reply with rr | ua | dm
      · exact .inl rr
      · exact .inr (.inr (.inl ua))
      · exact .inr (.inr (.inr dm))

theorem handles {pollBits : List UInt8} (acts : Acts x75 base)
    (handles : Handles base pollBits after) (three : base.state = .state3) : Acts x75 after := by
  cases handles with
  | continued continues => exact acts.continues continues
  | rejected continues =>
      refine (acts.continues continues).act (.moved (.inr (.inr ⟨?_, rfl⟩)))
      exact continues.state.trans three

theorem ua (acts : Acts x75 base) (pollBit : UInt8) :
    Acts x75 (x75SendControl base x75Ua pollBit x75Response) :=
  acts.act (.response (.inr (.inr (.inl rfl))) pollBit)

theorem dm (acts : Acts x75 base) (pollBit : UInt8) :
    Acts x75 (x75SendControl base x75Dm pollBit x75Response) :=
  acts.act (.response (.inr (.inr (.inr rfl))) pollBit)

theorem askedAgain (acts : Acts x75 base) (pf : UInt8) : Acts x75 (askedAgain base pf) := by
  have noted : Acts x75
      { base with condition := setFlag base.condition x75RejectCondition } :=
    acts.noted ⟨rfl, rfl, rfl, rfl, rfl, rfl⟩
  have sent := noted.act (.response (.inr (.inl rfl)) pf)
  exact sent.noted ⟨rfl, rfl, rfl, rfl, rfl, rfl⟩

theorem cleared (acts : Acts x75 base) : Acts x75 (x75ClearQueues base) :=
  acts.continuing .cleared

theorem establishDataLink (acts : Acts x75 base) : Acts x75 (x75EstablishDataLink base) := by
  have noted : Acts x75 { base with condition := 0x00, n2count := 0 } :=
    acts.noted ⟨rfl, rfl, rfl, rfl, rfl, rfl⟩
  have sent := noted.continuing (.command (.inl rfl) x75Pollon)
  exact sent.noted ⟨rfl, rfl, rfl, rfl, rfl, rfl⟩

end Acts

/-! ### The state machines -/

section Machine

variable (x75 : X75Cb) (skb : Bytes) (frame : X75Frame)

theorem acts_acknowledged : Acts x75 (x75ConnectIndication
    { resetLink (x75SendControl x75 x75Ua frame.pf x75Response) with state := .state3 } .ok) :=
  ((Acts.ua .refl frame.pf).act .reset).act (.connectIndication .ok)

theorem acts_state0 : Acts x75 (x75State0Machine x75 frame) := by
  unfold x75State0Machine
  split
  · split
    · exact Acts.dm .refl frame.pf
    · exact acts_acknowledged x75 frame
  split
  · split
    · exact acts_acknowledged x75 frame
    · exact Acts.dm .refl frame.pf
  split
  · exact Acts.ua .refl frame.pf
  · exact .refl

theorem acts_state1 : Acts x75 (x75State1Machine x75 frame) := by
  unfold x75State1Machine
  split
  · split
    · exact Acts.dm .refl frame.pf
    · exact Acts.ua .refl frame.pf
  split
  · split
    · exact Acts.ua .refl frame.pf
    · exact Acts.dm .refl frame.pf
  split
  · exact Acts.dm .refl frame.pf
  split
  · split
    · exact (Acts.act .refl .reset).act (.connectConfirmation .ok)
    · exact .refl
  split
  · split
    · have timed : Acts x75 (x75StopT2timer (x75StartT1timer (x75ClearQueues x75))) :=
        (Acts.cleared .refl).noted ⟨rfl, rfl, rfl, rfl, rfl, rfl⟩
      exact timed.act (.disconnectIndication .refused)
    · exact .refl
  · exact .refl

theorem acts_state2 : Acts x75 (x75State2Machine x75 frame) := by
  have timed : Acts x75 (x75StopT2timer (x75StartT1timer x75)) :=
    Acts.noted .refl ⟨rfl, rfl, rfl, rfl, rfl, rfl⟩
  unfold x75State2Machine
  split
  · exact Acts.dm .refl frame.pf
  split
  · exact Acts.ua .refl frame.pf
  split
  · split
    · exact timed.act (.disconnectConfirmation .ok)
    · exact .refl
  split
  · split
    · exact timed.act (.disconnectConfirmation .notConnected)
    · exact .refl
  split
  · split
    · exact Acts.dm .refl frame.pf
    · exact .refl
  · exact .refl

theorem acts_receiveIframe (three : x75.state = .state3) :
    Acts x75 (receiveIframe x75 skb frame) := by
  unfold receiveIframe
  dsimp only
  split
  · have acts := Acts.continues .refl (continues_iframeAcknowledge x75 frame.nr)
    split
    · have delivered : Acts x75 (handedOver (iframeAcknowledge x75 frame.nr) skb) :=
        (acts.act (.delivered skb)).noted ⟨rfl, rfl, rfl, rfl, rfl, rfl⟩
      exact delivered.continues (receiveInSequence_continues _ skb frame)
    · rcases receiveOutOfSequence_cases (iframeAcknowledge x75 frame.nr) frame with
        continues | ⟨-, same⟩
      · exact acts.continues continues
      · rw [same]
        exact acts.askedAgain frame.pf
  · exact Acts.handles .refl (Continues.refl.rejectFrame frame x75FrmrZ) three

theorem acts_state3 (three : x75.state = .state3) : Acts x75 (x75State3Machine x75 skb frame) := by
  have branch := state3_branch x75 skb frame
  generalize x75State3Machine x75 skb frame = after at branch ⊢
  cases branch with
  | refused => exact Acts.dm .refl frame.pf
  | reset =>
      have reset : Acts x75 (resetLink (x75SendControl x75 x75Ua frame.pf x75Response)) :=
        (Acts.ua .refl frame.pf).act .reset
      exact reset.continues (Continues.refl.requeueFrames)
  | disc =>
      have timed : Acts x75 (x75StopT2timer (x75StartT1timer
          (x75SendControl (x75ClearQueues x75) x75Ua frame.pf x75Response))) :=
        ((Acts.cleared .refl).ua frame.pf).noted ⟨rfl, rfl, rfl, rfl, rfl, rfl⟩
      exact timed.act (.disconnectIndication .ok)
  | dm =>
      have timed : Acts x75 (x75StopT2timer (x75StartT1timer (x75ClearQueues x75))) :=
        (Acts.cleared .refl).noted ⟨rfl, rfl, rfl, rfl, rfl, rfl⟩
      exact timed.act (.disconnectIndication .notConnected)
  | rnr => exact Acts.handles .refl (handles_rnr x75 frame) three
  | rr => exact Acts.handles .refl (handles_rr x75 frame) three
  | rej => exact Acts.handles .refl (handles_rej x75 frame) three
  | iframe => exact acts_receiveIframe x75 skb frame three
  | frmr =>
      have established : Acts x75 (x75EstablishDataLink x75) := Acts.establishDataLink .refl
      have queued := established.continues (Continues.refl.requeueFrames)
      exact queued.act (.moved (.inl rfl))
  | illegal => exact Acts.handles .refl (Continues.refl.rejectFrame frame x75FrmrW) three
  | ignored => exact .refl

theorem acts_state4 : Acts x75 (x75State4Machine x75 frame) := by
  unfold x75State4Machine
  split
  · split
    · exact Acts.dm .refl frame.pf
    · exact acts_acknowledged x75 frame
  split
  · split
    · exact acts_acknowledged x75 frame
    · exact Acts.dm .refl frame.pf
  · exact .refl

theorem acts_machine : Acts x75 (x75Machine x75 skb frame) := by
  unfold x75Machine
  split
  case h_1 => exact acts_state0 x75 frame
  case h_2 => exact acts_state1 x75 frame
  case h_3 => exact acts_state2 x75 frame
  case h_4 three => exact acts_state3 x75 skb frame three
  case h_5 => exact acts_state4 x75 frame

end Machine

/-! ### Timer handlers and requests -/

section Exec

variable {x75 after : X75Cb}

theorem acts_t1timerExpiry (expired : x75T1timerExpiry x75 = some after) : Acts x75 after := by
  have counted : Acts x75 { x75 with n2count := x75.n2count + 1 } :=
    Acts.noted .refl ⟨rfl, rfl, rfl, rfl, rfl, rfl⟩
  have cleared : Acts x75 (x75ClearQueues x75) := Acts.cleared .refl
  have indicated : Acts x75 { x75DisconnectIndication (giveUp x75) .timedOut with
      t1timerRunning := false } :=
    Acts.noted (cleared.act (.disconnectIndication .timedOut)) ⟨rfl, rfl, rfl, rfl, rfl, rfl⟩
  unfold x75T1timerExpiry at expired
  split at expired
  · exact Option.some.inj expired ▸ .refl
  split at expired
  · exact Option.some.inj expired ▸ .refl
  split at expired
  case h_1 =>
      split at expired <;> cases expired
      · exact (counted.dm x75Polloff).noted ⟨rfl, rfl, rfl, rfl, rfl, rfl⟩
      · have calling : Acts x75 { x75 with state := .state1 } :=
          Acts.act .refl (.moved (.inl rfl))
        exact calling.establishDataLink.noted ⟨rfl, rfl, rfl, rfl, rfl, rfl⟩
  case h_2 =>
      split at expired <;> cases expired
      · exact indicated
      · have sent := counted.continuing (.command (.inl rfl) x75Pollon)
        exact sent.noted ⟨rfl, rfl, rfl, rfl, rfl, rfl⟩
  case h_3 =>
      split at expired <;> cases expired
      · exact Acts.noted (cleared.act (.disconnectConfirmation .timedOut))
          ⟨rfl, rfl, rfl, rfl, rfl, rfl⟩
      · have sent := counted.continuing (.command (.inr rfl) x75Pollon)
        exact sent.noted ⟨rfl, rfl, rfl, rfl, rfl, rfl⟩
  case h_4 =>
      split at expired
      · cases expired
        have stopped : Acts x75 (x75StopT2timer (x75ClearQueues x75)) :=
          cleared.noted ⟨rfl, rfl, rfl, rfl, rfl, rfl⟩
        exact Acts.noted (stopped.act (.disconnectIndication .timedOut))
          ⟨rfl, rfl, rfl, rfl, rfl, rfl⟩
      · obtain ⟨sent, kicked, rfl⟩ := Option.map_eq_some_iff.mp expired
        have queued := counted.continues (Continues.refl.requeueFrames)
        exact (queued.continuing (.kicked kicked)).noted ⟨rfl, rfl, rfl, rfl, rfl, rfl⟩
  case h_5 =>
      split at expired <;> cases expired
      · exact indicated
      · exact (counted.continuing .frmr).noted ⟨rfl, rfl, rfl, rfl, rfl, rfl⟩

theorem acts_t2timerExpiry (x75 : X75Cb) : Acts x75 (x75T2timerExpiry x75) := by
  unfold x75T2timerExpiry
  split
  · exact .refl
  split
  · exact .refl
  split
  · have cleared : Acts x75
        { x75 with condition := clearFlag x75.condition x75AckPendingCondition } :=
      Acts.noted .refl ⟨rfl, rfl, rfl, rfl, rfl, rfl⟩
    exact (cleared.act (.response (.inl rfl) x75Polloff)).noted ⟨rfl, rfl, rfl, rfl, rfl, rfl⟩
  · exact Acts.noted .refl ⟨rfl, rfl, rfl, rfl, rfl, rfl⟩

theorem acts_callHandler {handler : Option TimerHandler}
    (handled : callHandler x75 handler = some after) : Acts x75 after := by
  rcases handler with - | (- | -)
  · exact Option.some.inj handled ▸ .refl
  · exact acts_t1timerExpiry handled
  · exact Option.some.inj handled ▸ acts_t2timerExpiry x75

/-- A request to disconnect, but in state 1, where state 0 is entered without a call-back. -/
theorem acts_disconnectRequest (settled : x75.state ≠ .state1) :
    Acts x75 (x75DisconnectRequest x75).2 := by
  unfold x75DisconnectRequest
  split
  case h_1 => exact .refl
  case h_2 one => exact absurd one settled
  case h_3 => exact .refl
  all_goals
    have cleared : Acts x75 { x75ClearQueues x75 with n2count := 0 } :=
      (Acts.cleared .refl).noted ⟨rfl, rfl, rfl, rfl, rfl, rfl⟩
    have sent := cleared.continuing (.command (.inr rfl) x75Pollon)
    have timed : Acts x75 (x75StopT2timer (x75StartT1timer (x75SendControl
        { x75ClearQueues x75 with n2count := 0 } x75Disc x75Pollon x75Command))) :=
      sent.noted ⟨rfl, rfl, rfl, rfl, rfl, rfl⟩
    exact timed.act (.moved (.inr (.inl rfl)))

/-- **An operation is a sequence of acts**, unless it chooses the mode or asks to
disconnect while the link is being set up. -/
theorem exec_acts {op : Op} (keeps : op.keepsMode = true)
    (settled : op = .disconnectRequest → x75.state ≠ .state1)
    (taken : exec x75 op = some after) : Acts x75 after := by
  cases op with
  | dataRequest skb =>
      obtain ⟨⟨_, _⟩, requested, rfl⟩ := Option.map_eq_some_iff.mp taken
      unfold x75DataRequest at requested
      split at requested
      · cases requested
        exact .refl
      · obtain ⟨sent, kicked, same⟩ := Option.map_eq_some_iff.mp requested
        cases same
        have queued : Acts x75 (enqueueData x75 skb) :=
          Acts.continuing .refl (.enqueued skb)
        exact queued.continuing (.kicked kicked)
  | connectRequest =>
      cases taken
      unfold x75ConnectRequest
      split
      · exact .refl
      split
      · exact .refl
      · exact (Acts.establishDataLink .refl).act (.moved (.inl rfl))
  | disconnectRequest => exact Option.some.inj taken ▸ acts_disconnectRequest (settled rfl)
  | dataReceived skb stack =>
      simp only [X75.exec, x75DataReceived, x75DataInput] at taken
      split at taken
      · exact Option.some.inj taken ▸ .refl
      · exact (acts_machine x75 _ _).continuing (.kicked taken)
  | t1Expiry =>
      simp only [X75.exec, t1timerExpires] at taken
      split at taken
      · refine Relation.ReflTransGen.trans ?_ (acts_callHandler taken)
        exact Acts.noted .refl ⟨rfl, rfl, rfl, rfl, rfl, rfl⟩
      · exact Option.some.inj taken ▸ .refl
  | t2Expiry =>
      simp only [X75.exec, t2timerExpires] at taken
      split at taken
      · refine Relation.ReflTransGen.trans ?_ (acts_callHandler taken)
        exact Acts.noted .refl ⟨rfl, rfl, rfl, rfl, rfl, rfl⟩
      · exact Option.some.inj taken ▸ .refl
  | setparms => cases keeps
  | unregister =>
      cases taken
      exact (Acts.cleared .refl).noted ⟨rfl, rfl, rfl, rfl, rfl, rfl⟩
  | register => cases keeps

end Exec

end IsdnRas.X75
