import IsdnRas.Library.Runs
import IsdnRas.X75.Acts
import IsdnRas.X75.Decoding
import IsdnRas.X75.RoundTrip

/-!
# Answers to a poll

A command with the poll bit is to be answered by one response with the final bit, and a
command without it by none. In state 3 every command is, with an RR, a REJ, a UA or a DM,
except one: an I-frame whose N(R) is not valid is rejected before the poll bit is looked
at, and a FRMR has no final bit. RR, RNR and REJ answer the poll first
(`poll_answered_iff`).
-/

set_option autoImplicit false

namespace IsdnRas.X75

/-! ## Final bits -/

/-- The poll or final bit of a frame with an address. -/
def finalBit (extended : Bool) : Bytes → Bool
  | _ :: c0 :: rest =>
      (if twoBytes extended c0 then rest.headD 0 &&& x75Epf else c0 &&& x75Spf) != 0
  | _ => false

/-- A response of the control block with the final bit. -/
def isFinal (x75 : X75Cb) (skb : Bytes) : Bool :=
  skb.head? == some (x75Address x75 x75Response) && finalBit x75.extended skb

/-- How many responses with the final bit were transmitted. -/
def finalsOf (x75 : X75Cb) (events : List Event) : Nat := (sentOf events).countP (isFinal x75)

@[simp] theorem finalsOf_append (x75 : X75Cb) (first second : List Event) :
    finalsOf x75 (first ++ second) = finalsOf x75 first + finalsOf x75 second := by
  rw [finalsOf, sentOf_append, List.countP_append, finalsOf, finalsOf]

/-- Final bits depend on the mode alone. -/
theorem finalsOf_congr {x75 other : X75Cb} (mode : other.mode = x75.mode) :
    finalsOf other = finalsOf x75 := by
  have final : isFinal other = isFinal x75 := by
    funext skb
    simp [isFinal, x75Address, mode]
  funext events
  rw [finalsOf, final, finalsOf]

/-- Commands and responses have different addresses. -/
theorem x75Address_apart (x75 : X75Cb) :
    x75Address x75 x75Command ≠ x75Address x75 x75Response := by
  unfold x75Address
  cases x75.mlp <;> cases x75.dce <;> decide

/-- The poll bit put into the extended control field is read back. -/
theorem extendedPoll_ne_zero (pollBit : UInt8) : (extendedPoll pollBit != 0) = (pollBit != 0) := by
  simp [bne, extendedPoll_eq_zero_iff, BEq.beq]

theorem standardPoll_ne_zero (pollBit : UInt8) : (standardPoll pollBit != 0) = (pollBit != 0) := by
  simp [bne, standardPoll_eq_zero_iff, BEq.beq]

theorem finalBit_supervisory (x75 : X75Cb) {frametype : UInt16}
    (supervisory : IsSupervisory frametype) (pollBit addr : UInt8) :
    finalBit x75.extended (addr :: controlField x75 frametype pollBit) = (pollBit != 0) := by
  rw [controlField_supervisory x75 supervisory]
  cases x75.extended with
  | true =>
      have format : twoBytes true frametype.toUInt8 = true := by
        rcases supervisory with rfl | rfl | rfl <;> rfl
      have poll : (UInt8.ofNat (x75.vr <<< 1) ||| extendedPoll pollBit) &&& x75Epf =
          extendedPoll pollBit := by
        have low : UInt8.ofNat (x75.vr <<< 1) &&& x75Epf = 0 := shift_one_and x75.vr
        rw [UInt8.or_comm, or_and_of_and_eq_zero low, (extendedPoll_bits pollBit).2]
      simp only [if_true, finalBit, format, List.headD_cons]
      rw [poll, extendedPoll_ne_zero]
  | false =>
      have poll := (supervisory_bits supervisory pollBit).2.2.2.2
      simp only [Bool.false_eq_true, if_false, finalBit, twoBytes, Bool.false_and]
      rw [standard_and _ x75.vr x75Spf rfl, poll, standardPoll_ne_zero]

theorem finalBit_unnumbered (x75 : X75Cb) {frametype : UInt16}
    (unnumbered : IsUnnumberedType frametype) (pollBit addr : UInt8) :
    finalBit x75.extended (addr :: controlField x75 frametype pollBit) = (pollBit != 0) := by
  obtain ⟨-, format, -, poll⟩ := unnumbered_bits unnumbered pollBit
  have short : twoBytes x75.extended (frametype.toUInt8 ||| standardPoll pollBit) = false := by
    simp [twoBytes, format]
  simp only [controlField_unnumbered x75 unnumbered, finalBit, short, Bool.false_eq_true, if_false]
  rw [poll, standardPoll_ne_zero]

theorem finalBit_frmr (x75 : X75Cb) (addr : UInt8) :
    finalBit x75.extended (addr :: frmrField x75) = false := by
  cases ext : x75.extended with
  | true => simp only [frmrField, ext, if_true]; rfl
  | false => simp only [frmrField, ext, Bool.false_eq_true, if_false]; rfl

/-! ## What a procedure sends -/

/-- The procedure sends so many responses with the final bit. -/
structure SendsFinals (x75 after : X75Cb) (finals : Nat) : Prop where
  mode : after.mode = x75.mode
  callbacks : after.callbacks = x75.callbacks
  count : finalsOf x75 after.events = finalsOf x75 x75.events + finals

/-- How many responses with the final bit answer a poll bit: one when it is set and
`data_transmit` is installed. -/
def answers (x75 : X75Cb) (pf : UInt8) : Nat :=
  if x75.callbacks.dataTransmit = true ∧ pf ≠ 0 then 1 else 0

/-- A frame that is not a response with the final bit. -/
theorem finalsOf_transmitted_of_not {x75 : X75Cb} {skb : Bytes} {type : UInt8}
    (notFinal : isFinal x75 (x75Address x75 type :: skb) = false) :
    finalsOf x75 (transmitted x75 skb type) = 0 := by
  unfold transmitted called
  split
  · simp [finalsOf, sentOf, notFinal]
  · rfl

/-- A response whose final bit is the poll bit. -/
theorem finalsOf_transmitted {x75 : X75Cb} {skb : Bytes} {pf : UInt8}
    (final : ∀ addr, finalBit x75.extended (addr :: skb) = (pf != 0)) :
    finalsOf x75 (transmitted x75 skb x75Response) = answers x75 pf := by
  have read : isFinal x75 (x75Address x75 x75Response :: skb) = (pf != 0) := by
    simp only [isFinal, List.head?_cons, BEq.rfl, Bool.true_and]
    exact final _
  unfold transmitted called answers
  cases x75.callbacks.dataTransmit with
  | true => by_cases poll : pf = 0 <;> simp [finalsOf, sentOf, read, poll]
  | false => simp [finalsOf, sentOf]

namespace SendsFinals

variable {x75 middle after : X75Cb} {first second : Nat}

theorem refl (x75 : X75Cb) : SendsFinals x75 x75 0 := ⟨rfl, rfl, rfl⟩

theorem trans (before : SendsFinals x75 middle first) (later : SendsFinals middle after second) :
    SendsFinals x75 after (first + second) where
  mode := later.mode.trans before.mode
  callbacks := later.callbacks.trans before.callbacks
  count := by
    have count := later.count
    rw [finalsOf_congr before.mode] at count
    rw [count, before.count, Nat.add_assoc]

/-- Changing fields other than the mode and the call-backs. -/
theorem of_fields (sends : SendsFinals x75 middle first) (mode : after.mode = middle.mode)
    (callbacks : after.callbacks = middle.callbacks) (events : after.events = middle.events) :
    SendsFinals x75 after first :=
  ⟨mode.trans sends.mode, callbacks.trans sends.callbacks, events ▸ sends.count⟩

theorem record (x75 : X75Cb) (events : List Event) :
    SendsFinals x75 (x75.record events) (finalsOf x75 events) :=
  ⟨rfl, rfl, finalsOf_append ..⟩

theorem disconnectIndication (x75 : X75Cb) (reason : Reason) :
    SendsFinals x75 (x75DisconnectIndication x75 reason) 0 := by
  have none : finalsOf x75
      (called x75.callbacks.disconnectIndication (.disconnectIndication reason)) = 0 := by
    cases x75.callbacks.disconnectIndication <;> rfl
  exact none ▸ record x75 _

theorem supervisory (x75 : X75Cb) {frametype : UInt16} (supervisory : IsSupervisory frametype)
    (pf : UInt8) :
    SendsFinals x75 (x75SendControl x75 frametype pf x75Response) (answers x75 pf) := by
  have finals := finalsOf_transmitted (finalBit_supervisory x75 supervisory pf)
  exact finals ▸ record x75 _

theorem unnumbered (x75 : X75Cb) {frametype : UInt16} (unnumbered : IsUnnumberedType frametype)
    (pf : UInt8) :
    SendsFinals x75 (x75SendControl x75 frametype pf x75Response) (answers x75 pf) := by
  have finals := finalsOf_transmitted (finalBit_unnumbered x75 unnumbered pf)
  exact finals ▸ record x75 _

theorem frmr (x75 : X75Cb) : SendsFinals x75 (x75TransmitFrmr x75) 0 := by
  have finals : finalsOf x75 (transmitted x75 (frmrField x75) x75Response) = 0 := by
    refine finalsOf_transmitted_of_not ?_
    rw [isFinal, finalBit_frmr, Bool.and_false]
  exact finals ▸ record x75 _

/-- The answers depend on the call-backs alone. -/
theorem answers_eq (before : SendsFinals x75 middle first) : answers middle = answers x75 := by
  funext pf
  rw [answers, before.callbacks, answers]

theorem continuing (act : Continuing x75 after) : SendsFinals x75 after 0 := by
  cases act with
  | noted same => exact (refl x75).of_fields same.mode same.callbacks same.events
  | acked nr =>
      obtain ⟨_, _, freed, same⟩ := x75FramesAcked_kept x75 nr
      have none : finalsOf x75 (freed.map .acked) = 0 := by
        have silent : sentOf (freed.map .acked) = [] := by simp [sentOf]
        rw [finalsOf, silent]
        rfl
      rw [same]
      exact (none ▸ record x75 (freed.map .acked)).of_fields rfl rfl rfl
  | kicked kicked =>
      rcases x75Kick_cases kicked with ⟨-, rfl⟩ | ⟨-, k, -, rfl⟩
      · exact refl after
      · -- I-frames are commands
        have none : finalsOf x75 (iframesFrom { x75 with vs := kickStart x75 } (kickStart x75)
            (x75.writeQueue.msgs.take k)) = 0 := by
          refine List.countP_eq_zero.mpr fun frame member => ?_
          obtain ⟨event, sent, read⟩ := List.mem_filterMap.mp member
          obtain ⟨_, _, -, rfl⟩ := mem_iframesFrom sent
          obtain rfl := Option.some.inj read
          have apart : x75Address { x75 with vs := kickStart x75 } x75Command ≠
              x75Address x75 x75Response := x75Address_apart x75
          simp [isFinal, apart]
        exact (none ▸ record x75 _).of_fields rfl rfl rfl
  | enqueued skb => exact (record x75 [.accepted skb]).of_fields rfl rfl rfl
  | cleared => exact (record x75 [.queuesCleared]).of_fields rfl rfl rfl
  | @command frametype kind pollBit =>
      have finals : finalsOf x75 (transmitted x75 (controlField x75 frametype pollBit)
          x75Command) = 0 := by
        refine finalsOf_transmitted_of_not ?_
        simp [isFinal, x75Address_apart x75]
      exact finals ▸ record x75 _
  | frmr => exact frmr x75

/-- Every response has the poll bit that it answers as its final bit. -/
theorem continues {pollBits : List UInt8} (continues : Continues x75 pollBits after) :
    SendsFinals x75 after (pollBits.map (answers x75)).sum := by
  induction continues with
  | refl => exact refl x75
  | act _ last ih => exact ih.trans (continuing last)
  | @replied pollBits base _ frametype reply pollBit ih =>
      have sent : SendsFinals base (x75SendControl base frametype pollBit x75Response)
          (answers base pollBit) := by
        rcases reply with rfl | rfl | rfl
        · exact supervisory base (.inl rfl) pollBit
        · exact unnumbered base (by simp [IsUnnumberedType]) pollBit
        · exact unnumbered base (by simp [IsUnnumberedType]) pollBit
      have grown := ih.trans sent
      rw [ih.answers_eq] at grown
      simpa using grown

theorem handles {pollBits : List UInt8} (handles : Handles x75 pollBits after) :
    SendsFinals x75 after (pollBits.map (answers x75)).sum := by
  cases handles with
  | continued continued => exact continues continued
  | rejected continued => exact (continues continued).of_fields rfl rfl rfl

/-- A poll is answered once. -/
theorem sum_pollsOf (x75 : X75Cb) (pf : UInt8) :
    ((pollsOf pf).map (answers x75)).sum = answers x75 pf := by
  unfold pollsOf
  split
  case isTrue poll => simp [answers, poll, show x75Pollon ≠ 0 by decide]
  case isFalse noPoll => simp [answers, noPoll]

theorem receiveInSequence (x75 : X75Cb) (skb : Bytes) (frame : X75Frame) :
    SendsFinals x75 (receiveInSequence x75 skb frame) (answers x75 frame.pf) := by
  have none : finalsOf x75 (called x75.callbacks.dataIndication (.dataIndication skb)) = 0 := by
    cases x75.callbacks.dataIndication <;> rfl
  have delivered : SendsFinals x75 (x75DataIndication x75 skb) 0 := none ▸ record x75 _
  have handed : SendsFinals x75 (handedOver x75 skb) 0 := delivered.of_fields rfl rfl rfl
  have sent := handed.trans (.continues (receiveInSequence_continues x75 skb frame))
  rwa [handed.answers_eq, sum_pollsOf, Nat.zero_add] at sent

theorem receiveOutOfSequence (x75 : X75Cb) (frame : X75Frame) :
    SendsFinals x75 (receiveOutOfSequence x75 frame) (answers x75 frame.pf) := by
  rcases receiveOutOfSequence_cases x75 frame with continued | ⟨-, same⟩
  · exact sum_pollsOf x75 frame.pf ▸ continues continued
  · rw [same]
    have rejected := supervisory
      { x75 with condition := setFlag x75.condition x75RejectCondition } (.inr (.inr rfl)) frame.pf
    exact ⟨rejected.mode, rejected.callbacks, rejected.count⟩

end SendsFinals

/-! ## Commands in state 3 -/

/-- The N(R) of the I-frame is not valid. -/
def InvalidIframe (x75 : X75Cb) (frame : X75Frame) : Prop :=
  frame.type = x75I ∧ x75ValidateNr x75 frame.nr = false

instance (x75 : X75Cb) (frame : X75Frame) : Decidable (InvalidIframe x75 frame) :=
  inferInstanceAs (Decidable (_ ∧ _))

/-- The commands that may carry a poll bit. -/
def commandTypes : List UInt16 :=
  [x75I, x75Rr, x75Rnr, x75Rej, x75Sabm, x75Sabme, x75Disc]

section Commands

variable {x75 after : X75Cb} {frame : X75Frame}

theorem sendsFinals_iframe (skb : Bytes) (type : frame.type = x75I) :
    SendsFinals x75 (receiveIframe x75 skb frame)
      (if InvalidIframe x75 frame then 0 else answers x75 frame.pf) := by
  unfold receiveIframe
  by_cases valid : x75ValidateNr x75 frame.nr = true
  · have acked := SendsFinals.continues (continues_iframeAcknowledge x75 frame.nr)
    have accepted : ¬ InvalidIframe x75 frame := fun invalid =>
      Bool.false_ne_true (invalid.2.symm.trans valid)
    rw [if_pos valid, if_neg accepted, ← acked.answers_eq, ← Nat.zero_add (answers _ _)]
    dsimp only
    split
    · exact acked.trans (.receiveInSequence ..)
    · exact acked.trans (.receiveOutOfSequence ..)
  · rw [if_neg valid, if_pos ⟨type, Bool.eq_false_iff.mpr valid⟩]
    exact .handles (Continues.refl.rejectFrame frame x75FrmrZ)

/-- Every command in state 3 is answered but for an I-frame with an invalid N(R). -/
theorem sendsFinals_state3 (skb : Bytes) (command : frame.cr = x75Command)
    (listed : frame.type ∈ commandTypes) :
    SendsFinals x75 (x75State3Machine x75 skb frame)
      (if InvalidIframe x75 frame then 0 else answers x75 frame.pf) := by
  have branch := state3_branch x75 skb frame
  generalize x75State3Machine x75 skb frame = after at branch ⊢
  have other : frame.type ≠ x75I →
      (if InvalidIframe x75 frame then 0 else answers x75 frame.pf) = answers x75 frame.pf :=
    fun apart => if_neg fun invalid => apart invalid.1
  have polled : ((pollsAnswered frame.cr frame.pf).map (answers x75)).sum =
      answers x75 frame.pf := by
    rw [pollsAnswered, if_pos command, SendsFinals.sum_pollsOf]
  have ua : SendsFinals x75 (x75SendControl x75 x75Ua frame.pf x75Response)
      (answers x75 frame.pf) := .unnumbered x75 (by simp [IsUnnumberedType]) frame.pf
  cases branch with
  | refused type =>
      rw [other (by rw [type]; split <;> decide)]
      exact .unnumbered x75 (by simp [IsUnnumberedType]) frame.pf
  | reset type =>
      rw [other (by rw [type]; split <;> decide)]
      exact (ua.trans (.record _ [.sequenceReset])).of_fields rfl rfl rfl
  | disc disc =>
      rw [other (by rw [disc]; decide)]
      have answered := SendsFinals.continues
        ((Continues.refl.act (.cleared : Continuing x75 _)).replied (.inr (.inl rfl)) frame.pf)
      rw [List.nil_append, List.map_singleton, List.sum_singleton] at answered
      have hungUp : SendsFinals x75 { x75StopT2timer (x75StartT1timer (x75SendControl
          (x75ClearQueues x75) x75Ua frame.pf x75Response)) with state := .state0 }
          (answers x75 frame.pf) := answered.of_fields rfl rfl rfl
      exact hungUp.trans (.disconnectIndication _ .ok)
  | dm dm => exact absurd (dm ▸ listed) (by decide)
  | rnr rnr =>
      rw [other (by rw [rnr]; decide)]
      exact polled ▸ .handles (handles_rnr x75 frame)
  | rr rr =>
      rw [other (by rw [rr]; decide)]
      exact polled ▸ .handles (handles_rr x75 frame)
  | rej rej =>
      rw [other (by rw [rej]; decide)]
      exact polled ▸ .handles (handles_rej x75 frame)
  | iframe iframe => exact sendsFinals_iframe skb iframe
  | frmr frmr => exact absurd (frmr ▸ listed) (by decide)
  | illegal illegal => exact absurd (illegal ▸ listed) (by decide)
  | ignored unlisted =>
      refine absurd ?_ unlisted
      simp only [commandTypes, List.mem_cons, List.not_mem_nil, or_false] at listed ⊢
      grind

/-- **A poll is answered** exactly once in state 3, and what does not poll is not
answered, exactly when the frame does not poll, or `data_transmit` is installed and the
frame is not an I-frame with an invalid N(R). -/
theorem poll_answered_iff {skb rest : Bytes} {stack : X75Frame} (three : x75.state = .state3)
    (decoded : x75Decode x75 skb stack = some (frame, rest)) (command : frame.cr = x75Command)
    (listed : frame.type ∈ commandTypes)
    (taken : exec x75 (.dataReceived skb stack) = some after) :
    finalsOf x75 after.events = finalsOf x75 x75.events + (if frame.pf ≠ 0 then 1 else 0) ↔
      frame.pf = 0 ∨ x75.callbacks.dataTransmit = true ∧ ¬ InvalidIframe x75 frame := by
  have machined := @sendsFinals_state3 x75 frame rest command listed
  simp only [exec, x75DataReceived, x75DataInput, decoded, x75Machine, three] at taken
  have sent := (machined.trans (.continuing (.kicked taken))).count
  rw [sent, Nat.add_zero, Nat.add_left_cancel_iff]
  by_cases invalid : InvalidIframe x75 frame
  · rw [if_pos invalid]
    by_cases poll : frame.pf = 0 <;> simp [poll, invalid]
  · rw [if_neg invalid]
    by_cases poll : frame.pf = 0 <;> simp [answers, poll, invalid]

end Commands

/-- An RR with the poll bit in state 3. -/
theorem poll_answered_rr :
    ∃ x75 after, runOps exec (x75Register zeroed .all) [.dataReceived [0x01, 0x3F] .zero] =
        some x75 ∧ exec x75 (.dataReceived [0x01, 0x11] .zero) = some after ∧
      finalsOf x75 after.events = finalsOf x75 x75.events + 1 := by
  refine ⟨_, _, rfl, rfl, Iff.mpr (@poll_answered_iff _ _ (readFrame false x75Command 0x11 [] .zero)
    [0x01, 0x11] [] .zero rfl rfl rfl (by decide) rfl) ?_⟩
  exact .inr ⟨rfl, by decide⟩

/-- **A polling I-frame with an invalid N(R) is not answered.** It is rejected with a
FRMR, and no response with the final bit is sent. -/
theorem invalid_iframe_unanswered :
    ∃ x75 after frame, runOps exec (x75Register zeroed .all)
        [.dataReceived [0x01, 0x3F] .zero] = some x75 ∧ x75.state = .state3 ∧
      x75Decode x75 [0x01, 0xB0, 0x41] .zero = some (frame, [0x41]) ∧ frame.type = x75I ∧
      frame.cr = x75Command ∧ frame.pf ≠ 0 ∧
      exec x75 (.dataReceived [0x01, 0xB0, 0x41] .zero) = some after ∧
      finalsOf x75 after.events = finalsOf x75 x75.events ∧
      sentOf (after.events.drop x75.events.length) = [[0x01, 0x87, 0xB0, 0x00, 0x08]] :=
  ⟨_, _, _, rfl, rfl, rfl, rfl, rfl, by decide, rfl, rfl, rfl⟩

end IsdnRas.X75
