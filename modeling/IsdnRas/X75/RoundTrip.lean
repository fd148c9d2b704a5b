import Mathlib.Data.Nat.Bitwise
import IsdnRas.X75.Wire

/-!
# From one end to the other

The frames that one end builds are read by the other end as they were meant. The
other end has the same mode but for the DCE bit, with which the two addresses
change their meaning (`x75DecodeCr_x75Address`). The control fields of
supervisory frames and I-frames are read back in `Wire`; the unnumbered ones are
read back here, and `sent_frames_decoded` puts the parts together.
-/

set_option autoImplicit false

namespace IsdnRas.X75

/-! ## The mode of the peer -/

/-- The same mode in the other role. -/
def peerMode (mode : UInt32) : UInt32 := mode ^^^ x75Dce

theorem xor_and_distrib (mode bit mask : UInt32) :
    (mode ^^^ bit) &&& mask = (mode &&& mask) ^^^ (bit &&& mask) := by
  apply UInt32.toBitVec_inj.mp
  apply BitVec.eq_of_getElem_eq
  intro index bound
  simp only [UInt32.toBitVec_and, UInt32.toBitVec_xor, BitVec.getElem_and, BitVec.getElem_xor]
  cases mode.toBitVec[index] <;> cases bit.toBitVec[index] <;> cases mask.toBitVec[index] <;> rfl

/-- The DCE bit leaves the other bits of the mode. -/
theorem peerMode_and {mask : UInt32} (apart : x75Dce &&& mask = 0) (mode : UInt32) :
    peerMode mode &&& mask = mode &&& mask := by
  rw [peerMode, xor_and_distrib, apart, UInt32.xor_zero]

theorem extendedMode_peerMode (mode : UInt32) :
    extendedMode (peerMode mode) = extendedMode mode := by
  rw [extendedMode, peerMode_and (by decide), extendedMode]

/-- The DCE bit alone is set or not. -/
theorem and_dce (mode : UInt32) : mode &&& x75Dce = 0 ∨ mode &&& x75Dce = x75Dce := by
  have bit : mode.toNat &&& 2 ^ 2 = (mode.toNat.testBit 2).toNat * 2 ^ 2 := Nat.and_two_pow ..
  cases set : mode.toNat.testBit 2 with
  | false =>
      refine .inl (UInt32.toNat_inj.mp ?_)
      rw [UInt32.toNat_and]
      rw [set] at bit
      exact bit
  | true =>
      refine .inr (UInt32.toNat_inj.mp ?_)
      rw [UInt32.toNat_and]
      rw [set] at bit
      exact bit

theorem dce_peerMode (mode : UInt32) :
    (peerMode mode &&& x75Dce != 0) = !(mode &&& x75Dce != 0) := by
  rw [peerMode, xor_and_distrib]
  rcases and_dce mode with dte | dce
  · rw [dte]
    decide
  · rw [dce]
    decide

section Peer

variable {x75 peer : X75Cb}

/-- **Commands are read as commands and responses as responses.** -/
theorem x75DecodeCr_x75Address (opposite : peer.mode = peerMode x75.mode) {type : UInt8}
    (known : type = x75Command ∨ type = x75Response) (cr : UInt8) :
    x75DecodeCr peer (x75Address x75 type) cr = type := by
  have mlp : peer.mlp = x75.mlp := by
    simp only [X75Cb.mlp, opposite, peerMode_and (show x75Dce &&& x75Mlp = 0 by decide)]
  have dce : peer.dce = !x75.dce := by
    simp only [X75Cb.dce, opposite]
    exact dce_peerMode x75.mode
  unfold x75DecodeCr x75Address
  rw [mlp, dce]
  cases x75.mlp <;> cases x75.dce <;> rcases known with rfl | rfl <;> rfl

theorem extended_peer (opposite : peer.mode = peerMode x75.mode) :
    peer.extended = x75.extended := by
  rw [X75Cb.extended, opposite, extendedMode_peerMode, X75Cb.extended]

/-! ## Unnumbered frames -/

/-- The unnumbered frames that `x75SendControl` builds. -/
def IsUnnumberedType (frametype : UInt16) : Prop :=
  frametype = x75Sabm ∨ frametype = x75Sabme ∨ frametype = x75Disc ∨ frametype = x75Dm ∨
    frametype = x75Ua

/-- What the bits of an unnumbered control byte say. -/
theorem unnumbered_bits {frametype : UInt16} (unnumbered : IsUnnumberedType frametype)
    (pollBit : UInt8) :
    let control := frametype.toUInt8 ||| standardPoll pollBit
    control &&& x75S ≠ 0 ∧ control &&& x75U = 3 ∧
      (control &&& ~~~x75Spf).toUInt16 = frametype ∧ control &&& x75Spf = standardPoll pollBit := by
  unfold standardPoll
  rcases unnumbered with rfl | rfl | rfl | rfl | rfl <;> split <;> decide

theorem controlField_unnumbered (x75 : X75Cb) {frametype : UInt16}
    (unnumbered : IsUnnumberedType frametype) (pollBit : UInt8) :
    controlField x75 frametype pollBit = [frametype.toUInt8 ||| standardPoll pollBit] := by
  have bits : frametype.toUInt8 &&& x75U = x75U := by
    rcases unnumbered with rfl | rfl | rfl | rfl | rfl <;> decide
  exact controlField_of_unnumbered x75 pollBit bits

/-- What a receiver decodes from a frame with an unnumbered control byte. The rest
of the frame is left to the machines. -/
theorem decode_unnumbered (receiver : X75Cb) (addr control : UInt8) (rest : Bytes)
    (stack : X75Frame) (odd : control &&& x75S ≠ 0) (format : control &&& x75U = 3) :
    ∃ frame, x75Decode receiver (addr :: control :: rest) stack = some (frame, rest) ∧
      frame.type = (control &&& ~~~x75Spf).toUInt16 ∧ frame.pf = control &&& x75Spf ∧
        frame.cr = x75DecodeCr receiver addr stack.cr := by
  cases ext : receiver.extended with
  | true =>
      refine ⟨_, by
        simp only [x75Decode, ext, if_true, odd, if_false, format]
        rfl, rfl, rfl, rfl⟩
  | false =>
      refine ⟨_, by
        simp only [x75Decode, ext, Bool.false_eq_true, if_false, odd, format, if_true]
        rfl, rfl, rfl, rfl⟩

/-! ## Every frame -/

/-- The procedure has handed one frame to `data_transmit`, and the receiver
decodes it. -/
def WireDecodes (receiver : X75Cb) (stack : X75Frame) (before after : X75Cb) (frame : X75Frame)
    (rest : Bytes) : Prop :=
  ∃ skb, after = before.record (called before.callbacks.dataTransmit (.dataTransmit skb)) ∧
    x75Decode receiver skb stack = some (frame, rest)

/-- The frames that `x75SendControl` builds. -/
def IsControlType (frametype : UInt16) : Prop :=
  IsSupervisory frametype ∨ IsUnnumberedType frametype

/-- The information field of a FRMR. -/
def frmrInfo (x75 : X75Cb) : Bytes := (frmrField x75).tail

theorem frmrField_eq (x75 : X75Cb) : frmrField x75 = x75Frmr.toUInt8 :: frmrInfo x75 := by
  unfold frmrInfo frmrField
  split <;> rfl

theorem iframe_decoded (opposite : peer.mode = peerMode x75.mode) (vs_lt : x75.vs < x75.modulus)
    (vr_lt : x75.vr < x75.modulus) (stack : X75Frame) (skb : Bytes) (pollBit : UInt8) :
    ∃ frame, WireDecodes peer stack x75 (x75SendIframe x75 skb pollBit) frame skb ∧
      frame.type = x75I ∧ frame.cr = x75Command ∧ (frame.pf ≠ 0 ↔ pollBit ≠ 0) ∧
        frame.nr = x75.vr ∧ frame.ns = x75.vs := by
  obtain ⟨frame, decoded, type, ns, nr, pf, cr⟩ := decode_iframe peer x75 vs_lt skb pollBit
    (x75Address x75 x75Command) stack (extended_peer opposite)
  refine ⟨frame, ⟨_, rfl, decoded⟩, type, ?_, not_congr pf, ?_, ns⟩
  · exact cr.trans (x75DecodeCr_x75Address opposite (.inl rfl) stack.cr)
  · exact nr.trans (Nat.mod_eq_of_lt vr_lt)

theorem control_decoded (opposite : peer.mode = peerMode x75.mode) (vr_lt : x75.vr < x75.modulus)
    (stack : X75Frame) {frametype : UInt16} (known : IsControlType frametype) (pollBit : UInt8)
    {type : UInt8} (kind : type = x75Command ∨ type = x75Response) :
    ∃ frame, WireDecodes peer stack x75 (x75SendControl x75 frametype pollBit type) frame [] ∧
      frame.type = frametype ∧ frame.cr = type ∧ (frame.pf ≠ 0 ↔ pollBit ≠ 0) ∧
        (IsSupervisory frametype → frame.nr = x75.vr) := by
  have cr_eq := x75DecodeCr_x75Address opposite kind stack.cr
  rcases known with supervisory | unnumbered
  · obtain ⟨frame, decoded, same, nr, pf, cr⟩ := decode_supervisory peer x75 supervisory pollBit
      (x75Address x75 type) stack (extended_peer opposite)
    exact ⟨frame, ⟨_, rfl, decoded⟩, same, cr.trans cr_eq, not_congr pf,
      fun _ => nr.trans (Nat.mod_eq_of_lt vr_lt)⟩
  · obtain ⟨odd, format, same, poll⟩ := unnumbered_bits unnumbered pollBit
    obtain ⟨frame, decoded, read, pf, cr⟩ :=
      decode_unnumbered peer (x75Address x75 type) _ [] stack odd format
    rw [← controlField_unnumbered x75 unnumbered] at decoded
    refine ⟨frame, ⟨_, rfl, decoded⟩, read.trans same, cr.trans cr_eq, ?_, ?_⟩
    · rw [pf, poll]
      exact not_congr standardPoll_eq_zero_iff
    · intro supervisory
      rcases unnumbered with rfl | rfl | rfl | rfl | rfl <;> rcases supervisory with h | h | h <;>
        cases h

theorem frmr_decoded (opposite : peer.mode = peerMode x75.mode) (stack : X75Frame) :
    ∃ frame, WireDecodes peer stack x75 (x75TransmitFrmr x75) frame (frmrInfo x75) ∧
      frame.type = x75Frmr ∧ frame.cr = x75Response ∧ frame.pf = 0 := by
  have odd : x75Frmr.toUInt8 &&& x75S ≠ 0 := by decide
  have format : x75Frmr.toUInt8 &&& x75U = 3 := by decide
  obtain ⟨frame, decoded, type, pf, cr⟩ :=
    decode_unnumbered peer (x75Address x75 x75Response) _ (frmrInfo x75) stack odd format
  rw [← frmrField_eq] at decoded
  exact ⟨frame, ⟨_, rfl, decoded⟩, type,
    cr.trans (x75DecodeCr_x75Address opposite (.inr rfl) stack.cr), pf⟩

end Peer

/-- **Every frame is read as it was meant.** For a peer in the same mode but for
the DCE bit, and whatever its frame record held before. -/
theorem sent_frames_decoded {x75 peer : X75Cb} (opposite : peer.mode = peerMode x75.mode)
    (vs_lt : x75.vs < x75.modulus) (vr_lt : x75.vr < x75.modulus) (stack : X75Frame) :
    (∀ skb pollBit, ∃ frame,
      WireDecodes peer stack x75 (x75SendIframe x75 skb pollBit) frame skb ∧
        frame.type = x75I ∧ frame.cr = x75Command ∧ (frame.pf ≠ 0 ↔ pollBit ≠ 0) ∧
          frame.nr = x75.vr ∧ frame.ns = x75.vs) ∧
      (∀ frametype pollBit type, IsControlType frametype →
        type = x75Command ∨ type = x75Response → ∃ frame,
          WireDecodes peer stack x75 (x75SendControl x75 frametype pollBit type) frame [] ∧
            frame.type = frametype ∧ frame.cr = type ∧ (frame.pf ≠ 0 ↔ pollBit ≠ 0) ∧
              (IsSupervisory frametype → frame.nr = x75.vr)) ∧
      ∃ frame, WireDecodes peer stack x75 (x75TransmitFrmr x75) frame (frmrInfo x75) ∧
        frame.type = x75Frmr ∧ frame.cr = x75Response ∧ frame.pf = 0 :=
  ⟨fun skb pollBit => iframe_decoded opposite vs_lt vr_lt stack skb pollBit,
    fun _ pollBit _ known kind => control_decoded opposite vr_lt stack known pollBit kind,
    frmr_decoded opposite stack⟩

/-- An I-frame of the extended mode from a DTE, with numbers beyond the standard
ones, is read by the DCE. -/
theorem sent_frames_decoded_extended :
    ∃ frame, WireDecodes { zeroed with mode := x75Extended ||| x75Dce } .zero
        { zeroed with mode := x75Extended, vs := 100, vr := 77 }
        (x75SendIframe { zeroed with mode := x75Extended, vs := 100, vr := 77 } [0x41] x75Pollon)
        frame [0x41] ∧
      frame.nr = 77 ∧ frame.ns = 100 := by
  have opposite : ({ zeroed with mode := x75Extended ||| x75Dce } : X75Cb).mode =
      peerMode ({ zeroed with mode := x75Extended, vs := 100, vr := 77 } : X75Cb).mode := by
    decide
  obtain ⟨iframes, -, -⟩ := sent_frames_decoded opposite (by decide) (by decide) .zero
  obtain ⟨frame, decodes, -, -, -, nr, ns⟩ := iframes [0x41] x75Pollon
  exact ⟨frame, decodes, nr, ns⟩

end IsdnRas.X75
