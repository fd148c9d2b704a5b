import Mathlib.Tactic.IntervalCases
import IsdnRas.Library.Stuffing
import IsdnRas.Ppp.TxBuffer

/-!
# The frame of a packet

The encoder writes one frame: a flag, the packet and its checksum with the escaped
bytes stuffed, and a flag (`encode_wellFormed`). The stuffing is that of `Stuffing`, so
neither flags nor control characters occur between the flags.

The two bytes of the checksum are the complement of the running FCS, the low byte
first. Running the FCS over them leads to the same value whatever the packet is: the low
byte is looked up at 0xff and the high one at 0x87 (`pppFcs_complement`).
-/

set_option autoImplicit false

namespace IsdnRas.Ppp

/-! ## The stuffing -/

/-- An escaped byte is neither a flag, nor an escape, nor a control character. -/
theorem needsEscape_masked {e : UInt8} (special : needsEscape e = true) :
    needsEscape (e ^^^ 0x20) = false := by
  have all : ∀ e : Fin 256, needsEscape (UInt8.ofNat e) = true →
      needsEscape (UInt8.ofNat e ^^^ 0x20) = false := by decide +kernel
  have masked := all ⟨e.toNat, e.toNat_lt⟩
  rw [UInt8.ofNat_toNat] at masked
  exact masked special

/-- The stuffing of RFC 1662. -/
def pppStuffing : Stuffing UInt8 where
  special := needsEscape
  escape := pppEscape
  mask := fun e => e ^^^ 0x20
  special_escape := rfl
  special_mask := needsEscape_masked
  mask_mask := fun e => by rw [UInt8.xor_assoc, UInt8.xor_self, UInt8.xor_zero]

/-- The frame whose bytes between the flags stand for `symbols`. -/
def frameOf (symbols : Bytes) : Bytes := pppFlag :: (pppStuffing.stuff symbols ++ [pppFlag])

theorem framed_eq (rawIn : Bytes) : framed rawIn = frameOf (rawIn ++ fcsBytes rawIn) := rfl

/-- A byte between the flags of a frame is neither a flag nor a control character. -/
theorem mem_stuff_bounds {ch : UInt8} {symbols : Bytes}
    (member : ch ∈ pppStuffing.stuff symbols) : ch ≠ pppFlag ∧ 0x20 ≤ ch := by
  rcases pppStuffing.mem_stuff member with rfl | plain
  · decide
  · have plain : needsEscape ch = false := plain
    simp only [needsEscape, Bool.or_eq_false_iff, decide_eq_false_iff_not, beq_eq_false_iff_ne,
      UInt8.not_lt] at plain
    exact ⟨plain.2, plain.1.1⟩

/-! ## The checksum -/

def pppGoodfcs : UInt16 := 0xf0b8

/-- Bitwise equations of 16-bit numbers, one bit at a time. -/
theorem uint16_ext {first second : UInt16}
    (bits : ∀ (index : Nat) (bound : index < 16),
      first.toBitVec[index] = second.toBitVec[index]) : first = second :=
  UInt16.toBitVec_inj.mp (BitVec.eq_of_getElem_eq bits)

/-- A low byte that complements the one of the FCS is looked up at 0xff. -/
theorem complement_low (fcs : UInt16) :
    (fcs ^^^ ((fcs ^^^ 0xffff) &&& 0xff).toUInt8.toUInt16) &&& 0xff = 0xff := by
  apply uint16_ext
  intro index bound
  simp only [UInt16.toBitVec_and, UInt16.toBitVec_xor, UInt8.toBitVec_toUInt16,
    UInt16.toBitVec_toUInt8, BitVec.getElem_and, BitVec.getElem_xor]
  interval_cases index <;> simp

/-- The high byte that complements the one of the FCS is then looked up at 0x87. -/
theorem complement_high (fcs : UInt16) :
    ((fcs >>> (8 : UInt16)) ^^^ (0x0f78 : UInt16) ^^^
      (((fcs ^^^ 0xffff) >>> (8 : UInt16)) &&& 0xff).toUInt8.toUInt16) &&& 0xff = 0x87 := by
  apply uint16_ext
  intro index bound
  simp only [UInt16.toBitVec_and, UInt16.toBitVec_xor, UInt8.toBitVec_toUInt16,
    UInt16.toBitVec_toUInt8, BitVec.getElem_and, BitVec.getElem_xor, UInt16.toBitVec_shiftRight]
  interval_cases index <;> simp

/-- A 16-bit number shifted by eight has no high byte. -/
theorem shift_xor_shift (fcs other : UInt16) :
    ((fcs >>> (8 : UInt16)) ^^^ other) >>> (8 : UInt16) = other >>> (8 : UInt16) := by
  apply uint16_ext
  intro index bound
  simp only [UInt16.toBitVec_xor, UInt16.toBitVec_shiftRight]
  interval_cases index <;> simp

/-- **The FCS over its own complement**, low byte first, is always the same. -/
theorem pppFcs_complement (fcs : UInt16) :
    pppFcs (pppFcs fcs ((fcs ^^^ 0xffff) &&& 0xff).toUInt8)
      (((fcs ^^^ 0xffff) >>> (8 : UInt16)) &&& 0xff).toUInt8 = pppGoodfcs := by
  have low : pppFcs fcs ((fcs ^^^ 0xffff) &&& 0xff).toUInt8 =
      (fcs >>> (8 : UInt16)) ^^^ (0x0f78 : UInt16) := by
    rw [pppFcs, complement_low]
    rfl
  rw [low, pppFcs, complement_high, shift_xor_shift]
  rfl

/-- The running FCS over a packet and its checksum. -/
theorem fcs_of_checksum (rawIn : Bytes) :
    (rawIn ++ fcsBytes rawIn).foldl pppFcs pppInitfcs = pppGoodfcs := by
  rw [List.foldl_append]
  exact pppFcs_complement (rawIn.foldl pppFcs pppInitfcs)

/-! ## The encoder -/

/-- The writes fill the buffer with a frame, from index zero and without a gap. -/
def HdlcOut.Holds (hdlcOut : HdlcOut) (frame : Bytes) : Prop :=
  hdlcOut = ⟨frame.length, (List.range' 0 frame.length).zip frame⟩

instance (hdlcOut : HdlcOut) (frame : Bytes) : Decidable (hdlcOut.Holds frame) :=
  inferInstanceAs (Decidable (_ = _))

/-- A buffer holds one frame. -/
theorem HdlcOut.Holds.unique {hdlcOut : HdlcOut} {first second : Bytes}
    (holds : hdlcOut.Holds first) (holds' : hdlcOut.Holds second) : second = first := by
  obtain ⟨length, writes⟩ := HdlcOut.mk.inj (holds'.symm.trans holds)
  have read := congrArg (List.map Prod.snd) writes
  rwa [List.map_snd_zip (by simp), List.map_snd_zip (by simp)] at read

theorem encode_holds (rawIn : Bytes) : (pppdRfc1662Encode rawIn).Holds (framed rawIn) :=
  pppdRfc1662Encode_eq rawIn

/-- **The encoder writes one well-formed frame.** It starts and ends with a flag. In
between no byte is a flag or below 0x20, and every escape is followed by a byte that is
neither an escape nor a flag. The position is the length of the packet and four, and one
more for every escape. Without the escapes the packet is left, and two bytes over which
the running FCS ends at its good value. -/
theorem encode_wellFormed (rawIn : Bytes) :
    ∃ body fcs,
      (pppdRfc1662Encode rawIn).Holds (pppFlag :: (body ++ [pppFlag])) ∧
      (∀ ch ∈ body, ch ≠ pppFlag ∧ 0x20 ≤ ch) ∧
      (∀ before after, body = before ++ pppEscape :: after →
        ∃ next rest, after = next :: rest ∧ next ≠ pppEscape ∧ next ≠ pppFlag) ∧
      (pppdRfc1662Encode rawIn).pos = rawIn.length + 4 + body.count pppEscape ∧
      pppStuffing.unstuff false body = rawIn ++ fcs ∧ fcs.length = 2 ∧
      (rawIn ++ fcs).foldl pppFcs pppInitfcs = pppGoodfcs := by
  refine ⟨pppStuffing.stuff (rawIn ++ fcsBytes rawIn), fcsBytes rawIn, encode_holds rawIn,
    fun ch member => mem_stuff_bounds member, ?_, ?_, pppStuffing.unstuff_stuff _, rfl,
    fcs_of_checksum rawIn⟩
  · intro before after split
    obtain ⟨next, rest, rfl, plain⟩ := pppStuffing.stuff_after_escape split
    have plain : needsEscape next = false := plain
    refine ⟨next, rest, rfl, ?_, ?_⟩
    · rintro rfl
      cases plain
    · rintro rfl
      cases plain
  · have escapes : (pppStuffing.stuff (rawIn ++ fcsBytes rawIn)).count pppEscape =
        (rawIn ++ fcsBytes rawIn).countP needsEscape := pppStuffing.count_escape_stuff _
    rw [pppdRfc1662Encode_eq, escapes]
    exact length_framed rawIn

end IsdnRas.Ppp
