import IsdnRas.Library.Crc
import IsdnRas.Ppp.FrameCheck

/-!
# The FCS bit by bit

RFC 1662 defines the FCS-16 on the bits of a packet, the least significant bit of each
byte first. `fcs16` is this definition. The program takes a byte at a time and looks up
what its eight bits do to an empty register (`pppCrc16Table_eq`). By the linearity of the
check this is the same for every packet (`checksum_eq_fcs16`).
-/

set_option autoImplicit false

namespace IsdnRas.Ppp

/-- The polynomial, reflected. -/
def fcsPoly : BitVec 16 := 0x8408

/-- The bits of a packet as they are sent. -/
def bitsOf (buf : Bytes) : List Bool := buf.flatMap fun c => lowBits 8 c.toBitVec

/-- The FCS-16 of a packet, bit by bit. -/
def fcs16 (buf : Bytes) : UInt16 :=
  UInt16.ofBitVec (~~~ crcBits fcsPoly 0xffff (bitsOf buf))

/-- The check value of the FCS-16, for the digits one to nine. -/
example : fcs16 [0x31, 0x32, 0x33, 0x34, 0x35, 0x36, 0x37, 0x38, 0x39] = 0x906e := by
  decide +kernel

/-- **The table** holds what eight bits do to an empty register. -/
theorem pppCrc16Table_eq (index : Fin 256) :
    (pppCrc16Table.getD index 0).toBitVec =
      crcBits fcsPoly 0 (lowBits 8 (BitVec.ofNat 16 index)) := by
  revert index
  decide +kernel

theorem lowBits_lookupIndex (fcs : UInt16) (c : UInt8) :
    lowBits 8 (BitVec.ofNat 16 (lookupIndex fcs c)) =
      lowBits 8 (fcs.toBitVec ^^^ c.toUInt16.toBitVec) := by
  have word : BitVec.ofNat 16 (lookupIndex fcs c) =
      (fcs.toBitVec ^^^ c.toUInt16.toBitVec) &&& 0xff :=
    (BitVec.ofNat_toNat 16 ((fcs.toBitVec ^^^ c.toUInt16.toBitVec) &&& 0xff)).trans
      (BitVec.setWidth_eq _)
  rw [word]
  refine lowBits_congr fun index bound => ?_
  rw [BitVec.getLsbD_and]
  have inside : (0xff : BitVec 16).getLsbD index = true := by
    interval_cases index <;> rfl
  rw [inside, Bool.and_true]

theorem pppFcs_eq_crcBits (fcs : UInt16) (c : UInt8) :
    (pppFcs fcs c).toBitVec = crcBits fcsPoly fcs.toBitVec (lowBits 8 c.toBitVec) := by
  have wide : lowBits 8 c.toBitVec = lowBits 8 c.toUInt16.toBitVec := by
    refine lowBits_congr fun index bound => ?_
    rw [UInt8.toBitVec_toUInt16, BitVec.getLsbD_setWidth]
    simp [Nat.lt_trans bound (by decide : 8 < 16)]
  rw [wide, crcBits_lookup, ← lowBits_lookupIndex, ← pppCrc16Table_eq, pppFcs_eq,
    UInt16.toBitVec_xor]
  rfl

theorem foldl_pppFcs (buf : Bytes) : ∀ fcs : UInt16,
    (buf.foldl pppFcs fcs).toBitVec = crcBits fcsPoly fcs.toBitVec (bitsOf buf) := by
  induction buf with
  | nil => exact fun fcs => rfl
  | cons c rest ih =>
      intro fcs
      have bits : bitsOf (c :: rest) = lowBits 8 c.toBitVec ++ bitsOf rest := List.flatMap_cons
      rw [List.foldl_cons, ih, pppFcs_eq_crcBits, bits, crcBits_append]

/-- **The table-driven checksum is the FCS-16**, for every packet. -/
theorem checksum_eq_fcs16 (buf : Bytes) : pppdRfc1662Checksum buf = fcs16 buf := by
  apply UInt16.toBitVec_inj.mp
  rw [pppdRfc1662Checksum, UInt16.toBitVec_xor, foldl_pppFcs]
  exact BitVec.xor_allOnes

end IsdnRas.Ppp
