import Mathlib.Data.List.Basic

/-!
# Cyclic redundancy checks, least significant bit first

The register is shifted down by one place for every bit of the message. The polynomial is
fed back when the bit that leaves the register and the bit of the message differ.

This is linear in the register and the message together (`crcBits_xor`), and a message
that equals the low bits of the register shifts them out (`crcBits_self`). So several bits
at once take one lookup, in the remainders of the empty register (`crcBits_lookup`): this
is what a table-driven implementation does.
-/

set_option autoImplicit false

namespace IsdnRas

variable {w : Nat}

/-- What is fed back for one bit. -/
def fedBack (poly : BitVec w) (bit : Bool) : BitVec w := if bit then poly else 0

/-- One bit of the message. -/
def crcBit (poly register : BitVec w) (bit : Bool) : BitVec w :=
  (register >>> 1) ^^^ fedBack poly (register.getLsbD 0 ^^ bit)

/-- The bits of a message, in order. -/
def crcBits (poly register : BitVec w) (bits : List Bool) : BitVec w :=
  bits.foldl (crcBit poly) register

/-- The low bits of a word, the lowest one first. -/
def lowBits (count : Nat) (word : BitVec w) : List Bool :=
  (List.range count).map fun index => word.getLsbD index

@[simp] theorem crcBits_nil (poly register : BitVec w) : crcBits poly register [] = register := rfl

theorem crcBits_append (poly register : BitVec w) (first second : List Bool) :
    crcBits poly register (first ++ second) =
      crcBits poly (crcBits poly register first) second := List.foldl_append

@[simp] theorem lowBits_zero (word : BitVec w) : lowBits 0 word = [] := rfl

theorem lowBits_succ (count : Nat) (word : BitVec w) :
    lowBits (count + 1) word = lowBits count word ++ [word.getLsbD count] := by
  rw [lowBits, List.range_succ, List.map_append]
  rfl

/-- Words with the same low bits. -/
theorem lowBits_congr {w' count : Nat} {word : BitVec w} {other : BitVec w'}
    (same : ∀ index, index < count → word.getLsbD index = other.getLsbD index) :
    lowBits count word = lowBits count other :=
  List.map_congr_left fun index member => same index (List.mem_range.mp member)

theorem crcBits_lowBits_succ (poly register word : BitVec w) (count : Nat) :
    crcBits poly register (lowBits (count + 1) word) =
      crcBit poly (crcBits poly register (lowBits count word)) (word.getLsbD count) := by
  rw [lowBits_succ, crcBits_append]
  rfl

theorem fedBack_xor (poly : BitVec w) (bit bit' : Bool) :
    fedBack poly (bit ^^ bit') = fedBack poly bit ^^^ fedBack poly bit' := by
  cases bit <;> cases bit' <;> simp [fedBack]

theorem crcBit_xor (poly register other : BitVec w) (bit bit' : Bool) :
    crcBit poly (register ^^^ other) (bit ^^ bit') =
      crcBit poly register bit ^^^ crcBit poly other bit' := by
  unfold crcBit
  simp only [BitVec.getLsbD_xor, BitVec.ushiftRight_xor_distrib, fedBack_xor]
  ac_rfl

/-- **A check is linear** in the register and the message. -/
theorem crcBits_xor (poly register other word word' : BitVec w) (count : Nat) :
    crcBits poly (register ^^^ other) (lowBits count (word ^^^ word')) =
      crcBits poly register (lowBits count word) ^^^ crcBits poly other (lowBits count word') := by
  induction count with
  | zero => rfl
  | succ count ih =>
      rw [crcBits_lowBits_succ, crcBits_lowBits_succ, crcBits_lowBits_succ, ih,
        BitVec.getLsbD_xor, crcBit_xor]

/-- A message that equals the low bits of the register shifts them out. -/
theorem crcBits_self (poly register : BitVec w) (count : Nat) :
    crcBits poly register (lowBits count register) = register >>> count := by
  induction count with
  | zero => exact (BitVec.ushiftRight_zero register).symm
  | succ count ih =>
      have lowest : (register >>> count).getLsbD 0 = register.getLsbD count := by
        rw [BitVec.getLsbD_ushiftRight, Nat.add_zero]
      rw [crcBits_lowBits_succ, ih, crcBit, lowest, Bool.xor_self, BitVec.shiftRight_add]
      exact BitVec.xor_zero

/-- **Several bits take one lookup.** -/
theorem crcBits_lookup (poly register word : BitVec w) (count : Nat) :
    crcBits poly register (lowBits count word) =
      (register >>> count) ^^^ crcBits poly 0 (lowBits count (register ^^^ word)) := by
  have split : word = register ^^^ (register ^^^ word) := by
    rw [← BitVec.xor_assoc, BitVec.xor_self, BitVec.zero_xor]
  calc crcBits poly register (lowBits count word)
      = crcBits poly (register ^^^ 0) (lowBits count (register ^^^ (register ^^^ word))) := by
        rw [← split]
        exact congrArg (crcBits poly · _) BitVec.xor_zero.symm
    _ = crcBits poly register (lowBits count register) ^^^
          crcBits poly 0 (lowBits count (register ^^^ word)) := crcBits_xor ..
    _ = (register >>> count) ^^^ crcBits poly 0 (lowBits count (register ^^^ word)) := by
        rw [crcBits_self]

end IsdnRas
