import Mathlib.Data.List.Basic

/-!
# Unpacked bits and V.110 frames

The V.110 programs work on unpacked bits, one in each byte. Packing, unpacking and the
decoding of a transparent frame are functions of libosmocore and parameters of the model.
`Osmo.plain` is the library as it is documented: bytes are packed from their highest bit
on, and a frame has ten octets with six D-bits in each of those numbered 1 to 4 and 6 to 9.
-/

set_option autoImplicit false

namespace IsdnRas.V110

/-- An unpacked bit. -/
abbrev Ubit := Bool

/-- The functions of libosmocore that are called. A decoded frame is given by its D-bits. -/
structure Osmo where
  v110DecodeFrame : (bits : List Ubit) → Option (List Ubit)
  ubit2pbit : (bits : List Ubit) → List UInt8
  pbit2ubit : (bytes : List UInt8) → (numBits : Nat) → Vector Ubit numBits
  revbytebits8 : (byte : UInt8) → UInt8

/-- The byte with the given bits, the highest first. -/
def byteOf (bits : List Ubit) : UInt8 := bits.foldl (fun byte bit => 2 * byte + bit.toUInt8) 0

def bitsOf (byte : UInt8) : List Ubit := (List.range 8).map fun i => byte.toNat.testBit (7 - i)

/-- The octets of a frame that carry D-bits. -/
def dataOctets : List Nat := [1, 2, 3, 4, 6, 7, 8, 9]

/-- The library as it is documented. -/
def Osmo.plain : Osmo where
  v110DecodeFrame bits :=
    if bits.length < 80 then none
    else some (dataOctets.flatMap fun octet => (bits.drop (octet * 8 + 1)).take 6)
  ubit2pbit bits :=
    (List.range (bits.length / 8)).map fun byte => byteOf ((bits.drop (byte * 8)).take 8)
  pbit2ubit bytes numBits :=
    ⟨((List.range numBits).map fun i => (bytes.flatMap bitsOf).getD i false).toArray, by simp⟩
  revbytebits8 byte := byteOf (bitsOf byte).reverse

/-- A transparent frame with the given D-bits. The other bits are ones. -/
def transparentFrame (dBits : List Ubit) : List Ubit :=
  (List.range 10).flatMap fun octet =>
    match octet with
    | 0 => List.replicate 8 false
    | 5 => List.replicate 8 true
    | _ => true :: (dBits.drop (dataOctets.idxOf octet * 6)).take 6 ++ [true]

end IsdnRas.V110
