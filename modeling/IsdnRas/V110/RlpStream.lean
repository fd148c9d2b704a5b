import IsdnRas.V110.RlpFrame
import Mathlib.Data.List.Forall2
import Mathlib.Data.List.GetD

/-!
# A stream of RLP frames

An RLP frame of 30 bytes is sent in four V.110 frames, 60 bits in each, every byte from its
lowest bit on. Of the library it is assumed that bits are packed from the highest bit of each
byte on, and that the bits of a byte are reversed (`Osmo.Packs`).

V.110 frames may be lost, and the receiver does not see that. It hands an RLP frame on for
each fourth V.110 frame, with the bits that were received last for each part. So it hands on
one frame for every RLP frame whose fourth V.110 frame arrives, in their order; the parts that
have arrived are right, and a frame of which all parts have arrived is unaltered
(`rlp_stream_received`). The bits of a V.110 frame that RLP does not use may have any values.
-/

set_option autoImplicit false

namespace IsdnRas.V110

/-! ## Packing -/

/-- What the receiver relies on in the library. -/
structure Osmo.Packs (osmo : Osmo) : Prop where
  /-- Eight bits make a byte. -/
  length : ∀ {bits : List Ubit} {count : Nat}, bits.length = 8 * count →
    (osmo.ubit2pbit bits).length = count
  /-- The first of them is the highest bit. -/
  ubit2pbit : ∀ {bits : List Ubit} {count : Nat}, bits.length = 8 * count →
    ∀ byte i, byte < count → i < 8 →
      ((osmo.ubit2pbit bits).getD byte 0).toNat.testBit (7 - i) = bits.getD (8 * byte + i) false
  revbytebits8 : ∀ byte i, i < 8 →
    (osmo.revbytebits8 byte).toNat.testBit i = byte.toNat.testBit (7 - i)

theorem Osmo.packs_plain : Osmo.plain.Packs where
  length {bits count} length := by
    simp only [plain, List.length_map, List.length_range]
    omega
  ubit2pbit {bits count} length byte i within low := by
    have all : ∀ (a b c d e f g h : Ubit) (i : Fin 8),
        (byteOf [a, b, c, d, e, f, g, h]).toNat.testBit (7 - i.val) =
          [a, b, c, d, e, f, g, h].getD i.val false := by decide +kernel
    have packed : ∀ octet : List Ubit, octet.length = 8 →
        (byteOf octet).toNat.testBit (7 - i) = octet.getD i false := by
      intro octet eight
      match octet, eight with
      | [a, b, c, d, e, f, g, h], _ => exact all a b c d e f g h ⟨i, low⟩
    have eight : ((bits.drop (byte * 8)).take 8).length = 8 := by
      rw [List.length_take, List.length_drop]
      omega
    have place : bits.length / 8 = count := by omega
    have here : (Osmo.plain.ubit2pbit bits).getD byte 0 =
        byteOf ((bits.drop (byte * 8)).take 8) := by
      simp [plain, List.getD_eq_getElem?_getD, place, within]
    rw [here, packed _ eight, List.getD_eq_getElem?_getD, List.getElem?_take_of_lt low,
      List.getElem?_drop, Nat.mul_comm, List.getD_eq_getElem?_getD]
  revbytebits8 byte i low := by
    have all : ∀ (n : Fin 256) (i : Fin 8),
        (Osmo.plain.revbytebits8 (UInt8.ofNat n)).toNat.testBit i.val =
          (UInt8.ofNat n).toNat.testBit (7 - i.val) := by decide +kernel
    simpa using all ⟨byte.toNat, byte.toNat_lt⟩ ⟨i, low⟩

/-- The bits of some bytes, the lowest bit of each byte first. -/
def rlpBits (bytes : List UInt8) : List Ubit :=
  bytes.flatMap fun byte => (List.range 8).map byte.toNat.testBit

theorem rlpBits_cons (byte : UInt8) (rest : List UInt8) :
    rlpBits (byte :: rest) = (List.range 8).map byte.toNat.testBit ++ rlpBits rest := rfl

@[simp] theorem length_rlpBits (bytes : List UInt8) :
    (rlpBits bytes).length = 8 * bytes.length := by
  induction bytes with
  | nil => rfl
  | cons byte rest ih =>
      rw [rlpBits_cons, List.length_append, List.length_map, List.length_range, ih,
        List.length_cons]
      omega

theorem rlpBits_getD (bytes : List UInt8) {i : Nat} (low : i < 8) : ∀ byte,
    (rlpBits bytes).getD (8 * byte + i) false = (bytes.getD byte 0).toNat.testBit i := by
  induction bytes with
  | nil =>
      intro byte
      simp [rlpBits]
  | cons first rest ih =>
      intro byte
      have eight : ((List.range 8).map first.toNat.testBit).length = 8 := by
        rw [List.length_map, List.length_range]
      rw [rlpBits_cons]
      cases byte with
      | zero =>
          rw [Nat.mul_zero, Nat.zero_add, List.getD_append _ _ _ _ (by rw [eight]; exact low)]
          simp [List.getD_eq_getElem?_getD, low]
      | succ byte =>
          have further : 8 * (byte + 1) + i - 8 = 8 * byte + i := by omega
          rw [List.getD_append_right _ _ _ _ (by rw [eight]; omega), eight, further, ih,
            List.getD_cons_succ]

/-- Bits that are the same in every byte are the same. -/
theorem eq_of_getD {first second : List Ubit} {count : Nat} (length : first.length = 8 * count)
    (length' : second.length = 8 * count)
    (same : ∀ byte i, byte < count → i < 8 →
      first.getD (8 * byte + i) false = second.getD (8 * byte + i) false) : first = second := by
  refine List.ext_getElem (length.trans length'.symm) fun place within within' => ?_
  have here := same (place / 8) (place % 8) (by omega) (by omega)
  rwa [Nat.div_add_mod, List.getD_eq_getElem _ _ within, List.getD_eq_getElem _ _ within'] at here

theorem rlpBits_injective : Function.Injective rlpBits := by
  intro first second same
  have length : first.length = second.length := by
    have doubled := congrArg List.length same
    rw [length_rlpBits, length_rlpBits] at doubled
    omega
  refine List.ext_getElem length fun byte within within' => ?_
  have bit : ∀ i < 8, first[byte].toNat.testBit i = second[byte].toNat.testBit i := by
    intro i low
    have here := congrArg (fun bits => bits.getD (8 * byte + i) false) same
    simp only [rlpBits_getD _ low] at here
    rwa [List.getD_eq_getElem _ _ within, List.getD_eq_getElem _ _ within'] at here
  have high : ∀ (byte : UInt8) i, ¬ i < 8 → byte.toNat.testBit i = false := by
    intro byte i high
    refine Nat.testBit_lt_two_pow (Nat.lt_of_lt_of_le byte.toNat_lt ?_)
    exact Nat.pow_le_pow_right (Nat.succ_pos 1) (Nat.not_lt.mp high)
  refine UInt8.toNat_inj.mp (Nat.eq_of_testBit_eq fun i => ?_)
  by_cases low : i < 8
  · exact bit i low
  · rw [high _ i low, high _ i low]

section Packing

variable {osmo : Osmo}

/-- **What is packed are the bits.** -/
theorem rlpBits_rlpFrame (packs : osmo.Packs) {bits : List Ubit} {count : Nat}
    (length : bits.length = 8 * count) : rlpBits (rlpFrame osmo bits) = bits := by
  have bytes := packs.length length
  refine eq_of_getD (by rw [length_rlpBits, rlpFrame, List.length_map, bytes]) length ?_
  intro byte i within low
  have here : (rlpFrame osmo bits).getD byte 0 =
      osmo.revbytebits8 ((osmo.ubit2pbit bits).getD byte 0) := by
    have within' : byte < (osmo.ubit2pbit bits).length := bytes ▸ within
    simp [rlpFrame, List.getD_eq_getElem?_getD, within']
  rw [rlpBits_getD _ low, here, packs.revbytebits8 _ i low,
    packs.ubit2pbit length byte i within low]

theorem rlpFrame_rlpBits (packs : osmo.Packs) (bytes : List UInt8) :
    rlpFrame osmo (rlpBits bytes) = bytes :=
  rlpBits_injective (rlpBits_rlpFrame packs (length_rlpBits bytes))

end Packing

/-! ## V.110 frames -/

/-- The bits of a V.110 frame that RLP does not use: the first octet, the first bits of the
others, and E1. -/
structure OtherBits where
  octet0 : Vector Ubit 8
  firstBit : Fin 9 → Ubit
  e1 : Ubit

/-- The octets of a V.110 frame with 60 D-bits. The fifth octet has the E-bits, and four
D-bits. -/
def rlpOctets (other : OtherBits) (indicator : Fin 4) (dBits : List Ubit) : List (List Ubit) :=
  let octet i first := other.firstBit i :: (dBits.drop first).take 7
  [other.octet0.toList, octet 0 0, octet 1 7, octet 2 14, octet 3 21,
    other.firstBit 4 :: other.e1 :: indicator.val.testBit 1 :: indicator.val.testBit 0 ::
      (dBits.drop 28).take 4,
    octet 5 32, octet 6 39, octet 7 46, octet 8 53]

section Frame

variable {other : OtherBits} {indicator : Fin 4} {dBits : List Ubit}

theorem length_of_mem_rlpOctets (sixty : dBits.length = 60) :
    ∀ octet ∈ rlpOctets other indicator dBits, octet.length = 8 := by
  simp [rlpOctets, sixty]

theorem length_flatten_octets {octets : List (List Ubit)}
    (eight : ∀ octet ∈ octets, octet.length = 8) : octets.flatten.length = 8 * octets.length := by
  induction octets with
  | nil => rfl
  | cons octet rest ih =>
      rw [List.flatten_cons, List.length_append, eight octet List.mem_cons_self,
        ih fun other member => eight other (List.mem_cons_of_mem _ member), List.length_cons]
      omega

/-- What is copied from one octet. -/
theorem copied_flatten {octets : List (List Ubit)} (eight : ∀ octet ∈ octets, octet.length = 8)
    (bit len : Nat) (within : bit + len ≤ 8) : ∀ {i : Nat} {octet : List Ubit},
      octets[i]? = some octet → copied octets.flatten (i * 8 + bit) len = copied octet bit len := by
  induction octets with
  | nil =>
      intro i octet here
      cases here
  | cons first rest ih =>
      intro i octet here
      have length := eight first List.mem_cons_self
      cases i with
      | zero =>
          obtain rfl := Option.some.inj here
          have room : len ≤ (first.drop bit).length := by
            rw [List.length_drop]
            omega
          rw [copied, List.flatten_cons, Nat.zero_mul, Nat.zero_add,
            List.drop_append_of_le_length (by omega), List.take_append_of_le_length room, copied]
      | succ i =>
          have skipped : (i + 1) * 8 + bit = first.length + (i * 8 + bit) := by omega
          have later := ih (fun other member => eight other (List.mem_cons_of_mem _ member)) here
          rw [← later, copied, List.flatten_cons, skipped, List.drop_length_add_append, copied]

def rlpV110Frame (other : OtherBits) (indicator : Fin 4) (dBits : List Ubit)
    (sixty : dBits.length = 60) : V110Frame :=
  ⟨(rlpOctets other indicator dBits).flatten.toArray,
    length_flatten_octets (length_of_mem_rlpOctets sixty)⟩

/-- **The frame is decoded.** -/
theorem rlpV110Frame_decoded (sixty : dBits.length = 60) :
    (rlpV110Frame other indicator dBits sixty).decoded.dBits = dBits ∧
      (rlpV110Frame other indicator dBits sixty).decoded.rlpFsi = indicator.val := by
  have eight := @length_of_mem_rlpOctets other indicator dBits sixty
  have octet : ∀ (i first : Nat) {bit : Ubit}, (rlpOctets other indicator dBits)[i]? =
      some (bit :: (dBits.drop first).take 7) →
        copied (rlpOctets other indicator dBits).flatten (i * 8 + 1) 7 =
          (dBits.drop first).take 7 := by
    intro i first bit here
    rw [copied_flatten eight 1 7 (by omega) here, copied, List.drop_one, List.tail_cons,
      List.take_take, Nat.min_self]
  have fifth : (rlpOctets other indicator dBits)[5]? = some (other.firstBit 4 :: other.e1 ::
      indicator.val.testBit 1 :: indicator.val.testBit 0 :: (dBits.drop 28).take 4) := rfl
  have eBits : (rlpV110Frame other indicator dBits sixty).decoded.eBits =
      [other.e1, indicator.val.testBit 1, indicator.val.testBit 0] :=
    copied_flatten eight 1 3 (by omega) fifth
  have ends : copied (rlpOctets other indicator dBits).flatten (5 * 8 + 4) 4 =
      (dBits.drop 28).take 4 := by
    rw [copied_flatten eight 4 4 (by omega) fifth]
    change ((dBits.drop 28).take 4).take 4 = _
    rw [List.take_take, Nat.min_self]
  have join : ∀ (first second total : Nat), first + second = total →
      dBits.take first ++ (dBits.drop first).take second = dBits.take total := by
    rintro first second total rfl
    rw [List.take_add]
  have value : ∀ (e1 : Ubit) (indicator : Fin 4),
      let eBits := [e1, indicator.val.testBit 1, indicator.val.testBit 0]
      ((eBits.getD 1 false).toNat <<< 1) ||| (eBits.getD 2 false).toNat = indicator.val := by
    decide
  constructor
  · let raBits := (rlpOctets other indicator dBits).flatten
    have copies : (rlpV110Frame other indicator dBits sixty).decoded.dBits =
        copied raBits (1 * 8 + 1) 7 ++ copied raBits (2 * 8 + 1) 7 ++
        copied raBits (3 * 8 + 1) 7 ++ copied raBits (4 * 8 + 1) 7 ++
        copied raBits (5 * 8 + 4) 4 ++
        copied raBits (6 * 8 + 1) 7 ++ copied raBits (7 * 8 + 1) 7 ++
        copied raBits (8 * 8 + 1) 7 ++ copied raBits (9 * 8 + 1) 7 := rfl
    rw [copies, octet 1 0 rfl, octet 2 7 rfl, octet 3 14 rfl, octet 4 21 rfl, ends,
      octet 6 32 rfl, octet 7 39 rfl, octet 8 46 rfl, octet 9 53 rfl, List.drop_zero,
      join 7 7 14 rfl, join 14 7 21 rfl, join 21 7 28 rfl, join 28 4 32 rfl, join 32 7 39 rfl,
      join 39 7 46 rfl, join 46 7 53 rfl, join 53 7 60 rfl,
      List.take_of_length_le (Nat.le_of_eq sixty)]
  · rw [DecodedRlpFrame.rlpFsi, eBits]
    exact value other.e1 indicator

end Frame

/-! ## The stream -/

/-- An RLP frame that is sent: its bytes, the other bits of each V.110 frame, and which of the
V.110 frames arrive. -/
structure RlpSending where
  bytes : Vector UInt8 30
  other : Fin 4 → OtherBits
  arrives : Fin 4 → Bool

section Stream

variable {osmo : Osmo} {history : List V110Frame} {sending : RlpSending}

/-- The bits of one part. -/
def partOf (bits : List Ubit) (part : Fin 4) : List Ubit := (bits.drop (60 * part.val)).take 60

def RlpSending.bits (sending : RlpSending) : List Ubit := rlpBits sending.bytes.toList

theorem RlpSending.length_bits (sending : RlpSending) : sending.bits.length = 240 := by
  rw [bits, length_rlpBits, Vector.length_toList]

theorem length_partOf {bits : List Ubit} (length : bits.length = 240) (part : Fin 4) :
    (partOf bits part).length = 60 := by
  have bound := part.isLt
  rw [partOf, List.length_take, List.length_drop]
  omega

/-- The V.110 frame with one part. -/
def RlpSending.frame (sending : RlpSending) (part : Fin 4) : V110Frame :=
  rlpV110Frame (sending.other part) part (partOf sending.bits part)
    (length_partOf sending.length_bits part)

/-- The V.110 frames that arrive. -/
def RlpSending.arriving (sending : RlpSending) : List V110Frame :=
  ((List.finRange 4).filter sending.arrives).map sending.frame

/-- A frame that is handed on has the parts of an RLP frame that have arrived. -/
def RlpSending.Reported (sending : RlpSending) (rlpFrame : List UInt8) : Prop :=
  (∀ part, sending.arrives part = true →
    partOf (rlpBits rlpFrame) part = partOf sending.bits part) ∧
  ((∀ part, sending.arrives part = true) → rlpFrame = sending.bytes.toList)

/-- What is handed on with another frame. -/
theorem sent_append (frames : List V110Frame) (frame : V110Frame) :
    (afterFrames osmo (frames ++ [frame])).sent = (afterFrames osmo frames).sent ++
      if frame.decoded.rlpFsi = 3 then [rlpFrame osmo (latestParts (frames ++ [frame]))]
      else [] := by
  rw [afterFrames_append, frameBitsCb_sent, RlpReceiver.store_rlpFrameBits,
    afterFrames_rlpFrameBits, overwrite_latestParts]

/-- Nothing is handed on before the fourth frame. -/
theorem sent_append_of_ne (frames : List V110Frame)
    (earlier : ∀ frame ∈ frames, frame.decoded.rlpFsi ≠ 3) :
    (afterFrames osmo (history ++ frames)).sent = (afterFrames osmo history).sent := by
  induction frames using List.reverseRecOn with
  | nil => rw [List.append_nil]
  | append_singleton frames frame ih =>
      have before := ih fun other member => earlier other (List.mem_append_left _ member)
      rw [← List.append_assoc, sent_append,
        if_neg (earlier frame (List.mem_append_right _ List.mem_cons_self)), List.append_nil,
        before]

/-- The frames that arrive, with the fourth one apart. -/
theorem RlpSending.arriving_eq (sending : RlpSending) :
    sending.arriving = (([0, 1, 2] : List (Fin 4)).filter sending.arrives).map sending.frame ++
      if sending.arrives 3 then [sending.frame 3] else [] := by
  have parts : List.finRange 4 = ([0, 1, 2] : List (Fin 4)) ++ [3] := rfl
  rw [arriving, parts, List.filter_append, List.map_append]
  cases last : sending.arrives 3 <;> simp [last]

theorem RlpSending.frame_decoded (sending : RlpSending) (part : Fin 4) :
    (sending.frame part).decoded.dBits = partOf sending.bits part ∧
      (sending.frame part).decoded.rlpFsi = part.val :=
  rlpV110Frame_decoded (length_partOf sending.length_bits part)

/-- A part that arrives is the latest one. -/
theorem latestPart_frames (parts : List (Fin 4)) {part : Fin 4} (arrived : part ∈ parts) :
    latestPart (history ++ parts.map sending.frame) part.val = partOf sending.bits part := by
  induction parts using List.reverseRecOn with
  | nil => cases arrived
  | append_singleton parts last ih =>
      obtain ⟨dBits, rlpFsi⟩ := sending.frame_decoded last
      rw [List.map_append, List.map_singleton, ← List.append_assoc, latestPart_append, rlpFsi]
      split
      case isTrue same =>
          rw [dBits, Fin.ext same]
      case isFalse other =>
          refine ih ((List.mem_append.mp arrived).resolve_right fun here => other ?_)
          rw [List.mem_singleton.mp here]

/-- Each part has its place. -/
theorem partOf_latestParts (frames : List V110Frame) (part : Fin 4) :
    partOf (latestParts frames) part = latestPart frames part.val := by
  have place : ∀ before part' after : List Ubit, before.length = 60 * part.val →
      part'.length = 60 → partOf (before ++ (part' ++ after)) part = part' := by
    intro before part' after skipped sixty
    rw [partOf, ← skipped, List.drop_left, ← sixty, List.take_left]
  obtain ⟨index, bound⟩ := part
  simp only [latestParts, List.append_assoc]
  have which : index = 0 ∨ index = 1 ∨ index = 2 ∨ index = 3 := by omega
  rcases which with rfl | rfl | rfl | rfl
  · have first := place [] (latestPart frames 0)
      (latestPart frames 1 ++ (latestPart frames 2 ++ latestPart frames 3)) rfl (by simp)
    exact first
  · exact place (latestPart frames 0) _ _ (by simp) (by simp)
  · rw [← List.append_assoc]
    exact place (latestPart frames 0 ++ latestPart frames 1) _ _ (by simp) (by simp)
  · have last := place (latestPart frames 0 ++ latestPart frames 1 ++ latestPart frames 2)
      (latestPart frames 3) [] (by simp) (by simp)
    simpa only [List.append_assoc, List.append_nil] using last

/-- The parts of an RLP frame are the whole. -/
theorem eq_of_partOf {first second : List Ubit} (length : first.length = 240)
    (length' : second.length = 240) (parts : ∀ part, partOf first part = partOf second part) :
    first = second := by
  have split : ∀ {bits : List Ubit}, bits.length = 240 →
      bits = partOf bits 0 ++ partOf bits 1 ++ partOf bits 2 ++ partOf bits 3 := by
    intro bits length
    have join : ∀ (first : Nat), bits.take first ++ (bits.drop first).take 60 =
        bits.take (first + 60) := fun first => List.take_add.symm
    change bits = (bits.drop 0).take 60 ++ (bits.drop 60).take 60 ++ (bits.drop 120).take 60 ++
      (bits.drop 180).take 60
    rw [List.drop_zero, join, join, join, List.take_of_length_le (Nat.le_of_eq length)]
  rw [split length, split length', parts 0, parts 1, parts 2, parts 3]

/-- **One RLP frame**, after any frames. -/
theorem rlp_sending_received (packs : osmo.Packs) (history : List V110Frame)
    (sending : RlpSending) :
    ∃ reported, (afterFrames osmo (history ++ sending.arriving)).sent =
        (afterFrames osmo history).sent ++ reported ∧
      List.Forall₂ RlpSending.Reported (if sending.arrives 3 then [sending] else []) reported := by
  let earlier := (([0, 1, 2] : List (Fin 4)).filter sending.arrives).map sending.frame
  have quiet : (afterFrames osmo (history ++ earlier)).sent =
      (afterFrames osmo history).sent := by
    refine sent_append_of_ne earlier fun frame member => ?_
    obtain ⟨part, among, rfl⟩ := List.mem_map.mp member
    rw [(sending.frame_decoded part).2]
    have before : ∀ part ∈ ([0, 1, 2] : List (Fin 4)), part.val ≠ 3 := by decide
    exact before part (List.mem_filter.mp among).1
  have arriving := sending.arriving_eq
  cases last : sending.arrives 3 with
  | false =>
      rw [last, if_neg Bool.false_ne_true, List.append_nil] at arriving
      exact ⟨[], by rw [arriving, List.append_nil]; exact quiet, .nil⟩
  | true =>
      rw [last, if_pos rfl] at arriving
      have frames : history ++ sending.arriving = history ++ earlier ++ [sending.frame 3] := by
        rw [arriving, List.append_assoc]
      have latest : ∀ part, sending.arrives part = true →
          latestPart (history ++ sending.arriving) part.val = partOf sending.bits part :=
        fun part arrived =>
          latestPart_frames _ (List.mem_filter.mpr ⟨List.mem_finRange part, arrived⟩)
      have length : (latestParts (history ++ sending.arriving)).length = 8 * 30 := by
        simp [latestParts]
      have unpacked := rlpBits_rlpFrame packs length
      refine ⟨[rlpFrame osmo (latestParts (history ++ sending.arriving))], ?_,
        .cons ⟨?_, ?_⟩ .nil⟩
      · have fourth : (sending.frame 3).decoded.rlpFsi = 3 := (sending.frame_decoded 3).2
        rw [frames, sent_append, if_pos fourth, quiet]
      · intro part arrived
        rw [unpacked, partOf_latestParts, latest part arrived]
      · intro all
        have whole : latestParts (history ++ sending.arriving) = sending.bits := by
          refine eq_of_partOf length sending.length_bits fun part => ?_
          rw [partOf_latestParts, latest part (all part)]
        rw [whole, RlpSending.bits, rlpFrame_rlpBits packs]

/-- **A stream of RLP frames is received.** After any V.110 frames and with any losses, the
receiver hands on one frame for each RLP frame whose fourth V.110 frame arrives, in their
order. The parts that have arrived are right, and a frame of which all parts have arrived is
unaltered. -/
theorem rlp_stream_received (packs : osmo.Packs) (history : List V110Frame)
    (sendings : List RlpSending) :
    ∃ reported, (afterFrames osmo (history ++ sendings.flatMap (·.arriving))).sent =
        (afterFrames osmo history).sent ++ reported ∧
      List.Forall₂ RlpSending.Reported (sendings.filter (·.arrives 3)) reported := by
  induction sendings using List.reverseRecOn with
  | nil => exact ⟨[], by simp, .nil⟩
  | append_singleton sendings sending ih =>
      obtain ⟨reported, sent, right⟩ := ih
      obtain ⟨last, sent', right'⟩ :=
        rlp_sending_received packs (history ++ sendings.flatMap (·.arriving)) sending
      refine ⟨reported ++ last, ?_, ?_⟩
      · rw [List.flatMap_append, List.flatMap_singleton, ← List.append_assoc, sent', sent,
          List.append_assoc]
      · rw [List.filter_append, List.filter_singleton, Bool.cond_eq_ite]
        exact List.rel_append right right'

end Stream

/-- An RLP frame of equal bytes in V.110 frames whose other bits are ones. -/
def uniformSending (byte : UInt8) (arrives : Fin 4 → Bool) : RlpSending where
  bytes := .replicate 30 byte
  other _ := ⟨.replicate 8 true, fun _ => true, true⟩
  arrives

/-- Of the second RLP frame the third V.110 frame is lost. -/
theorem rlp_stream_received_lost :
    ∃ reported, (afterFrames .plain ([] ++ [uniformSending 0x35 fun _ => true,
          uniformSending 0xC1 (· ≠ 2)].flatMap (·.arriving))).sent =
        (afterFrames .plain []).sent ++ reported ∧
      List.Forall₂ RlpSending.Reported ([uniformSending 0x35 fun _ => true,
        uniformSending 0xC1 (· ≠ 2)].filter (·.arrives 3)) reported :=
  rlp_stream_received Osmo.packs_plain [] _

end IsdnRas.V110
