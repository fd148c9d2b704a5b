import Mathlib.Data.List.GetD
import IsdnRas.Ppp.Pppd

/-!
# The transmit buffer of pppd

The encoder writes the indices below its final position one after the other, and
the position is the number of bytes in the frame: the two flags, the packet, its
checksum, and one byte more for every byte that is escaped
(`pppdRfc1662Encode_eq`). Nothing compares it with the size of `pppd_tx_buf`. The
writes stay inside the buffer exactly when the frame fits (`encode_inside_iff`),
and a packet of 2045 bytes never does.
-/

set_option autoImplicit false

namespace IsdnRas.Ppp

/-! ## What the encoder writes -/

/-- The two bytes of the checksum, the low one first. -/
def fcsBytes (rawIn : Bytes) : Bytes :=
  [(pppdRfc1662Checksum rawIn &&& 0xFF).toUInt8,
    ((pppdRfc1662Checksum rawIn >>> 8) &&& 0xFF).toUInt8]

/-- The bytes that stand for one byte in a frame. -/
def stuffed (e : UInt8) : Bytes := if needsEscape e then [pppEscape, e ^^^ 0x20] else [e]

/-- The frame of a packet. -/
def framed (rawIn : Bytes) : Bytes :=
  pppFlag :: ((rawIn ++ fcsBytes rawIn).flatMap stuffed ++ [pppFlag])

def HdlcOut.puts (hdlcOut : HdlcOut) (bytes : Bytes) : HdlcOut := bytes.foldl HdlcOut.put hdlcOut

theorem HdlcOut.putEscaped_eq (hdlcOut : HdlcOut) (e : UInt8) :
    hdlcOut.putEscaped e = hdlcOut.puts (stuffed e) := by
  unfold HdlcOut.putEscaped stuffed
  split <;> rfl

theorem HdlcOut.puts_append (hdlcOut : HdlcOut) (first second : Bytes) :
    hdlcOut.puts (first ++ second) = (hdlcOut.puts first).puts second := List.foldl_append

/-- Writes advance the position one by one. -/
theorem HdlcOut.puts_eq (bytes : Bytes) : ∀ hdlcOut : HdlcOut, hdlcOut.puts bytes =
    ⟨hdlcOut.pos + bytes.length,
      hdlcOut.writes ++ (List.range' hdlcOut.pos bytes.length).zip bytes⟩ := by
  induction bytes with
  | nil =>
      intro hdlcOut
      simp [HdlcOut.puts]
  | cons byte rest ih =>
      intro hdlcOut
      have later := ih (hdlcOut.put byte)
      rw [HdlcOut.puts] at later
      rw [HdlcOut.puts, List.foldl_cons, later]
      simp only [HdlcOut.put, List.length_cons, List.range'_succ, List.zip_cons_cons,
        List.append_assoc, List.singleton_append, HdlcOut.mk.injEq, and_true]
      omega

/-- The byte of a round is the byte of the packet and its checksum. -/
theorem encodeByte_eq (rawIn : Bytes) (e : UInt8) {x : Nat} (bound : x < rawIn.length + 2) :
    encodeByte rawIn (pppdRfc1662Checksum rawIn) e x = (rawIn ++ fcsBytes rawIn).getD x 0 := by
  unfold encodeByte
  by_cases data : x < rawIn.length
  · rw [if_pos data, List.getD_append _ _ _ _ data]
  · rw [if_neg data, List.getD_append_right _ _ _ _ (by omega)]
    obtain rfl | rfl : x = rawIn.length ∨ x = rawIn.length + 1 := by omega
    · simp [fcsBytes]
    · simp [fcsBytes]

/-- The rounds write the stuffed bytes. -/
theorem foldl_encodeRound (rawIn : Bytes) : ∀ (k : Nat) (state : UInt8 × HdlcOut),
    k ≤ rawIn.length + 2 →
      ((List.range k).foldl (encodeRound rawIn (pppdRfc1662Checksum rawIn)) state).2 =
        state.2.puts (((rawIn ++ fcsBytes rawIn).take k).flatMap stuffed) := by
  intro k
  induction k with
  | zero =>
      intro state _
      rfl
  | succ k ih =>
      intro state bound
      have inside : k < (rawIn ++ fcsBytes rawIn).length := by
        rw [List.length_append]
        exact bound
      rw [List.range_succ, List.foldl_append, List.foldl_cons, List.foldl_nil, encodeRound,
        encodeByte_eq rawIn _ (by omega), ih state (by omega), HdlcOut.putEscaped_eq,
        ← HdlcOut.puts_append, List.take_succ_eq_append_getElem inside, List.flatMap_append,
        List.getD_eq_getElem _ _ inside, List.flatMap_singleton]

/-- **The encoder writes the frame**, one byte after the other from index zero. -/
theorem pppdRfc1662Encode_eq (rawIn : Bytes) : pppdRfc1662Encode rawIn =
    ⟨(framed rawIn).length, (List.range' 0 (framed rawIn).length).zip (framed rawIn)⟩ := by
  have whole : (rawIn ++ fcsBytes rawIn).take (rawIn.length + 2) = rawIn ++ fcsBytes rawIn :=
    List.take_of_length_le (Nat.le_of_eq (List.length_append ..))
  have rounds := foldl_encodeRound rawIn (rawIn.length + 2) (0, HdlcOut.put ⟨0, []⟩ pppFlag)
    (Nat.le_refl _)
  rw [whole] at rounds
  have puts : pppdRfc1662Encode rawIn = HdlcOut.puts ⟨0, []⟩ (framed rawIn) := by
    rw [pppdRfc1662Encode, rounds]
    exact (HdlcOut.puts_append (HdlcOut.put ⟨0, []⟩ pppFlag) _ [pppFlag]).symm
  rw [puts, HdlcOut.puts_eq, Nat.zero_add, List.nil_append]

/-- A byte is written at every index below the position, and at no other. -/
theorem mem_indices_iff (rawIn : Bytes) (index : Nat) :
    (∃ byte, (index, byte) ∈ (pppdRfc1662Encode rawIn).writes) ↔
      index < (framed rawIn).length := by
  rw [pppdRfc1662Encode_eq]
  constructor
  · rintro ⟨byte, member⟩
    have low := (List.of_mem_zip member).1
    rw [List.mem_range'_1] at low
    omega
  · intro bound
    refine ⟨(framed rawIn)[index], List.mem_iff_getElem?.mpr ⟨index, ?_⟩⟩
    rw [List.getElem?_zip_eq_some]
    simp [bound]

/-- The number of bytes in a frame. -/
theorem length_framed (rawIn : Bytes) : (framed rawIn).length =
    rawIn.length + 4 + (rawIn ++ fcsBytes rawIn).countP needsEscape := by
  have stuffing : ∀ bytes : Bytes,
      (bytes.flatMap stuffed).length = bytes.length + bytes.countP needsEscape := by
    intro bytes
    induction bytes with
    | nil => rfl
    | cons byte rest ih =>
        rw [List.flatMap_cons, List.length_append, ih, List.length_cons, List.countP_cons, stuffed]
        split <;> simp only [List.length_cons, List.length_nil, *] <;> simp <;> omega
  rw [framed, List.length_cons, List.length_append, stuffing, List.length_append,
    List.length_singleton]
  change rawIn.length + 2 + _ + 1 + 1 = _
  omega

/-! ## The bound -/

/-- **The writes stay inside `pppd_tx_buf` exactly when the frame fits**: the
packet, four bytes for the flags and the checksum, and one byte for every escaped
byte of the packet and of its checksum. -/
theorem encode_inside_iff (buf : Bytes) :
    (∀ write ∈ (pppdInputRawPacket buf).writes, write.1 < maxMtu) ↔
      buf.length + 4 + (buf ++ fcsBytes buf).countP needsEscape ≤ maxMtu := by
  rw [← length_framed]
  constructor
  · intro inside
    by_contra beyond
    obtain ⟨byte, member⟩ := (mem_indices_iff buf maxMtu).mpr (by omega)
    exact Nat.lt_irrefl _ (inside _ member)
  · intro fits write member
    exact Nat.lt_of_lt_of_le ((mem_indices_iff buf write.1).mp ⟨write.2, member⟩) fits

/-- **A long packet is written past the end** of `pppd_tx_buf`: the line may hand
over 2045 bytes, and their frame has at least 2049. -/
theorem encode_overruns :
    1 ≤ (List.replicate 2045 (0x41 : UInt8)).length ∧
      (List.replicate 2045 (0x41 : UInt8)).length ≤ hdlcRxBufSize - 5 ∧
      ∃ write ∈ (pppdInputRawPacket (List.replicate 2045 0x41)).writes, write.1 = maxMtu := by
  refine ⟨by rw [List.length_replicate]; decide, by rw [List.length_replicate]; decide, ?_⟩
  obtain ⟨byte, member⟩ := (mem_indices_iff (List.replicate 2045 0x41) maxMtu).mpr (by
    rw [length_framed, List.length_replicate, maxMtu]
    omega)
  exact ⟨_, member, rfl⟩

end IsdnRas.Ppp
