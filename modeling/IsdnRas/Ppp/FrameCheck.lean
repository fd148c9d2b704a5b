import IsdnRas.Ppp.FrameRoundTrip

/-!
# The checksum of a received frame

The decoder drops the last two bytes of a frame without looking at them
(`dropped_unchecked`). They are the checksum of the packet exactly when the running FCS
over the frame ends at its good value (`checksum_iff`): two lookups lead from any value to
the good one in a single way, since each high byte occurs once in the table.
-/

set_option autoImplicit false

namespace IsdnRas.Ppp

/-! ## The good value of the FCS -/

/-- The byte that is looked up determines the byte of the message. -/
theorem lookup_injective {fcs : UInt16} {first second : UInt8}
    (same : (fcs ^^^ first.toUInt16) &&& 0xff = (fcs ^^^ second.toUInt16) &&& 0xff) :
    first = second := by
  apply UInt8.toBitVec_inj.mp
  apply BitVec.eq_of_getElem_eq
  intro index bound
  have bit := congrArg (fun word : UInt16 => word.toBitVec.getLsbD index) same
  simp only [UInt16.toBitVec_and, UInt16.toBitVec_xor, UInt8.toBitVec_toUInt16] at bit
  interval_cases index <;> simpa using bit

/-- Two high bytes that occur once in the table. -/
theorem table_highs : ∀ entry ∈ pppCrc16Table.zipIdx,
    (entry.1 >>> (8 : UInt16) = 0xf0 → entry.2 = 0x87) ∧
      (entry.1 >>> (8 : UInt16) = 0x0f → entry.2 = 0xff) := by decide +kernel

theorem lookup_high (index : Fin 256) :
    (pppCrc16Table.getD index 0 >>> (8 : UInt16) = 0xf0 → index = 0x87) ∧
      (pppCrc16Table.getD index 0 >>> (8 : UInt16) = 0x0f → index = 0xff) := by
  have entries : pppCrc16Table.length = 256 := by decide +kernel
  have bound : index.val < pppCrc16Table.length := Nat.lt_of_lt_of_eq index.isLt entries.symm
  have member : (pppCrc16Table.getD index 0, index.val) ∈ pppCrc16Table.zipIdx := by
    rw [List.mk_mem_zipIdx_iff_getElem?, List.getElem?_eq_getElem bound,
      List.getD_eq_getElem _ _ bound]
  have highs := table_highs _ member
  exact ⟨fun high => Fin.ext (highs.1 high), fun high => Fin.ext (highs.2 high)⟩

/-- The index of a lookup. -/
def lookupIndex (fcs : UInt16) (c : UInt8) : Fin 256 :=
  ⟨((fcs ^^^ c.toUInt16) &&& 0xff).toNat, by
    rw [UInt16.toNat_and]
    exact Nat.lt_succ_of_le Nat.and_le_right⟩

theorem pppFcs_eq (fcs : UInt16) (c : UInt8) :
    pppFcs fcs c = (fcs >>> (8 : UInt16)) ^^^ pppCrc16Table.getD (lookupIndex fcs c) 0 := rfl

/-- The high byte of the FCS is the one of the table. -/
theorem high_pppFcs (fcs : UInt16) (c : UInt8) :
    pppFcs fcs c >>> (8 : UInt16) =
      pppCrc16Table.getD (lookupIndex fcs c) 0 >>> (8 : UInt16) := by
  rw [pppFcs_eq, shift_xor_shift]

theorem lookupIndex_injective {fcs : UInt16} {first second : UInt8}
    (same : lookupIndex fcs first = lookupIndex fcs second) : first = second := by
  have value := congrArg Fin.val same
  exact lookup_injective (UInt16.toNat_inj.mp value)

/-- Two bytes lead to the good value by one pair of lookups. -/
theorem lookups_of_good {fcs : UInt16} {low high : UInt8}
    (good : pppFcs (pppFcs fcs low) high = pppGoodfcs) :
    lookupIndex fcs low = 0xff ∧ lookupIndex (pppFcs fcs low) high = 0x87 := by
  have last : lookupIndex (pppFcs fcs low) high = 0x87 := by
    apply (lookup_high _).1
    rw [← high_pppFcs, good]
    rfl
  refine ⟨(lookup_high _).2 ?_, last⟩
  have entry : pppCrc16Table.getD (0x87 : Fin 256) 0 = 0xf0b7 := rfl
  have sum := good
  rw [pppFcs_eq, last, entry] at sum
  have shifted := congrArg (· ^^^ (0xf0b7 : UInt16)) sum
  simp only [UInt16.xor_assoc, UInt16.xor_self, UInt16.xor_zero] at shifted
  rw [← high_pppFcs, shifted]
  rfl

/-- **The two bytes that lead to the good value** are the complement of the FCS. -/
theorem good_iff {fcs : UInt16} {low high : UInt8} :
    pppFcs (pppFcs fcs low) high = pppGoodfcs ↔
      low = ((fcs ^^^ 0xffff) &&& 0xff).toUInt8 ∧
        high = (((fcs ^^^ 0xffff) >>> (8 : UInt16)) &&& 0xff).toUInt8 := by
  constructor
  · intro good
    obtain ⟨first, second⟩ := lookups_of_good good
    obtain ⟨first', second'⟩ := lookups_of_good (pppFcs_complement fcs)
    obtain rfl := lookupIndex_injective (first.trans first'.symm)
    exact ⟨rfl, lookupIndex_injective (second.trans second'.symm)⟩
  · rintro ⟨rfl, rfl⟩
    exact pppFcs_complement fcs

/-- The running FCS tells the checksum of a packet from any other two bytes. -/
theorem checksum_iff (packet : Bytes) {fcs : Bytes} (two : fcs.length = 2) :
    (packet ++ fcs).foldl pppFcs pppInitfcs = pppGoodfcs ↔ fcs = fcsBytes packet := by
  obtain ⟨low, high, rfl⟩ := List.length_eq_two.mp two
  rw [List.foldl_append]
  change pppFcs (pppFcs (packet.foldl pppFcs pppInitfcs) low) high = pppGoodfcs ↔ _
  rw [good_iff]
  constructor
  · rintro ⟨rfl, rfl⟩
    rfl
  · intro same
    obtain ⟨rfl, rest⟩ := List.cons.inj same
    exact ⟨rfl, (List.cons.inj rest).1⟩

/-! ## What the decoder checks -/

/-- A state and a buffer that calls of the decoder have led to, also through frames that
were too long. -/
inductive DecoderReached (dsize : Nat) : Rfc1662Vars → Bytes → Prop where
  | idle {dst : Bytes} (room : dsize ≤ dst.length) : DecoderReached dsize ⟨0, 0⟩ dst
  | call {state : Rfc1662Vars} {dst : Bytes} (reached : DecoderReached dsize state dst)
      (src : Bytes) (count : Nat) :
      DecoderReached dsize (pppdRfc1662Decode state src count dst dsize).state
        (pppdRfc1662Decode state src count dst dsize).dst

section Reached

variable {dsize : Nat} {openFrame : OpenFrame} {state : Rfc1662Vars} {dst : Bytes}

/-- Every call leaves an open frame. -/
theorem CallOutcome.stores {i count : Nat} {src : Bytes} {decoded : Decoded}
    (outcome : CallOutcome dsize openFrame i count src decoded) :
    ∃ next, Stores dsize next decoded.state decoded.dst := by
  cases outcome with
  | ran _ stores => exact ⟨_, stores⟩
  | closed _ _ _ _ _ _ room => exact ⟨.idle, stores_idle room⟩
  | tooLong _ _ _ stores => exact ⟨_, stores⟩

theorem DecoderReached.stores (reached : DecoderReached dsize state dst) :
    ∃ openFrame, Stores dsize openFrame state dst := by
  induction reached with
  | idle room => exact ⟨.idle, stores_idle room⟩
  | call _ src count ih =>
      obtain ⟨openFrame, stores⟩ := ih
      exact (callOutcome_decode src 0 count stores).stores

/-- A whole frame in one call, whatever its last two bytes are. -/
theorem decode_frameOf {packet fcs : Bytes} (nonempty : packet ≠ []) (two : fcs.length = 2)
    (fits : packet.length + 2 ≤ dsize) (room : dsize ≤ dst.length) :
    (pppdRfc1662Decode ⟨0, 0⟩ (frameOf (packet ++ fcs)) 0 dst dsize).rv = packet.length ∧
      (pppdRfc1662Decode ⟨0, 0⟩ (frameOf (packet ++ fcs)) 0 dst dsize).dst.take packet.length =
        packet := by
  have positive := List.length_pos_iff.mpr nonempty
  have length : (packet ++ fcs).length = packet.length + 2 := by rw [List.length_append, two]
  have within : (packet ++ fcs).length ≤ dsize := length.trans_le fits
  have whole : frameOf (packet ++ fcs) = [] ++ frameOf (packet ++ fcs) := rfl
  obtain ⟨rv, -, -, symbols⟩ := call_closes_frame within (by omega) whole (feed_nil ..)
    (stores_idle room) 0
  refine ⟨?_, ?_⟩
  · rw [rv, length, Nat.add_sub_cancel]
  · have first := congrArg (List.take packet.length) symbols
    rwa [List.take_take, length, Nat.min_eq_left (Nat.le_add_right ..), List.take_left] at first

/-- **The last two bytes of a frame are dropped unchecked.** When a call returns a packet,
it has stopped at a flag, and the frame is the packet and two more bytes in the buffer.
They are the checksum of the packet exactly when the running FCS over the frame ends at
its good value; the decoder returns the same packet for any other two bytes. -/
theorem dropped_unchecked {src : Bytes} {count n : Nat}
    (reached : DecoderReached dsize state dst)
    (returned : (pppdRfc1662Decode state src count dst dsize).rv = (n : Int))
    (positive : 0 < n) :
    ∃ packet dropped,
      (pppdRfc1662Decode state src count dst dsize).dst.take (n + 2) = packet ++ dropped ∧
      packet.length = n ∧ dropped.length = 2 ∧ n + 2 ≤ dsize ∧
      src[(pppdRfc1662Decode state src count dst dsize).count]? = some pppFlag ∧
      ((packet ++ dropped).foldl pppFcs pppInitfcs = pppGoodfcs ↔ dropped = fcsBytes packet) ∧
      ∀ other dst' : Bytes, other.length = 2 → dsize ≤ dst'.length →
        (pppdRfc1662Decode ⟨0, 0⟩ (frameOf (packet ++ other)) 0 dst' dsize).rv = (n : Int) ∧
        (pppdRfc1662Decode ⟨0, 0⟩ (frameOf (packet ++ other)) 0 dst' dsize).dst.take n =
          packet := by
  obtain ⟨openFrame, stores⟩ := reached.stores
  have outcome := callOutcome_decode src 0 count stores
  rw [pppdRfc1662Decode] at returned ⊢
  generalize pppdRfc1662DecodeLoop dsize 0 state dst count src = decoded at outcome returned
  cases outcome with
  | ran => exact absurd (Int.natCast_inj.mp returned) (Nat.ne_of_lt positive)
  | @closed before first rest final cut fed clear two within symbols room =>
      have size : before.symbols.length - 2 = n := Int.natCast_inj.mp returned
      have length : n + 2 = before.symbols.length := by omega
      have packet_length : (before.symbols.take n).length = n :=
        List.length_take_of_le (by omega)
      have dropped_length : (before.symbols.drop n).length = 2 := by
        rw [List.length_drop]
        omega
      have fits : n + 2 ≤ dsize := length.trans_le within
      refine ⟨before.symbols.take n, before.symbols.drop n, ?_, packet_length, dropped_length,
        fits, ?_, checksum_iff _ dropped_length, ?_⟩
      · rw [length, symbols, List.take_append_drop]
      · simp [cut]
      · intro other dst' other_two room'
        have nonempty : before.symbols.take n ≠ [] :=
          List.length_pos_iff.mp (by omega)
        have again := @decode_frameOf dsize dst' _ other nonempty other_two
          (by rw [packet_length]; exact fits) room'
        rwa [packet_length] at again
  | tooLong =>
      have negative : -einval = (n : Int) := returned
      unfold einval at negative
      omega

end Reached

/-- A packet whose frame comes in two pieces. -/
theorem dropped_in_two_pieces :
    ∃ packet dropped : Bytes, [0x41, 0xf5, 0xa3] = packet ++ dropped ∧ packet.length = 1 ∧
      dropped.length = 2 ∧ 1 + 2 ≤ 4 ∧ ([0xf5, 0xa3, 0x7e] : Bytes)[2]? = some pppFlag ∧
      ((packet ++ dropped).foldl pppFcs pppInitfcs = pppGoodfcs ↔ dropped = fcsBytes packet) ∧
      ∀ other dst' : Bytes, other.length = 2 → 4 ≤ dst'.length →
        (pppdRfc1662Decode ⟨0, 0⟩ (frameOf (packet ++ other)) 0 dst' 4).rv = ((1 : Nat) : Int) ∧
        (pppdRfc1662Decode ⟨0, 0⟩ (frameOf (packet ++ other)) 0 dst' 4).dst.take 1 = packet :=
  have reached : DecoderReached 4 ⟨1, 0⟩ [0x41, 0, 0, 0] :=
    @DecoderReached.call 4 ⟨0, 0⟩ [0, 0, 0, 0] (.idle (by decide)) [0x7e, 0x41] 0
  @dropped_unchecked 4 ⟨1, 0⟩ [0x41, 0, 0, 0] [0xf5, 0xa3, 0x7e] 0 1 reached rfl (by decide)

/-- **A damaged frame is passed on.** Its two last bytes are zero, which is not the
checksum of the packet. -/
theorem damaged_frame_passed_on :
    let decoded := pppdRfc1662Decode ⟨0, 0⟩ [0x7e, 0x41, 0, 0, 0x7e] 0 [0, 0, 0, 0] 4
    DecoderReached 4 ⟨0, 0⟩ [0, 0, 0, 0] ∧ decoded.rv = 1 ∧ decoded.dst.take 3 = [0x41] ++ [0, 0] ∧
      fcsBytes [0x41] ≠ [0, 0] ∧
      ([0x41] ++ [0, 0] : Bytes).foldl pppFcs pppInitfcs ≠ pppGoodfcs :=
  ⟨.idle (by decide), rfl, rfl, by decide, by decide⟩

end IsdnRas.Ppp
