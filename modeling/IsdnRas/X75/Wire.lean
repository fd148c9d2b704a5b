import Mathlib.Tactic.IntervalCases
import IsdnRas.X75.Events

/-!
# Control fields on the wire

What the receiver reads from the control fields that the sender builds. N(R)
occupies the three high bits of a standard control byte and the seven high bits
of the second extended one, so the other bits never reach it. The format bits
and the poll bit are read back as they were put in.
-/

set_option autoImplicit false

namespace IsdnRas.X75

/-! ## N(R) on the wire -/

/-- The five low bits of a shifted byte do not reach its three high bits. -/
theorem nr_standard (control : UInt8) (low : control.toNat < 32) (vr : Nat) :
    ((control ||| UInt8.ofNat (vr <<< 5)) >>> 5 &&& 0x07).toNat = vr % 8 := by
  have bits : (UInt8.ofNat (vr <<< 5)).toNat = 32 * (vr % 8) := by
    rw [UInt8.toNat_ofNat', Nat.shiftLeft_eq]
    omega
  have sum : (control ||| UInt8.ofNat (vr <<< 5)).toNat = 32 * (vr % 8) + control.toNat := by
    rw [UInt8.toNat_or, bits, Nat.or_comm]
    exact (Nat.two_pow_add_eq_or_of_lt (i := 5) (by simpa using low) (vr % 8)).symm
  rw [UInt8.toNat_and, UInt8.toNat_shiftRight, sum]
  change (32 * (vr % 8) + control.toNat) >>> 5 &&& 7 = vr % 8
  rw [Nat.shiftRight_eq_div_pow, Nat.and_two_pow_sub_one_eq_mod _ 3]
  omega

theorem nr_extended (flag : UInt8) (low : flag.toNat < 2) (vr : Nat) :
    ((UInt8.ofNat (vr <<< 1) ||| flag) >>> 1 &&& 0x7F).toNat = vr % 128 := by
  have bits : (UInt8.ofNat (vr <<< 1)).toNat = 2 * (vr % 128) := by
    rw [UInt8.toNat_ofNat', Nat.shiftLeft_eq]
    omega
  have sum : (UInt8.ofNat (vr <<< 1) ||| flag).toNat = 2 * (vr % 128) + flag.toNat := by
    rw [UInt8.toNat_or, bits]
    exact (Nat.two_pow_add_eq_or_of_lt (i := 1) (by simpa using low) (vr % 128)).symm
  rw [UInt8.toNat_and, UInt8.toNat_shiftRight, sum]
  change (2 * (vr % 128) + flag.toNat) >>> 1 &&& 127 = vr % 128
  rw [Nat.shiftRight_eq_div_pow, Nat.and_two_pow_sub_one_eq_mod _ 7]
  omega

/-- A number shifted into the three high bits leaves the five low bits zero. -/
theorem shift_five_and (vr : Nat) {mask : UInt8} (low : 0x1F &&& mask = mask) :
    UInt8.ofNat (vr <<< 5) &&& mask = 0 := by
  have zero : UInt8.ofNat (vr <<< 5) &&& 0x1F = 0 := by
    apply UInt8.toNat_inj.mp
    rw [UInt8.toNat_and, UInt8.toNat_ofNat', Nat.shiftLeft_eq]
    change vr * 32 % 2 ^ 8 &&& 2 ^ 5 - 1 = 0
    rw [Nat.and_two_pow_sub_one_eq_mod]
    omega
  rw [← low, ← UInt8.and_assoc, zero, UInt8.zero_and]

/-- A number shifted by one leaves the lowest bit zero. -/
theorem shift_one_and (vs : Nat) : UInt8.ofNat (vs <<< 1) &&& 0x01 = 0 := by
  apply UInt8.toNat_inj.mp
  rw [UInt8.toNat_and, UInt8.toNat_ofNat', Nat.shiftLeft_eq]
  change vs * 2 % 2 ^ 8 &&& 2 ^ 1 - 1 = 0
  rw [Nat.and_two_pow_sub_one_eq_mod]
  omega

/-- Reading the low bits of a standard control byte. -/
theorem standard_and (control : UInt8) (vr : Nat) (mask : UInt8) (low : 0x1F &&& mask = mask) :
    (control ||| UInt8.ofNat (vr <<< 5)) &&& mask = control &&& mask :=
  or_and_of_and_eq_zero (shift_five_and vr low)

/-! ## Supervisory frames -/

/-- The control bytes of the supervisory frames. -/
def IsSupervisory (frametype : UInt16) : Prop :=
  frametype = x75Rr ∨ frametype = x75Rnr ∨ frametype = x75Rej

/-- The poll bit of the standard control field. -/
def standardPoll (pollBit : UInt8) : UInt8 := if pollBit ≠ 0 then x75Spf else 0

/-- The poll bit of the extended control field. -/
def extendedPoll (pollBit : UInt8) : UInt8 := if pollBit ≠ 0 then x75Epf else 0

/-- What the low bits of a supervisory control byte say. -/
theorem supervisory_bits {frametype : UInt16} (supervisory : IsSupervisory frametype)
    (pollBit : UInt8) :
    let control := frametype.toUInt8 ||| standardPoll pollBit
    control.toNat < 32 ∧ control &&& x75S ≠ 0 ∧ control &&& x75U = 1 ∧
      (control &&& 0x0F).toUInt16 = frametype ∧ control &&& x75Spf = standardPoll pollBit := by
  unfold standardPoll
  rcases supervisory with rfl | rfl | rfl <;> split <;> decide

theorem supervisory_type {frametype : UInt16} (supervisory : IsSupervisory frametype) :
    frametype.toUInt8 &&& x75S ≠ 0 ∧ frametype.toUInt8 &&& x75U = 1 ∧
      (frametype.toUInt8 &&& 0x0F).toUInt16 = frametype := by
  rcases supervisory with rfl | rfl | rfl <;> decide

theorem extendedPoll_bits (pollBit : UInt8) :
    (extendedPoll pollBit).toNat < 2 ∧ extendedPoll pollBit &&& x75Epf = extendedPoll pollBit := by
  unfold extendedPoll
  split <;> decide

/-- Mode 7 reads the poll bit beside N(R). -/
theorem extendedPoll_and (vr : Nat) (pollBit : UInt8) :
    (UInt8.ofNat (vr <<< 1) ||| extendedPoll pollBit) &&& x75Epf = extendedPoll pollBit := by
  rw [UInt8.or_comm]
  exact (or_and_of_and_eq_zero (shift_one_and vr)).trans (extendedPoll_bits pollBit).2

theorem standardPoll_eq_zero_iff {pollBit : UInt8} : standardPoll pollBit = 0 ↔ pollBit = 0 := by
  unfold standardPoll
  split
  · simp_all [x75Spf]
  · simp_all

theorem extendedPoll_eq_zero_iff {pollBit : UInt8} : extendedPoll pollBit = 0 ↔ pollBit = 0 := by
  unfold extendedPoll
  split
  · simp_all [x75Epf]
  · simp_all

/-- The control field of a supervisory frame. -/
theorem controlField_supervisory (x75 : X75Cb) {frametype : UInt16}
    (supervisory : IsSupervisory frametype) (pollBit : UInt8) :
    controlField x75 frametype pollBit =
      if x75.extended then
        [frametype.toUInt8, UInt8.ofNat (x75.vr <<< 1) ||| extendedPoll pollBit]
      else [(frametype.toUInt8 ||| standardPoll pollBit) ||| UInt8.ofNat (x75.vr <<< 5)] := by
  have bits := (supervisory_type supervisory).2.1
  have notUnnumbered : ¬ frametype.toUInt8 &&& x75U = x75U := by
    rw [bits]
    decide
  have isSupervisory : frametype.toUInt8 &&& x75U = x75S := bits
  simp only [controlField, if_neg notUnnumbered, if_pos isSupervisory]
  rfl

/-- A supervisory frame has no payload and carries V(R) of its sender. -/
theorem supervisory_frame (x75 : X75Cb) {frametype : UInt16}
    (supervisory : IsSupervisory frametype) (pollBit addr : UInt8) :
    iframePayload x75.extended (addr :: controlField x75 frametype pollBit) = none ∧
      frameNr x75.extended (addr :: controlField x75 frametype pollBit) =
        some (x75.vr % x75.modulus) := by
  obtain ⟨low, odd, format, -⟩ := supervisory_bits supervisory pollBit
  obtain ⟨odd', format', -⟩ := supervisory_type supervisory
  rw [controlField_supervisory x75 supervisory]
  cases ext : x75.extended with
  | true =>
      have notUnnumbered : ¬ frametype.toUInt8 &&& x75U = 3 := by
        rw [format']
        decide
      simp only [if_true, iframePayload, if_neg odd', frameNr, if_neg notUnnumbered,
        List.head?_cons, Option.map_some, nr_extended _ (extendedPoll_bits pollBit).1,
        X75Cb.modulus, modulusOf, ext, x75Emodulus, and_self]
  | false =>
      have readS :=
        standard_and (frametype.toUInt8 ||| standardPoll pollBit) x75.vr x75S (by decide)
      have readU :=
        standard_and (frametype.toUInt8 ||| standardPoll pollBit) x75.vr x75U (by decide)
      have notUnnumbered : ¬ (frametype.toUInt8 ||| standardPoll pollBit) &&& x75U = 3 := by
        rw [format]
        decide
      simp only [Bool.false_eq_true, if_false, iframePayload, readS, if_neg odd, frameNr, readU,
        if_neg notUnnumbered, nr_standard _ low, X75Cb.modulus, modulusOf, ext, x75Smodulus,
        and_self]

/-- What a receiver in the same mode decodes from a supervisory frame. -/
theorem decode_supervisory (receiver sender : X75Cb) {frametype : UInt16}
    (supervisory : IsSupervisory frametype) (pollBit addr : UInt8) (stack : X75Frame)
    (same : receiver.extended = sender.extended) :
    ∃ frame, x75Decode receiver (addr :: controlField sender frametype pollBit) stack =
        some (frame, []) ∧ frame.type = frametype ∧ frame.nr = sender.vr % sender.modulus ∧
      (frame.pf = 0 ↔ pollBit = 0) ∧ frame.cr = x75DecodeCr receiver addr stack.cr := by
  obtain ⟨low, odd, format, type, poll⟩ := supervisory_bits supervisory pollBit
  obtain ⟨odd', format', type'⟩ := supervisory_type supervisory
  rw [controlField_supervisory sender supervisory]
  cases ext : sender.extended with
  | true =>
      rw [ext] at same
      have flag := (extendedPoll_bits pollBit).1
      refine ⟨_, by simp only [x75Decode, same, if_true, odd', if_false, format']; rfl,
        type', ?_, ?_, rfl⟩
      · simpa [modulusOf, ext, x75Emodulus] using nr_extended _ flag sender.vr
      · simp only [extendedPoll_and]
        exact extendedPoll_eq_zero_iff
  | false =>
      rw [ext] at same
      have read := fun mask inside =>
        standard_and (frametype.toUInt8 ||| standardPoll pollBit) sender.vr mask inside
      refine ⟨_, by
        simp only [x75Decode, same, Bool.false_eq_true, if_false, read x75S (by decide), odd,
          read x75U (by decide), format, if_true]
        rfl, ?_, ?_, ?_, rfl⟩
      · simp only [read 0x0F (by decide)]
        exact type
      · simpa [modulusOf, ext, x75Smodulus] using nr_standard _ low sender.vr
      · simp only [read x75Spf (by decide), poll]
        exact standardPoll_eq_zero_iff

/-! ## I-frames -/

/-- The control bytes of an I-frame, with the poll bit first. -/
theorem iframeField_eq (x75 : X75Cb) (skb : Bytes) (pollBit : UInt8) :
    iframeField x75 skb pollBit =
      if x75.extended then
        UInt8.ofNat (x75.vs <<< 1) ::
          (UInt8.ofNat (x75.vr <<< 1) ||| extendedPoll pollBit) :: skb
      else
        ((standardPoll pollBit ||| UInt8.ofNat (x75.vs <<< 1)) ||| UInt8.ofNat (x75.vr <<< 5)) ::
          skb := by
  have zero : ∀ byte : UInt8, x75I.toUInt8 ||| byte = byte := fun byte => UInt8.zero_or
  rw [iframeField]
  simp only [zero]
  cases ext : x75.extended with
  | true =>
      simp only [if_true]
      rw [UInt8.or_comm]
      rfl
  | false =>
      simp only [Bool.false_eq_true, if_false]
      rw [UInt8.or_assoc, UInt8.or_comm (UInt8.ofNat (x75.vr <<< 5)), ← UInt8.or_assoc]
      rfl

/-- An I-frame without the poll bit carries its payload, whatever its numbers. -/
theorem iframePayload_iframe (x75 : X75Cb) (skb : Bytes) (addr : UInt8) :
    iframePayload x75.extended (addr :: iframeField x75 skb x75Polloff) = some skb := by
  have even : UInt8.ofNat (x75.vs <<< 1) &&& x75S = 0 := shift_one_and x75.vs
  rw [iframeField_eq]
  cases ext : x75.extended with
  | true => simp only [if_true, iframePayload, if_pos even, List.drop_succ_cons, List.drop_zero]
  | false =>
      have zero : standardPoll x75Polloff ||| UInt8.ofNat (x75.vs <<< 1) =
          UInt8.ofNat (x75.vs <<< 1) := UInt8.zero_or
      have control : (UInt8.ofNat (x75.vs <<< 1) ||| UInt8.ofNat (x75.vr <<< 5)) &&& x75S = 0 :=
        (standard_and (UInt8.ofNat (x75.vs <<< 1)) x75.vr x75S (by decide)).trans even
      simp only [Bool.false_eq_true, if_false, zero, iframePayload, if_pos control]

/-- The low bits of a standard I-frame control byte, for N(S) below the
modulus. -/
theorem iframe_bits {vs : Nat} (vs_lt : vs < 8) (pollBit : UInt8) :
    let control := standardPoll pollBit ||| UInt8.ofNat (vs <<< 1)
    control.toNat < 32 ∧ control &&& x75S = 0 ∧ control &&& x75Spf = standardPoll pollBit ∧
      control &&& (0x0E : UInt8) = UInt8.ofNat (vs <<< 1) := by
  unfold standardPoll
  interval_cases vs <;> split <;> decide

/-- An I-frame carries its payload, and V(R) of its sender. -/
theorem iframe_frame (x75 : X75Cb) (vs_lt : x75.vs < x75.modulus) (skb : Bytes)
    (pollBit addr : UInt8) :
    iframePayload x75.extended (addr :: iframeField x75 skb pollBit) = some skb ∧
      frameNr x75.extended (addr :: iframeField x75 skb pollBit) =
        some (x75.vr % x75.modulus) := by
  rw [iframeField_eq]
  cases ext : x75.extended with
  | true =>
      have even : UInt8.ofNat (x75.vs <<< 1) &&& x75S = 0 := shift_one_and x75.vs
      have notUnnumbered : ¬ UInt8.ofNat (x75.vs <<< 1) &&& x75U = 3 := by
        intro both
        have bit : UInt8.ofNat (x75.vs <<< 1) &&& x75U &&& x75S = 0 := by
          rw [UInt8.and_assoc]
          exact even
        rw [both] at bit
        exact absurd bit (by decide)
      simp only [if_true, iframePayload, if_pos even, List.drop_succ_cons, List.drop_zero, frameNr,
        if_neg notUnnumbered, List.head?_cons, Option.map_some,
        nr_extended _ (extendedPoll_bits pollBit).1, X75Cb.modulus, modulusOf, ext, x75Emodulus,
        and_self]
  | false =>
      have vs_lt' : x75.vs < 8 := by simpa [modulusOf, ext, x75Smodulus] using vs_lt
      obtain ⟨low, even, -⟩ := iframe_bits vs_lt' pollBit
      have readS := standard_and (standardPoll pollBit ||| UInt8.ofNat (x75.vs <<< 1)) x75.vr
        x75S (by decide)
      have readU := standard_and (standardPoll pollBit ||| UInt8.ofNat (x75.vs <<< 1)) x75.vr
        x75U (by decide)
      have notUnnumbered :
          ¬ (standardPoll pollBit ||| UInt8.ofNat (x75.vs <<< 1)) &&& x75U = 3 := by
        intro both
        have bit := even
        rw [show x75S = x75U &&& x75S from rfl, ← UInt8.and_assoc, both] at bit
        exact absurd bit (by decide)
      simp only [Bool.false_eq_true, if_false, iframePayload, readS, if_pos even, frameNr, readU,
        if_neg notUnnumbered, nr_standard _ low, X75Cb.modulus, modulusOf, ext, x75Smodulus,
        and_self]

/-- N(S) of a standard control byte. -/
theorem ns_standard (control : UInt8) {vs : Nat} (vs_lt : vs < 8)
    (field : control &&& (0x0E : UInt8) = UInt8.ofNat (vs <<< 1)) :
    ((control >>> 1) &&& 0x07).toNat = vs := by
  have read : (control &&& (0x0E : UInt8)).toNat = 2 * vs := by
    rw [field, UInt8.toNat_ofNat', Nat.shiftLeft_eq]
    omega
  have shifted : (control >>> 1) &&& (0x07 : UInt8) = (control &&& (0x0E : UInt8)) >>> 1 := by
    apply UInt8.toBitVec_inj.mp
    simp [BitVec.ushiftRight_and_distrib]
  rw [shifted, UInt8.toNat_shiftRight, read]
  change (2 * vs) >>> 1 = vs
  rw [Nat.shiftRight_eq_div_pow]
  omega

/-- What a receiver in the same mode decodes from an I-frame. -/
theorem decode_iframe (receiver sender : X75Cb) (vs_lt : sender.vs < sender.modulus)
    (skb : Bytes) (pollBit addr : UInt8) (stack : X75Frame)
    (same : receiver.extended = sender.extended) :
    ∃ frame, x75Decode receiver (addr :: iframeField sender skb pollBit) stack =
        some (frame, skb) ∧ frame.type = x75I ∧ frame.ns = sender.vs ∧
      frame.nr = sender.vr % sender.modulus ∧ (frame.pf = 0 ↔ pollBit = 0) ∧
      frame.cr = x75DecodeCr receiver addr stack.cr := by
  rw [iframeField_eq]
  cases ext : sender.extended with
  | true =>
      rw [ext] at same
      have vs_lt' : sender.vs < 128 := by simpa [modulusOf, ext, x75Emodulus] using vs_lt
      have flag := (extendedPoll_bits pollBit).1
      have even : UInt8.ofNat (sender.vs <<< 1) &&& x75S = 0 := shift_one_and sender.vs
      refine ⟨_, by simp only [x75Decode, same, if_true, even]; rfl, rfl, ?_, ?_, ?_, rfl⟩
      · have ns := nr_extended 0 (by decide) sender.vs
        rw [UInt8.or_zero, Nat.mod_eq_of_lt vs_lt'] at ns
        exact ns
      · simpa [modulusOf, ext, x75Emodulus] using nr_extended _ flag sender.vr
      · simp only [extendedPoll_and]
        exact extendedPoll_eq_zero_iff
  | false =>
      rw [ext] at same
      have vs_lt' : sender.vs < 8 := by simpa [modulusOf, ext, x75Smodulus] using vs_lt
      obtain ⟨low, even, poll, field⟩ := iframe_bits vs_lt' pollBit
      have read := fun mask inside =>
        standard_and (standardPoll pollBit ||| UInt8.ofNat (sender.vs <<< 1)) sender.vr
          mask inside
      refine ⟨_, by
        simp only [x75Decode, same, Bool.false_eq_true, if_false, read x75S (by decide), even,
          if_true]
        rfl, rfl, ?_, ?_, ?_, rfl⟩
      · exact ns_standard _ vs_lt' (by rw [read 0x0E (by decide), field])
      · simpa [modulusOf, ext, x75Smodulus] using nr_standard _ low sender.vr
      · simp only [read x75Spf (by decide), poll]
        exact standardPoll_eq_zero_iff

/-! ## N(R) of any received frame -/

/-- The frame types whose N(R) a machine looks at. -/
def CarriesNr (frametype : UInt16) : Prop := frametype = x75I ∨ IsSupervisory frametype

instance (frametype : UInt16) : Decidable (CarriesNr frametype) :=
  inferInstanceAs (Decidable (_ ∨ _ ∨ _ ∨ _))

section Carries

variable {frametype : UInt16} {idle busy : Prop}

theorem carriesNr_of_iframe (type : frametype = x75I) : CarriesNr frametype := .inl type

theorem carriesNr_of_reject (type : frametype = x75Rej) : CarriesNr frametype :=
  .inr (.inr (.inr type))

/-- RR and RNR, with what each says about the peer. -/
theorem carriesNr_of_ready (type : frametype = x75Rr ∧ idle ∨ frametype = x75Rnr ∧ busy) :
    CarriesNr frametype := by
  rcases type with ⟨rr, -⟩ | ⟨rnr, -⟩
  · exact .inr (.inl rr)
  · exact .inr (.inr (.inl rnr))

end Carries

/-- No unnumbered control byte decodes to such a type. -/
theorem not_carriesNr_of_unnumbered {control : UInt8} (unnumbered : control &&& x75U = 3) :
    ¬ CarriesNr (control &&& ~~~x75Spf).toUInt16 := by
  have bits : (control &&& ~~~x75Spf) &&& x75U = 3 := by
    rw [UInt8.and_assoc, show ~~~x75Spf &&& x75U = x75U from rfl, unnumbered]
  have low : ∀ type : UInt16, (control &&& ~~~x75Spf).toUInt16 = type →
      type.toUInt8 &&& x75U = 3 := by
    rintro _ rfl
    rw [UInt8.toUInt8_toUInt16, bits]
  rintro (same | same | same | same) <;> exact absurd (low _ same) (by decide)

theorem and_seven_lt (byte : UInt8) : (byte &&& 0x07).toNat < 8 := by
  rw [UInt8.toNat_and]
  exact Nat.lt_succ_of_le Nat.and_le_right

theorem and_seventyF_lt (byte : UInt8) : (byte &&& 0x7F).toNat < 128 := by
  rw [UInt8.toNat_and]
  exact Nat.lt_succ_of_le Nat.and_le_right

/-- N(R) of a decoded frame is below the modulus of the mode. -/
theorem x75Decode_nr_lt {x75 : X75Cb} {skb rest : Bytes} {stack frame : X75Frame}
    (decoded : x75Decode x75 skb stack = some (frame, rest)) (carries : CarriesNr frame.type) :
    frame.nr < x75.modulus := by
  rcases skb with - | ⟨addr, - | ⟨c0, body⟩⟩
  · cases decoded
  · cases decoded
  · have illegal : ¬ CarriesNr x75Illegal := by
      unfold CarriesNr IsSupervisory
      decide
    cases ext : x75.extended with
    | true =>
        have bound : x75.modulus = 128 := by simp only [X75Cb.modulus, modulusOf, ext]; rfl
        simp only [x75Decode, ext, if_true] at decoded
        split at decoded
        · rcases body with - | ⟨c1, body⟩
          · cases decoded
          · cases decoded
            exact bound ▸ and_seventyF_lt _
        · split at decoded
          · rcases body with - | ⟨c1, body⟩
            · cases decoded
            · cases decoded
              exact bound ▸ and_seventyF_lt _
          · split at decoded
            case isTrue unnumbered =>
                cases decoded
                exact absurd carries (not_carriesNr_of_unnumbered unnumbered)
            case isFalse =>
                cases decoded
                exact absurd carries illegal
    | false =>
        have bound : x75.modulus = 8 := by simp only [X75Cb.modulus, modulusOf, ext]; rfl
        simp only [x75Decode, ext, Bool.false_eq_true, if_false] at decoded
        split at decoded
        · cases decoded
          exact bound ▸ and_seven_lt _
        · split at decoded
          · cases decoded
            exact bound ▸ and_seven_lt _
          · split at decoded
            case isTrue unnumbered =>
                cases decoded
                exact absurd carries (not_carriesNr_of_unnumbered unnumbered)
            case isFalse =>
                cases decoded
                exact absurd carries illegal

end IsdnRas.X75
