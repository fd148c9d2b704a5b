import IsdnRas.X75.Procedures
import IsdnRas.X75.Wire

/-!
# What decoding depends on

`x75DataInput` hands an uninitialised frame record to `x75Decode`. The address
decides the command bit only when it is one of the two addresses of the mode;
otherwise the bit that the record held is kept. So decoding is independent of the
record exactly for frames with a known address (`decodes_alike_iff`), and then the
machines do not depend on it either (`x75DataInput_congr`).

The type is read off the control byte by masks. Every control byte gets some type,
and `x75Illegal` is never the outcome, so a byte that encodes no frame is not
rejected (`classifies_iff`).
-/

set_option autoImplicit false

namespace IsdnRas.X75

/-! ## The decoded fields -/

/-- The type that the control byte is decoded to, in both modes. -/
def decodedType (c0 : UInt8) : UInt16 :=
  if c0 &&& x75S = 0 then x75I
  else if c0 &&& x75U = 1 then (c0 &&& 0x0F).toUInt16
  else (c0 &&& ~~~x75Spf).toUInt16

/-- There are two low bits. -/
theorem and_u_cases (c0 : UInt8) :
    c0 &&& x75S = 0 ∨ c0 &&& x75U = 1 ∨ c0 &&& x75U = 3 := by
  have low : (c0 &&& x75U).toNat < 4 := by
    rw [UInt8.toNat_and]
    exact Nat.lt_succ_of_le Nat.and_le_right
  have bit : c0 &&& x75S = (c0 &&& x75U) &&& x75S := by
    rw [UInt8.and_assoc]
    rfl
  rw [bit]
  generalize c0 &&& x75U = bits at low ⊢
  have value : bits = 0 ∨ bits = 1 ∨ bits = 2 ∨ bits = 3 := by
    rcases (by omega : bits.toNat = 0 ∨ bits.toNat = 1 ∨ bits.toNat = 2 ∨ bits.toNat = 3) with
      h | h | h | h
    · exact .inl (UInt8.toNat_inj.mp h)
    · exact .inr (.inl (UInt8.toNat_inj.mp h))
    · exact .inr (.inr (.inl (UInt8.toNat_inj.mp h)))
    · exact .inr (.inr (.inr (UInt8.toNat_inj.mp h)))
  rcases value with rfl | rfl | rfl | rfl <;> decide

/-- The frame has too few bytes for its format. -/
def tooShort (extended : Bool) : Bytes → Bool
  | _ :: c0 :: rest => extended && c0 &&& x75U != 3 && rest.isEmpty
  | _ => true

/-- The addresses of a mode. -/
def knownAddress (x75 : X75Cb) (addr : UInt8) : Bool :=
  if x75.mlp then addr == x75AddrC || addr == x75AddrD else addr == x75AddrA || addr == x75AddrB

/-- The control field ends with a second byte. -/
def twoBytes (extended : Bool) (c0 : UInt8) : Bool := extended && c0 &&& x75U != 3

/-- The frame record after decoding. What no branch assigns is left as it was. -/
def readFrame (extended : Bool) (cr c0 : UInt8) (rest : Bytes) (stack : X75Frame) : X75Frame where
  type := decodedType c0
  nr :=
    if c0 &&& x75U = 3 then stack.nr
    else if extended then ((rest.headD 0 >>> 1) &&& 0x7F).toNat
    else ((c0 >>> 5) &&& 0x07).toNat
  ns :=
    if c0 &&& x75S = 0 then
      if extended then ((c0 >>> 1) &&& 0x7F).toNat else ((c0 >>> 1) &&& 0x07).toNat
    else stack.ns
  cr := cr
  pf := if twoBytes extended c0 then rest.headD 0 &&& x75Epf else c0 &&& x75Spf
  control0 := c0
  control1 :=
    if extended then if c0 &&& x75U = 3 then 0x00 else rest.headD 0 else stack.control1

/-- **What decoding does.** -/
theorem x75Decode_eq (x75 : X75Cb) (addr c0 : UInt8) (rest : Bytes) (stack : X75Frame) :
    x75Decode x75 (addr :: c0 :: rest) stack =
      if tooShort x75.extended (addr :: c0 :: rest) then none
      else some (readFrame x75.extended (x75DecodeCr x75 addr stack.cr) c0 rest stack,
        if twoBytes x75.extended c0 then rest.tail else rest) := by
  have odd_of_three : c0 &&& x75U = 3 → c0 &&& x75S ≠ 0 := by
    intro three
    have bit : c0 &&& x75S = (c0 &&& x75U) &&& x75S := by
      rw [UInt8.and_assoc]
      rfl
    rw [bit, three]
    decide
  have odd_of_one : c0 &&& x75U = 1 → c0 &&& x75S ≠ 0 := by
    intro one
    have bit : c0 &&& x75S = (c0 &&& x75U) &&& x75S := by
      rw [UInt8.and_assoc]
      rfl
    rw [bit, one]
    decide
  rcases and_u_cases c0 with even | one | three
  · have apart : c0 &&& x75U ≠ 3 := fun three => odd_of_three three even
    cases ext : x75.extended with
    | true =>
        cases rest <;>
          simp [x75Decode, ext, even, apart, tooShort, twoBytes, readFrame, decodedType]
    | false =>
        simp [x75Decode, ext, even, apart, tooShort, twoBytes, readFrame, decodedType]
  · have odd := odd_of_one one
    cases ext : x75.extended with
    | true =>
        cases rest <;>
          simp [x75Decode, ext, odd, one, tooShort, twoBytes, readFrame, decodedType]
    | false =>
        simp [x75Decode, ext, odd, one, tooShort, twoBytes, readFrame, decodedType]
  · have odd := odd_of_three three
    cases ext : x75.extended with
    | true => simp [x75Decode, ext, odd, three, tooShort, twoBytes, readFrame, decodedType]
    | false => simp [x75Decode, ext, odd, three, tooShort, twoBytes, readFrame, decodedType]

theorem x75Decode_eq_none_iff (x75 : X75Cb) (skb : Bytes) (stack : X75Frame) :
    x75Decode x75 skb stack = none ↔ tooShort x75.extended skb = true := by
  rcases skb with - | ⟨addr, - | ⟨c0, rest⟩⟩
  · simp [x75Decode, tooShort]
  · simp [x75Decode, tooShort]
  · rw [x75Decode_eq]
    split
    case isTrue short => simp [short]
    case isFalse long => simp [long]

/-! ## Control bytes that encode a frame -/

/-- The frames of the protocol. -/
def definedTypes : List UInt16 :=
  [x75I, x75Rr, x75Rnr, x75Rej, x75Sabm, x75Sabme, x75Disc, x75Dm, x75Ua, x75Frmr]

/-- The bits of the first control byte that carry neither a number nor the poll
bit. -/
def fixedBits (extended : Bool) (type : UInt16) : UInt8 :=
  if type = x75I then x75S
  else if type = x75Rr ∨ type = x75Rnr ∨ type = x75Rej then if extended then 0xFF else 0x0F
  else ~~~x75Spf

/-- The control byte is that of a frame of this type. -/
def Encodes (extended : Bool) (type : UInt16) (c0 : UInt8) : Prop :=
  c0 &&& fixedBits extended type = type.toUInt8

/-- The control byte is that of some frame. -/
def Defined (extended : Bool) (c0 : UInt8) : Prop := ∃ type ∈ definedTypes, Encodes extended type c0

instance (extended : Bool) (type : UInt16) (c0 : UInt8) : Decidable (Encodes extended type c0) :=
  inferInstanceAs (Decidable (_ = _))

instance (extended : Bool) (c0 : UInt8) : Decidable (Defined extended c0) :=
  inferInstanceAs (Decidable (∃ _ ∈ _, _))

/-- Reading fewer of the fixed bits. -/
theorem and_of_and {c0 mask value : UInt8} (fixed : c0 &&& mask = value) (fewer : UInt8)
    (inside : mask &&& fewer = fewer) : c0 &&& fewer = value &&& fewer := by
  rw [← fixed, UInt8.and_assoc, inside]

/-- A frame of the protocol is decoded to its type. -/
theorem decodedType_of_encodes {extended : Bool} {type : UInt16} {c0 : UInt8}
    (known : type ∈ definedTypes) (encodes : Encodes extended type c0) :
    decodedType c0 = type := by
  have read := and_of_and encodes
  unfold decodedType
  simp only [definedTypes, List.mem_cons, List.not_mem_nil, or_false] at known
  rcases known with rfl | rfl | rfl | rfl | rfl | rfl | rfl | rfl | rfl | rfl
  case inl => exact if_pos encodes
  case inr.inl | inr.inr.inl | inr.inr.inr.inl =>
      rw [read x75S (by cases extended <;> decide), read x75U (by cases extended <;> decide),
        read 0x0F (by cases extended <;> decide)]
      rfl
  all_goals
      rw [read x75S (by cases extended <;> decide), read x75U (by cases extended <;> decide),
        read (~~~x75Spf) (by cases extended <;> decide)]
      rfl

theorem decodedType_ne_illegal (c0 : UInt8) : decodedType c0 ≠ x75Illegal := by
  have byte : ∀ bits : UInt8, bits.toUInt16 ≠ x75Illegal := by
    intro bits same
    have value := congrArg UInt16.toNat same
    rw [UInt8.toNat_toUInt16] at value
    have bound := bits.toNat_lt
    have illegal : x75Illegal.toNat = 256 := rfl
    omega
  unfold decodedType
  split
  · decide
  split
  · exact byte _
  · exact byte _

/-- Decoding tells the frames of the protocol from all others, and the machine of
state 3 rejects the others. -/
structure ClassifiesControl (x75 : X75Cb) (c0 : UInt8) (rest : Bytes) (frame : X75Frame) :
    Prop where
  defined : ∀ type ∈ definedTypes, frame.type = type ↔ Encodes x75.extended type c0
  undefined : ¬ Defined x75.extended c0 → frame.type = x75Illegal
  rejected : x75.state = .state3 → ¬ Defined x75.extended c0 →
    x75Machine x75 rest frame = rejectFrame x75 frame x75FrmrW

theorem type_of_decoded {x75 : X75Cb} {addr c0 : UInt8} {body rest : Bytes}
    {stack frame : X75Frame}
    (decoded : x75Decode x75 (addr :: c0 :: body) stack = some (frame, rest)) :
    frame.type = decodedType c0 := by
  rw [x75Decode_eq] at decoded
  split at decoded
  · cases decoded
  · cases decoded
    rfl

/-- **Undefined control bytes are not rejected.** A frame that is long enough is
classified and, in state 3, rejected as it should be exactly when its control byte
is that of some frame. -/
theorem classifies_iff {x75 : X75Cb} {addr c0 : UInt8} {body rest : Bytes} {stack frame : X75Frame}
    (decoded : x75Decode x75 (addr :: c0 :: body) stack = some (frame, rest)) :
    ClassifiesControl x75 c0 rest frame ↔ Defined x75.extended c0 := by
  have type := type_of_decoded decoded
  constructor
  · intro classifies
    by_contra undefined
    exact decodedType_ne_illegal c0 (type.symm.trans (classifies.undefined undefined))
  · intro defined
    obtain ⟨own, known, encodes⟩ := defined
    have own_type := decodedType_of_encodes known encodes
    refine ⟨fun other other_known => ⟨fun same => ?_, fun other_encodes => ?_⟩,
      fun undefined => absurd ⟨own, known, encodes⟩ undefined,
      fun _ undefined => absurd ⟨own, known, encodes⟩ undefined⟩
    · obtain rfl : own = other := own_type.symm.trans (type.symm.trans same)
      exact encodes
    · exact type.trans (decodedType_of_encodes other_known other_encodes)

/-- A RR with the poll bit. -/
theorem classifies_rr : ClassifiesControl zeroed 0x11 []
    (readFrame false x75Command 0x11 [] .zero) := by
  have decoded : x75Decode zeroed [x75AddrA, 0x11] .zero =
      some (readFrame false x75Command 0x11 [] .zero, []) := rfl
  exact (classifies_iff decoded).mpr (by decide)

/-- **An unknown frame is dropped.** In state 3 an unnumbered information frame,
which the protocol does not have, changes nothing and is not answered. -/
theorem undefined_frame_dropped :
    ∃ x75 frame, exec (x75Register zeroed .all) (.dataReceived [0x01, 0x3F] .zero) = some x75 ∧
      x75.state = .state3 ∧ knownAddress x75 0x01 = true ∧ ¬ Defined x75.extended 0x03 ∧
      x75Decode x75 [0x01, 0x03] .zero = some (frame, []) ∧ frame.type ≠ x75Illegal ∧
      exec x75 (.dataReceived [0x01, 0x03] .zero) = some x75 :=
  ⟨_, _, rfl, rfl, rfl, by decide, rfl, by decide, rfl⟩

/-! ## The record before decoding -/

/-- The control field carries N(R). -/
def HasNr (type : UInt16) : Prop := type = x75I ∨ type &&& 0x03 = 0x01

/-- Two frames that read the same. -/
structure SameReading (extended : Bool) (frame frame' : X75Frame) : Prop where
  type : frame'.type = frame.type
  cr : frame'.cr = frame.cr
  pf : frame'.pf = frame.pf
  nr : HasNr frame.type → frame'.nr = frame.nr
  ns : frame.type = x75I → frame'.ns = frame.ns
  control0 : frame'.control0 = frame.control0
  control1 : extended = true → frame'.control1 = frame.control1

/-- Without the parts of the rejected frame that a FRMR does not show. -/
def X75Cb.observable (x75 : X75Cb) : X75Cb :=
  { x75 with frmrData := { x75.frmrData with
      nr := 0
      ns := 0
      control1 := if x75.extended then x75.frmrData.control1 else 0 } }

/-- What the record held before matters neither for the decoded frame nor for what
is done with it. -/
structure DecodesAlike (x75 : X75Cb) (skb : Bytes) : Prop where
  readings : ∀ {stack stack' frame frame' : X75Frame} {rest rest' : Bytes},
    x75Decode x75 skb stack = some (frame, rest) → x75Decode x75 skb stack' = some (frame', rest') →
      SameReading x75.extended frame frame'
  decisions : ∀ stack stack' : X75Frame,
    (x75DataInput x75 skb stack).map X75Cb.observable =
      (x75DataInput x75 skb stack').map X75Cb.observable

/-- The frame begins with an address of the mode. -/
def KnownAddress (x75 : X75Cb) (skb : Bytes) : Prop :=
  ∃ addr ∈ skb.head?, knownAddress x75 addr = true

instance (x75 : X75Cb) (skb : Bytes) : Decidable (KnownAddress x75 skb) :=
  inferInstanceAs (Decidable (∃ _ ∈ _, _))

/-- A known address decides the command bit. -/
theorem x75DecodeCr_of_known {x75 : X75Cb} {addr : UInt8} (known : knownAddress x75 addr = true)
    (cr cr' : UInt8) : x75DecodeCr x75 addr cr' = x75DecodeCr x75 addr cr := by
  unfold knownAddress at known
  unfold x75DecodeCr
  cases mlp : x75.mlp <;> cases x75.dce <;> simp_all <;> rcases known with rfl | rfl <;> rfl

/-- Any other address keeps what the record held. -/
theorem x75DecodeCr_of_unknown {x75 : X75Cb} {addr : UInt8}
    (unknown : knownAddress x75 addr = false) (cr : UInt8) : x75DecodeCr x75 addr cr = cr := by
  unfold knownAddress at unknown
  unfold x75DecodeCr
  cases mlp : x75.mlp <;> cases x75.dce <;> simp_all

/-- A type whose control field carries N(R) is not that of an unnumbered frame. -/
theorem not_hasNr_of_unnumbered {c0 : UInt8} (unnumbered : c0 &&& x75U = 3) :
    ¬ HasNr (decodedType c0) := by
  have type : decodedType c0 = (c0 &&& ~~~x75Spf).toUInt16 := by
    have odd : c0 &&& x75S = x75U &&& x75S := and_of_and unnumbered x75S rfl
    rw [decodedType, odd, unnumbered]
    rfl
  have low : decodedType c0 &&& 0x03 = 0x03 := by
    have bits : (c0 &&& ~~~x75Spf) &&& x75U = 3 := by
      rw [UInt8.and_assoc, show ~~~x75Spf &&& x75U = x75U from rfl, unnumbered]
    have wide := congrArg UInt8.toUInt16 bits
    rw [UInt8.toUInt16_and] at wide
    rw [type]
    exact wide
  rintro (iframe | supervisory)
  · rw [iframe] at low
    exact absurd low (by decide)
  · rw [supervisory] at low
    exact absurd low (by decide)

theorem even_of_iframe {c0 : UInt8} (iframe : decodedType c0 = x75I) : c0 &&& x75S = 0 := by
  rcases and_u_cases c0 with even | one | three
  · exact even
  · have odd : c0 &&& x75S = x75S := and_of_and one x75S rfl
    have type : decodedType c0 = (c0 &&& 0x0F).toUInt16 := by
      rw [decodedType, odd, one]
      rfl
    have zero : c0 &&& 0x0F = 0 := by
      have value := congrArg UInt16.toNat (type.symm.trans iframe)
      rw [UInt8.toNat_toUInt16] at value
      exact UInt8.toNat_inj.mp value
    have low : c0 &&& x75U = 0 := and_of_and zero x75U rfl
    rw [low] at one
    exact absurd one (by decide)
  · exact absurd (.inl iframe) (not_hasNr_of_unnumbered three)

/-- Records differ only where no branch assigns. -/
theorem sameReading_readFrame (extended : Bool) (cr c0 : UInt8) (rest : Bytes)
    (stack stack' : X75Frame) :
    SameReading extended (readFrame extended cr c0 rest stack)
      (readFrame extended cr c0 rest stack') where
  type := rfl
  cr := rfl
  pf := rfl
  nr := by
    intro hasNr
    have numbered : c0 &&& x75U ≠ 3 := fun three => not_hasNr_of_unnumbered three hasNr
    simp [readFrame, numbered]
  ns := by
    intro iframe
    simp [readFrame, even_of_iframe iframe]
  control0 := rfl
  control1 := by
    rintro rfl
    rfl

section Machines

variable {x75 : X75Cb} {frame frame' : X75Frame}

/-- The other frame, from the first one. -/
theorem SameReading.eq (same : SameReading x75.extended frame frame') :
    frame' = { frame with nr := frame'.nr, ns := frame'.ns, control1 := frame'.control1 } := by
  rcases frame with ⟨type, nr, ns, cr, pf, control0, control1⟩
  rcases frame' with ⟨type', nr', ns', cr', pf', control0', control1'⟩
  obtain ⟨rfl, rfl, rfl, -, -, rfl, -⟩ := same
  rfl

/-- The FRMR shows the same. -/
theorem rejectFrame_observable (same : SameReading x75.extended frame frame') (frmrType : UInt8) :
    (rejectFrame x75 frame' frmrType).observable = (rejectFrame x75 frame frmrType).observable := by
  have field : frmrField { x75 with frmrData := frame', frmrType := frmrType } =
      frmrField { x75 with frmrData := frame, frmrType := frmrType } := by
    unfold frmrField
    cases ext : extendedMode x75.mode with
    | true => simp only [X75Cb.extended, ext, if_true, same.cr, same.control0, same.control1 ext]
    | false => simp only [X75Cb.extended, ext, Bool.false_eq_true, if_false, same.cr, same.control0]
  apply X75Cb.ext
  case frmrData =>
      rw [same.eq]
      cases ext : extendedMode x75.mode with
      | true => simp [X75Cb.observable, rejectFrame, ext, same.control1 ext]
      | false => simp [X75Cb.observable, rejectFrame, ext]
  case events =>
      change x75.events ++ transmitted x75 _ x75Response =
        x75.events ++ transmitted x75 _ x75Response
      rw [field]
  all_goals rfl

/-- A decision that both take. -/
theorem observable_ite {condition : Prop} [Decidable condition] {yes yes' no no' : X75Cb}
    (taken : condition → yes'.observable = yes.observable)
    (left : ¬ condition → no'.observable = no.observable) :
    (if condition then yes' else no').observable = (if condition then yes else no).observable := by
  split
  case isTrue holds => exact taken holds
  case isFalse fails => exact left fails

/-- The poll answer keeps the mode. -/
theorem x75CheckNeedResponse_mode (x75 : X75Cb) (type pf : UInt8) :
    (x75CheckNeedResponse x75 type pf).mode = x75.mode := by
  unfold x75CheckNeedResponse
  split <;> rfl

theorem receiveReady_observable (same : SameReading x75.extended frame frame')
    (hasNr : HasNr frame.type) :
    (receiveReady x75 frame').observable = (receiveReady x75 frame).observable := by
  have mode := x75CheckNeedResponse_mode x75 frame.cr frame.pf
  unfold receiveReady
  rw [same.nr hasNr, same.cr, same.pf]
  refine observable_ite (fun _ => rfl) fun _ => rejectFrame_observable ?_ x75FrmrZ
  rwa [X75Cb.extended, mode]

theorem receiveReject_observable (same : SameReading x75.extended frame frame')
    (hasNr : HasNr frame.type) :
    (receiveReject x75 frame').observable = (receiveReject x75 frame).observable := by
  have mode := x75CheckNeedResponse_mode x75 frame.cr frame.pf
  unfold receiveReject
  rw [same.nr hasNr, same.cr, same.pf]
  refine observable_ite (fun _ => rfl) fun _ => rejectFrame_observable ?_ x75FrmrZ
  rwa [X75Cb.extended, mode]

theorem receiveIframe_observable (same : SameReading x75.extended frame frame')
    (iframe : frame.type = x75I) (skb : Bytes) :
    (receiveIframe x75 skb frame').observable = (receiveIframe x75 skb frame).observable := by
  have inSequence : ∀ other, receiveInSequence other skb frame' =
      receiveInSequence other skb frame := by
    intro other
    unfold receiveInSequence
    rw [same.pf]
  have outOfSequence : ∀ other, receiveOutOfSequence other frame' =
      receiveOutOfSequence other frame := by
    intro other
    unfold receiveOutOfSequence
    rw [same.pf]
  unfold receiveIframe
  dsimp only
  rw [same.nr (.inl iframe), same.ns iframe, inSequence, outOfSequence]
  exact observable_ite (fun _ => rfl) fun _ => rejectFrame_observable same x75FrmrZ

/-- State 3 shows the same. -/
theorem x75State3Machine_observable (same : SameReading x75.extended frame frame') (skb : Bytes) :
    (x75State3Machine x75 skb frame').observable = (x75State3Machine x75 skb frame).observable := by
  have supervisory : ∀ type : UInt16, type &&& 0x03 = 0x01 → frame.type = type →
      HasNr frame.type := by
    rintro _ bits rfl
    exact .inr bits
  unfold x75State3Machine resetConnected
  rw [same.type, same.pf]
  refine observable_ite (fun _ => rfl) fun _ => ?_
  refine observable_ite (fun _ => rfl) fun _ => ?_
  refine observable_ite (fun _ => rfl) fun _ => ?_
  refine observable_ite (fun _ => rfl) fun _ => ?_
  refine observable_ite
    (fun rnr => receiveReady_observable same (supervisory x75Rnr rfl rnr)) fun _ => ?_
  refine observable_ite
    (fun rr => receiveReady_observable same (supervisory x75Rr rfl rr)) fun _ => ?_
  refine observable_ite
    (fun rej => receiveReject_observable same (supervisory x75Rej rfl rej)) fun _ => ?_
  refine observable_ite (fun iframe => receiveIframe_observable same iframe skb) fun _ => ?_
  refine observable_ite (fun _ => rfl) fun _ => ?_
  exact observable_ite (fun _ => rejectFrame_observable same x75FrmrW) fun _ => rfl

/-- The machine of the current state shows the same. -/
theorem x75Machine_observable (same : SameReading x75.extended frame frame') (skb : Bytes) :
    (x75Machine x75 skb frame').observable = (x75Machine x75 skb frame).observable := by
  unfold x75Machine
  split
  case h_4 => exact x75State3Machine_observable same skb
  all_goals
      rw [same.eq]
      rfl

end Machines

/-! ## `x75Kick` -/

@[simps] def X75Cb.withFrmr (x75 : X75Cb) (frmrData : X75Frame) : X75Cb :=
  { x75 with frmrData := frmrData }

theorem x75KickLoop_withFrmr (stop : Nat) (frmrData : X75Frame) (queue : List Bytes) :
    ∀ x75 : X75Cb, x75KickLoop stop queue (x75.withFrmr frmrData) =
      (x75KickLoop stop queue x75).withFrmr frmrData := by
  induction queue with
  | nil =>
      intro x75
      rfl
  | cons skb rest ih =>
      intro x75
      have round := ih (x75KickOne { x75 with writeQueue := ⟨rest, x75.writeQueue.count - 1⟩ } skb)
      have decided := apply_ite (fun sent : X75Cb => sent.withFrmr frmrData)
        ((x75KickOne { x75 with writeQueue := ⟨rest, x75.writeQueue.count - 1⟩ } skb).vs ≠ stop)
        (x75KickLoop stop rest
          (x75KickOne { x75 with writeQueue := ⟨rest, x75.writeQueue.count - 1⟩ } skb))
        (x75KickOne { x75 with writeQueue := ⟨rest, x75.writeQueue.count - 1⟩ } skb)
      unfold x75KickLoop
      exact (if_congr Iff.rfl round rfl).trans decided.symm

/-- The end of `x75Kick`, after the loop. -/
def kickDone (sent : X75Cb) : X75Cb :=
  let sent := { sent with condition := clearFlag sent.condition x75AckPendingCondition }
  if sent.t1timerRunning then sent else x75StartT1timer sent

theorem kickDone_withFrmr (sent : X75Cb) (frmrData : X75Frame) :
    kickDone (sent.withFrmr frmrData) = (kickDone sent).withFrmr frmrData := by
  cases running : sent.t1timerRunning <;> simp [kickDone, running, X75Cb.withFrmr, x75StartT1timer]

/-- `x75Kick` does not look at the rejected frame. -/
theorem x75Kick_withFrmr (x75 : X75Cb) (frmrData : X75Frame) :
    x75Kick (x75.withFrmr frmrData) = (x75Kick x75).map (·.withFrmr frmrData) := by
  unfold x75Kick
  by_cases ready : KickReady x75
  · have ready' : KickReady (x75.withFrmr frmrData) := ready
    rw [if_pos ready, if_pos ready', X75Cb.withFrmr_writeQueue]
    rcases queue : x75.writeQueue.msgs with - | ⟨skb, rest⟩
    · rfl
    · have sent := x75KickLoop_withFrmr (kickStop x75) frmrData (skb :: rest)
        { x75 with vs := kickStart x75 }
      exact congrArg some ((congrArg kickDone sent).trans (kickDone_withFrmr ..))
  · have ready' : ¬ KickReady (x75.withFrmr frmrData) := ready
    rw [if_neg ready, if_neg ready']
    rfl

theorem x75Kick_observable (x75 : X75Cb) :
    (x75Kick x75).map X75Cb.observable = x75Kick x75.observable := by
  have shown : x75.observable = x75.withFrmr x75.observable.frmrData := rfl
  rw [shown, x75Kick_withFrmr]
  refine Option.map_congr fun sent kicked => ?_
  rcases x75Kick_cases kicked with ⟨-, rfl⟩ | ⟨-, k, -, rfl⟩ <;> rfl

/-! ## Received frames -/

/-- **What is done with a frame does not depend on the record** when its address
is one of the mode. -/
theorem x75DataInput_congr {x75 : X75Cb} {addr : UInt8} (known : knownAddress x75 addr = true)
    (body : Bytes) (stack stack' : X75Frame) :
    (x75DataInput x75 (addr :: body) stack).map X75Cb.observable =
      (x75DataInput x75 (addr :: body) stack').map X75Cb.observable := by
  rcases body with - | ⟨c0, rest⟩
  · rfl
  · have cr := x75DecodeCr_of_known known stack.cr stack'.cr
    unfold x75DataInput
    rw [x75Decode_eq, x75Decode_eq, cr]
    by_cases short : tooShort x75.extended (addr :: c0 :: rest) = true
    · rw [if_pos short, if_pos short]
    · rw [if_neg short, if_neg short]
      have same := sameReading_readFrame x75.extended (x75DecodeCr x75 addr stack.cr) c0 rest
        stack stack'
      have machined := x75Machine_observable same
        (if twoBytes x75.extended c0 then rest.tail else rest)
      exact ((x75Kick_observable _).trans (congrArg x75Kick machined.symm)).trans
        (x75Kick_observable _).symm

/-- A frame that is too short is dropped. -/
theorem decodesAlike_of_short {x75 : X75Cb} {skb : Bytes}
    (short : tooShort x75.extended skb = true) : DecodesAlike x75 skb where
  readings := by
    intro stack _ _ _ _ _ decoded
    rw [(x75Decode_eq_none_iff x75 skb stack).mpr short] at decoded
    cases decoded
  decisions := by
    intro stack stack'
    rw [x75DataInput, x75DataInput, (x75Decode_eq_none_iff x75 skb stack).mpr short,
      (x75Decode_eq_none_iff x75 skb stack').mpr short]

theorem decodesAlike_of_known {x75 : X75Cb} {skb : Bytes} (known : KnownAddress x75 skb) :
    DecodesAlike x75 skb := by
  obtain ⟨addr, first, known⟩ := known
  obtain ⟨body, rfl⟩ := List.head?_eq_some_iff.mp first
  refine ⟨?_, x75DataInput_congr known body⟩
  intro stack stack' frame frame' rest rest' decoded decoded'
  rcases body with - | ⟨c0, body⟩
  · cases decoded
  · rw [x75Decode_eq] at decoded decoded'
    split at decoded
    · cases decoded
    case isFalse long =>
        rw [if_neg long, x75DecodeCr_of_known known stack.cr stack'.cr] at decoded'
        cases decoded
        cases decoded'
        exact sameReading_readFrame ..

/-- **Decoding is independent of the record** exactly for frames that begin with an
address of the mode, and for those that are too short to be decoded. -/
theorem decodes_alike_iff (x75 : X75Cb) (skb : Bytes) :
    DecodesAlike x75 skb ↔ tooShort x75.extended skb = true ∨ KnownAddress x75 skb := by
  constructor
  · intro alike
    by_contra neither
    obtain ⟨long, unknown⟩ := not_or.mp neither
    rcases skb with - | ⟨addr, - | ⟨c0, rest⟩⟩
    · exact long rfl
    · exact long rfl
    · have other : knownAddress x75 addr = false :=
        Bool.eq_false_iff.mpr fun known => unknown ⟨addr, rfl, known⟩
      have decoded : ∀ stack, x75Decode x75 (addr :: c0 :: rest) stack =
          some (readFrame x75.extended stack.cr c0 rest stack,
            if twoBytes x75.extended c0 then rest.tail else rest) := by
        intro stack
        rw [x75Decode_eq, if_neg long, x75DecodeCr_of_unknown other]
      have cr : x75Command = 0 := (alike.readings (decoded .zero)
        (decoded { X75Frame.zero with cr := x75Command })).cr
      exact absurd cr (by decide)
  · rintro (short | known)
    · exact decodesAlike_of_short short
    · exact decodesAlike_of_known known

/-- **An unknown address leaves the command bit to the record.** A registered
control block receives an RR with the poll bit in state 3, with an address that
its mode does not have. When the record says that it is a command it is answered,
and otherwise it is not. -/
theorem unknown_address_reads_record :
    ∃ x75 command response, exec (x75Register zeroed .all) (.dataReceived [0x01, 0x3F] .zero) =
        some x75 ∧ x75.state = .state3 ∧
      x75DataInput x75 [0x07, 0x11] { X75Frame.zero with cr := x75Command } = some command ∧
      x75DataInput x75 [0x07, 0x11] { X75Frame.zero with cr := x75Response } = some response ∧
      sentOf command.events = sentOf x75.events ++ [[0x01, 0x11]] ∧
      sentOf response.events = sentOf x75.events ∧ ¬ DecodesAlike x75 [0x07, 0x11] := by
  refine ⟨_, _, _, rfl, rfl, rfl, rfl, rfl, rfl, fun alike => ?_⟩
  have same := alike.decisions { X75Frame.zero with cr := x75Command }
    { X75Frame.zero with cr := x75Response }
  exact absurd same (by decide)

end IsdnRas.X75
