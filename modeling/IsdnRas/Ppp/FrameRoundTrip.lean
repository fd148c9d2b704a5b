import IsdnRas.Ppp.OpenFrame

/-!
# Encoding and decoding

What the encoder writes for a packet is decoded to the packet, in one call or cut into
any pieces (`decode_encode`): the stuffed bytes are added to the open frame one by one
(`feed_stuff`), flags occur only at the two ends, and the last one closes the frame.
-/

set_option autoImplicit false

namespace IsdnRas.Ppp

/-! ## Receiving a frame -/

section Feed

variable {dsize : Nat}

/-- A byte that needs no escape is added. -/
theorem step_of_plain {symbols : Bytes} {ch : UInt8} (pending : Bool)
    (plain : needsEscape ch = false) (free : symbols.length < dsize) :
    OpenFrame.step dsize ⟨symbols, pending⟩ ch =
      some (⟨symbols ++ [if pending then ch ^^^ pppTrans else ch], false⟩, []) := by
  have notFlag : ch ≠ pppFlag := by
    rintro rfl
    cases plain
  have notEscape : ch ≠ pppEscape := by
    rintro rfl
    cases plain
  simp [OpenFrame.step, notFlag, notEscape, free]

theorem step_of_plain_full {symbols : Bytes} {ch : UInt8} (pending : Bool)
    (plain : needsEscape ch = false) (full : ¬ symbols.length < dsize) :
    OpenFrame.step dsize ⟨symbols, pending⟩ ch = none := by
  have notFlag : ch ≠ pppFlag := by
    rintro rfl
    cases plain
  have notEscape : ch ≠ pppEscape := by
    rintro rfl
    cases plain
  simp [OpenFrame.step, notFlag, notEscape, full]

/-- What a byte is received as when an escape is pending before its stuffing. -/
def afterEscape (pending : Bool) (ch : UInt8) : UInt8 :=
  if pending = true ∧ needsEscape ch = false then ch ^^^ pppTrans else ch

/-- The stuffing of one byte adds the byte, when there is room. -/
theorem feed_stuffOne (symbols : Bytes) (pending : Bool) (ch : UInt8) :
    feed (OpenFrame.step dsize) ⟨symbols, pending⟩ (pppStuffing.stuffOne ch) =
      if symbols.length < dsize then some (⟨symbols ++ [afterEscape pending ch], false⟩, [])
      else none := by
  cases special : needsEscape ch with
  | true =>
      have stuffOne : pppStuffing.stuffOne ch = [pppEscape, ch ^^^ 0x20] := if_pos special
      have escaped : OpenFrame.step dsize ⟨symbols, pending⟩ pppEscape =
          some (⟨symbols, true⟩, []) := rfl
      have masked := needsEscape_masked special
      have back : ch ^^^ 0x20 ^^^ pppTrans = ch := pppStuffing.mask_mask ch
      rw [stuffOne, feed, escaped]
      by_cases free : symbols.length < dsize
      · simp [feed, step_of_plain true masked free, free, afterEscape, special, back]
      · simp [feed, step_of_plain_full true masked free, free]
  | false =>
      have stuffOne : pppStuffing.stuffOne ch = [ch] := if_neg (by simp [pppStuffing, special])
      rw [stuffOne]
      by_cases free : symbols.length < dsize
      · simp [feed, step_of_plain pending special free, free, afterEscape, special]
      · simp [feed, step_of_plain_full pending special free, free]

/-- **Stuffed bytes are added to the open frame**, as far as there is room. -/
theorem feed_stuff (data : Bytes) : ∀ symbols : Bytes, symbols.length ≤ dsize →
    feed (OpenFrame.step dsize) ⟨symbols, false⟩ (pppStuffing.stuff data) =
      if symbols.length + data.length ≤ dsize then some (⟨symbols ++ data, false⟩, [])
      else none := by
  induction data with
  | nil =>
      intro symbols within
      rw [Stuffing.stuff_nil, feed_nil, List.append_nil, List.length_nil, Nat.add_zero,
        if_pos within]
  | cons ch rest ih =>
      intro symbols within
      have first := @feed_stuffOne dsize symbols false ch
      have same : afterEscape false ch = ch := if_neg (by simp)
      rw [same] at first
      rw [Stuffing.stuff_cons, List.length_cons]
      by_cases free : symbols.length < dsize
      · rw [if_pos free] at first
        rw [feed_append first, ih _ (by rw [List.length_append]; exact free), List.length_append,
          List.length_singleton, Nat.add_assoc, Nat.add_comm 1 rest.length, List.append_assoc]
        split <;> rfl
      · rw [if_neg free] at first
        rw [feed_append_none first, if_neg (by omega)]

/-- A flag closes the open frame. -/
theorem feed_flag (symbols : Bytes) :
    feed (OpenFrame.step dsize) ⟨symbols, false⟩ [pppFlag] = some (.idle, packetOf symbols) := by
  simp [feed, OpenFrame.step]

/-- The first flag of a frame and the stuffed bytes, from an empty buffer. -/
theorem feed_open {symbols : Bytes} (fits : symbols.length ≤ dsize) :
    feed (OpenFrame.step dsize) .idle (pppFlag :: pppStuffing.stuff symbols) =
      some (⟨symbols, false⟩, []) := by
  have stuffed := @feed_stuff dsize symbols [] (Nat.zero_le _)
  rw [List.length_nil, Nat.zero_add, if_pos fits, List.nil_append] at stuffed
  exact feed_append_some (feed_flag []) stuffed

/-- **A frame is received.** -/
theorem feed_frameOf {symbols : Bytes} (fits : symbols.length ≤ dsize) :
    feed (OpenFrame.step dsize) .idle (frameOf symbols) = some (.idle, packetOf symbols) :=
  feed_append_some (feed_open fits) (feed_flag symbols)

end Feed

/-- Flags occur at the ends of a frame only. -/
theorem frameOf_flag {symbols before after : Bytes}
    (split : frameOf symbols = before ++ pppFlag :: after) :
    before = [] ∨ after = [] ∧ before = pppFlag :: pppStuffing.stuff symbols := by
  rcases before with - | ⟨first, before⟩
  · exact .inl rfl
  · obtain ⟨rfl, tails⟩ := List.cons.inj split
    have inner : pppStuffing.stuff symbols ++ [pppFlag] = before ++ pppFlag :: after := tails
    rcases List.eq_nil_or_concat' after with rfl | ⟨rest, last, rfl⟩
    · exact .inr ⟨rfl, congrArg _ (List.append_inj' inner rfl).1.symm⟩
    · rw [← List.cons_append, ← List.append_assoc] at inner
      have inside := (List.append_inj' inner rfl).1
      have member : pppFlag ∈ pppStuffing.stuff symbols := by
        rw [inside]
        simp
      exact absurd rfl (mem_stuff_bounds member).1

/-! ## Consecutive calls -/

/-- Consecutive calls of the decoder on pieces of the input. -/
def decodeCalls (dsize : Nat) : Rfc1662Vars → Bytes → List Bytes → List Decoded
  | _, _, [] => []
  | state, dst, piece :: rest =>
      let decoded := pppdRfc1662Decode state piece 0 dst dsize
      decoded :: decodeCalls dsize decoded.state decoded.dst rest

/-- The call returns 0, after the last byte of its piece. -/
def TakesAll (piece : Bytes) (decoded : Decoded) : Prop :=
  decoded.rv = 0 ∧ (piece ≠ [] → decoded.count + 1 = piece.length)

section Pieces

variable {dsize : Nat} {symbols consumed piece remaining last dst : Bytes} {openFrame : OpenFrame}
  {state : Rfc1662Vars}

/-- A frame is not too long for the buffer after some of its bytes. -/
theorem step_ne_none_of_frameOf (fits : symbols.length ≤ dsize) {first rest : Bytes} {ch : UInt8}
    (split : frameOf symbols = first ++ ch :: rest)
    (fed : feed (OpenFrame.step dsize) .idle first = some (openFrame, [])) :
    openFrame.step dsize ch ≠ none := by
  intro full
  have failed : feed (OpenFrame.step dsize) .idle (frameOf symbols) = none := by
    rw [split, feed_append fed]
    simp [feed, full]
  rw [feed_frameOf fits] at failed
  cases failed

/-- A piece of a frame without its end is taken as a whole. -/
theorem call_within_frame (fits : symbols.length ≤ dsize)
    (cut : frameOf symbols = consumed ++ (piece ++ remaining)) (more : remaining ≠ [])
    (fed : feed (OpenFrame.step dsize) .idle consumed = some (openFrame, []))
    (stores : Stores dsize openFrame state dst) (count : Nat) :
    TakesAll piece (pppdRfc1662Decode state piece count dst dsize) ∧
      ∃ next, feed (OpenFrame.step dsize) .idle (consumed ++ piece) = some (next, []) ∧
        Stores dsize next (pppdRfc1662Decode state piece count dst dsize).state
          (pppdRfc1662Decode state piece count dst dsize).dst := by
  have outcome := callOutcome_decode piece 0 count stores
  rw [pppdRfc1662Decode]
  generalize pppdRfc1662DecodeLoop dsize 0 state dst count piece = decoded at outcome
  cases outcome with
  | ran taken stores' =>
      refine ⟨⟨rfl, fun nonempty => ?_⟩, _, feed_append_some fed taken, stores'⟩
      have positive := List.length_pos_iff.mpr nonempty
      simp only [if_neg nonempty]
      omega
  | @closed before first rest dst' inside taken clear framed within symbols' room =>
      exfalso
      have split : frameOf symbols = (consumed ++ first) ++ pppFlag :: (rest ++ remaining) := by
        rw [cut, inside]
        simp
      rcases frameOf_flag split with none | ⟨none, -⟩
      · have whole := feed_append_some fed taken
        rw [none] at whole
        obtain rfl := (Prod.mk.inj (Option.some.inj whole)).1
        exact absurd framed (by decide)
      · exact more (List.append_eq_nil_iff.mp none).2
  | @tooLong before first rest dst' ch state' inside taken full stores' =>
      exfalso
      have split : frameOf symbols = (consumed ++ first) ++ ch :: (rest ++ remaining) := by
        rw [cut, inside]
        simp
      exact step_ne_none_of_frameOf fits split (feed_append_some fed taken) full

/-- The piece with the end of a frame closes it. -/
theorem call_closes_frame (fits : symbols.length ≤ dsize) (framed : 2 < symbols.length)
    (cut : frameOf symbols = consumed ++ last)
    (fed : feed (OpenFrame.step dsize) .idle consumed = some (openFrame, []))
    (stores : Stores dsize openFrame state dst) (count : Nat) :
    (pppdRfc1662Decode state last count dst dsize).rv = (symbols.length - 2 : Nat) ∧
      (pppdRfc1662Decode state last count dst dsize).count + 1 = last.length ∧
      (pppdRfc1662Decode state last count dst dsize).state = ⟨0, 0⟩ ∧
      (pppdRfc1662Decode state last count dst dsize).dst.take symbols.length = symbols := by
  have outcome := callOutcome_decode last 0 count stores
  rw [pppdRfc1662Decode]
  generalize pppdRfc1662DecodeLoop dsize 0 state dst count last = decoded at outcome
  cases outcome with
  | ran taken stores' =>
      exfalso
      have whole := feed_append_some fed taken
      rw [← cut, feed_frameOf fits] at whole
      have packets := (Prod.mk.inj (Option.some.inj whole)).2
      rw [packetOf, if_pos framed] at packets
      cases packets
  | @closed before first rest dst' inside taken clear two within symbols' room =>
      have split : frameOf symbols = (consumed ++ first) ++ pppFlag :: rest := by
        rw [cut, inside, List.append_assoc]
      have whole := feed_append_some fed taken
      rcases frameOf_flag split with none | ⟨rfl, all⟩
      · exfalso
        rw [none] at whole
        obtain rfl := (Prod.mk.inj (Option.some.inj whole)).1
        exact absurd two (by decide)
      · rw [all, feed_open fits] at whole
        obtain rfl := (Prod.mk.inj (Option.some.inj whole)).1
        refine ⟨rfl, ?_, rfl, symbols'⟩
        rw [inside, List.length_append, List.length_singleton, Nat.zero_add]
  | @tooLong before first rest dst' ch state' inside taken full stores' =>
      exfalso
      have split : frameOf symbols = (consumed ++ first) ++ ch :: rest := by
        rw [cut, inside, List.append_assoc]
      exact step_ne_none_of_frameOf fits split (feed_append_some fed taken) full

/-- The calls on the pieces of a frame before the last one. -/
theorem calls_within_frame (fits : symbols.length ≤ dsize) (more : remaining ≠ [])
    (rest : List Bytes) (pieces : List Bytes) :
    ∀ {consumed dst : Bytes} {openFrame : OpenFrame} {state : Rfc1662Vars},
      frameOf symbols = consumed ++ (pieces.flatten ++ remaining) →
      feed (OpenFrame.step dsize) .idle consumed = some (openFrame, []) →
      Stores dsize openFrame state dst →
        ∃ quiet next state' dst', List.Forall₂ TakesAll pieces quiet ∧
          decodeCalls dsize state dst (pieces ++ rest) =
            quiet ++ decodeCalls dsize state' dst' rest ∧
          feed (OpenFrame.step dsize) .idle (consumed ++ pieces.flatten) = some (next, []) ∧
          Stores dsize next state' dst' := by
  induction pieces with
  | nil =>
      intro consumed dst openFrame state _ fed stores
      refine ⟨[], openFrame, state, dst, .nil, rfl, ?_, stores⟩
      rw [List.flatten_nil, List.append_nil]
      exact fed
  | cons piece pieces ih =>
      intro consumed dst openFrame state cut fed stores
      rw [List.flatten_cons, List.append_assoc] at cut
      have unread : pieces.flatten ++ remaining ≠ [] := by simp [more]
      obtain ⟨takes, next, fed', stores'⟩ := call_within_frame fits cut unread fed stores 0
      rw [← List.append_assoc] at cut
      obtain ⟨quiet, last, state', dst', all, calls, fed'', stores''⟩ := ih cut fed' stores'
      refine ⟨_ :: quiet, last, state', dst', .cons takes all, ?_, ?_, stores''⟩
      · rw [List.cons_append, decodeCalls, calls, List.cons_append]
      · rw [List.flatten_cons, ← List.append_assoc]
        exact fed''

/-- **What the encoder writes is decoded to the packet.** The frame of a packet of one to
`dsize - 2` bytes is cut anywhere into pieces, which are decoded by consecutive calls from
the idle state. The calls before the last one return 0 after their last byte; the last one
returns the length of the packet at the closing flag, leaves the packet in the first bytes
of the buffer, and leaves the decoder idle. -/
theorem decode_encode {raw : Bytes} {pieces : List Bytes} (positive : 1 ≤ raw.length)
    (fits : raw.length ≤ dsize - 2) (room : dsize ≤ dst.length)
    (cut : (pppdRfc1662Encode raw).Holds (pieces.flatten ++ last)) (nonempty : last ≠ []) :
    ∃ quiet final, decodeCalls dsize ⟨0, 0⟩ dst (pieces ++ [last]) = quiet ++ [final] ∧
      List.Forall₂ TakesAll pieces quiet ∧
      final.rv = (raw.length : Int) ∧ final.dst.take raw.length = raw ∧
      final.count + 1 = last.length ∧ final.state = ⟨0, 0⟩ := by
  have length : (raw ++ fcsBytes raw).length = raw.length + 2 := List.length_append
  have fits' : (raw ++ fcsBytes raw).length ≤ dsize := by omega
  have whole : frameOf (raw ++ fcsBytes raw) = [] ++ (pieces.flatten ++ last) :=
    cut.unique (encode_holds raw)
  obtain ⟨quiet, next, state, dst', all, calls, fed, stores⟩ :=
    calls_within_frame fits' nonempty [last] pieces whole (feed_nil ..) (stores_idle room)
  rw [← List.append_assoc] at whole
  obtain ⟨rv, count, idle, symbols⟩ :=
    call_closes_frame fits' (by omega) whole fed stores 0
  refine ⟨quiet, _, calls, all, ?_, ?_, count, idle⟩
  · rw [rv, length, Nat.add_sub_cancel]
  · have packet := congrArg (List.take raw.length) symbols
    rwa [List.take_take, Nat.min_eq_left (by omega), List.take_left] at packet

end Pieces

/-- A packet with a flag in it, whose escape is cut in two. -/
theorem decode_encode_cut :
    ∃ quiet final, decodeCalls 4 ⟨0, 0⟩ [0, 0, 0, 0]
        ([[0x7e, 0x41, 0x7d]] ++ [[0x5e, 0x7d, 0x20, 0xca, 0x7e]]) = quiet ++ [final] ∧
      List.Forall₂ TakesAll [[0x7e, 0x41, 0x7d]] quiet ∧
      final.rv = ((2 : Nat) : Int) ∧ final.dst.take 2 = [0x41, 0x7e] ∧ final.count + 1 = 5 ∧
      final.state = ⟨0, 0⟩ :=
  @decode_encode 4 [0x5e, 0x7d, 0x20, 0xca, 0x7e] [0, 0, 0, 0] [0x41, 0x7e]
    [[0x7e, 0x41, 0x7d]] (by decide) (by decide) (by decide) (by decide) (by decide)

end IsdnRas.Ppp
