import IsdnRas.Ppp.FrameRoundTrip

/-!
# After a damaged frame

The decoder is called again until it has taken all bytes of a piece of the input, and its
calls return packets. Over any pieces this is the run of the open frame
(`decodePieces_reads`).

A flag closes the open frame whatever is in it, and the frame after the flag is received
on its own. A flag after an escape is ignored, and with it the first flag of the next
frame: the open frame is continued by the bytes of that frame (`feed_after_escape`). It
makes no difference only when the open frame is empty and the next byte is escaped itself
(`resynchronises_iff`).
-/

set_option autoImplicit false

namespace IsdnRas.Ppp

/-! ## Decoding to the end -/

/-- The state and the buffer of the decoder, and the packets its calls have returned. -/
structure DecodeRun where
  state : Rfc1662Vars
  dst : Bytes
  packets : List Bytes
deriving Repr, DecidableEq

def DecodeRun.after (run : DecodeRun) (decoded : Decoded) : DecodeRun where
  state := decoded.state
  dst := decoded.dst
  packets := run.packets ++ if 0 < decoded.rv then [decoded.dst.take decoded.rv.toNat] else []

/-- Call the decoder on what it has not taken yet, at most so many times. `none` when a
frame is too long for the buffer. -/
def decodeRest (dsize : Nat) : Nat → DecodeRun → Bytes → Option DecodeRun
  | _, run, [] => some run
  | 0, _, _ :: _ => none
  | calls + 1, run, ch :: src =>
      let decoded := pppdRfc1662Decode run.state (ch :: src) 0 run.dst dsize
      if decoded.rv < 0 then none
      else decodeRest dsize calls (run.after decoded) ((ch :: src).drop (decoded.count + 1))

/-- Decode one piece after the other. Every call takes a byte. -/
def decodePieces (dsize : Nat) : DecodeRun → List Bytes → Option DecodeRun
  | run, [] => some run
  | run, piece :: rest =>
      (decodeRest dsize piece.length run piece).bind fun next => decodePieces dsize next rest

/-- What a run does is what the open frame does. -/
def DecodeRun.Reads (dsize : Nat) (packets : List Bytes)
    (received : Option (OpenFrame × List Bytes)) : Option DecodeRun → Prop
  | none => received = none
  | some run => ∃ last more, received = some (last, more) ∧ run.packets = packets ++ more ∧
      Stores dsize last run.state run.dst

section Reads

variable {dsize : Nat}

/-- The packet that a call returns. -/
theorem packetOf_eq {symbols dst : Bytes} (stored : dst.take symbols.length = symbols) :
    (if (0 : Int) < (symbols.length - 2 : Nat) then
      [dst.take (symbols.length - 2 : Nat)] else []) = packetOf symbols := by
  have packet := congrArg (List.take (symbols.length - 2)) stored
  rw [List.take_take, Nat.min_eq_left (Nat.sub_le ..)] at packet
  rw [packet, packetOf]
  by_cases long : 2 < symbols.length
  · rw [if_pos long, if_pos (by omega)]
  · rw [if_neg long, if_neg (by omega)]

/-- A first part of the bytes before the others. -/
theorem DecodeRun.Reads.append {openFrame middle : OpenFrame} {packets out : List Bytes}
    {first rest : Bytes} {result : Option DecodeRun}
    (received : feed (OpenFrame.step dsize) openFrame first = some (middle, out))
    (later : DecodeRun.Reads dsize (packets ++ out) (feed (OpenFrame.step dsize) middle rest)
      result) :
    DecodeRun.Reads dsize packets (feed (OpenFrame.step dsize) openFrame (first ++ rest))
      result := by
  rw [feed_append received]
  cases result with
  | none => exact congrArg (Option.map _) later
  | some final =>
      obtain ⟨last, more, received', returned, stores⟩ := later
      refine ⟨last, out ++ more, ?_, ?_, stores⟩
      · rw [received']
        rfl
      · rw [returned, List.append_assoc]

theorem decodeRest_reads : ∀ {calls : Nat} {src : Bytes} {openFrame : OpenFrame}
    {run : DecodeRun}, src.length ≤ calls → Stores dsize openFrame run.state run.dst →
      DecodeRun.Reads dsize run.packets (feed (OpenFrame.step dsize) openFrame src)
        (decodeRest dsize calls run src) := by
  intro calls
  induction calls with
  | zero =>
      intro src openFrame run enough stores
      obtain rfl := List.eq_nil_of_length_eq_zero (Nat.le_zero.mp enough)
      exact ⟨openFrame, [], rfl, (List.append_nil _).symm, stores⟩
  | succ calls ih =>
      intro src openFrame run enough stores
      cases src with
      | nil => exact ⟨openFrame, [], rfl, (List.append_nil _).symm, stores⟩
      | cons ch src =>
          have outcome := callOutcome_decode (ch :: src) 0 0 stores
          rw [decodeRest, pppdRfc1662Decode]
          generalize pppdRfc1662DecodeLoop dsize 0 run.state run.dst 0 (ch :: src) = decoded
            at outcome
          cases outcome with
          | @ran last state dst fed stores' =>
              have all : (ch :: src).drop (0 + (ch :: src).length - 1 + 1) = [] :=
                List.drop_eq_nil_of_le (by omega)
              simp only [if_neg (List.cons_ne_nil ch src), all, decodeRest]
              exact ⟨last, [], fed, rfl, stores'⟩
          | @closed before first rest dst cut fed clear framed fits symbols room =>
              have untaken : (ch :: src).drop (0 + first.length + 1) = rest := by
                rw [cut, Nat.zero_add, List.drop_append, List.drop_of_length_le (by omega)]
                simp
              have shorter : rest.length ≤ calls := by
                have length := congrArg List.length cut
                rw [List.length_append, List.length_cons] at length
                rw [List.length_cons] at enough length
                omega
              have later := @ih rest .idle
                (run.after ⟨(before.symbols.length - 2 : Nat), 0 + first.length, ⟨0, 0⟩, dst⟩)
                shorter (stores_idle room)
              have emptied : feed (OpenFrame.step dsize) before [pppFlag] =
                  some (.idle, packetOf before.symbols) := by
                simp [feed, OpenFrame.step, clear]
              have nonneg : ¬ ((before.symbols.length - 2 : Nat) : Int) < 0 := by omega
              simp only [if_neg nonneg, untaken]
              have packets : (run.after
                  ⟨(before.symbols.length - 2 : Nat), 0 + first.length, ⟨0, 0⟩, dst⟩).packets =
                    run.packets ++ packetOf before.symbols :=
                congrArg (run.packets ++ ·) (packetOf_eq symbols)
              rw [packets] at later
              rw [cut, List.append_cons]
              exact .append (feed_append_some fed emptied) later
          | @tooLong before first rest dst last state cut fed full stores' =>
              have negative : -einval < 0 := by decide
              simp only [if_pos negative]
              change feed (OpenFrame.step dsize) openFrame (ch :: src) = none
              rw [cut, feed_append fed]
              simp [feed, full]

/-- **Decoding pieces is receiving their bytes**, wherever the cuts are. -/
theorem decodePieces_reads (pieces : List Bytes) : ∀ {openFrame : OpenFrame} {run : DecodeRun},
    Stores dsize openFrame run.state run.dst →
      DecodeRun.Reads dsize run.packets (feed (OpenFrame.step dsize) openFrame pieces.flatten)
        (decodePieces dsize run pieces) := by
  induction pieces with
  | nil =>
      intro openFrame run stores
      exact ⟨openFrame, [], rfl, (List.append_nil _).symm, stores⟩
  | cons piece rest ih =>
      intro openFrame run stores
      have first := decodeRest_reads (Nat.le_refl piece.length) stores
      rw [decodePieces, List.flatten_cons]
      revert first
      cases decodeRest dsize piece.length run piece with
      | none =>
          intro failed
          exact feed_append_none failed rest.flatten
      | some next =>
          rintro ⟨middle, out, received, packets, stores'⟩
          have later := ih stores'
          rw [packets] at later
          rw [Option.bind_some]
          exact .append received later

end Reads

/-! ## The next frame -/

section Next

variable {dsize : Nat} {symbols data : Bytes}

/-- A flag closes the open frame, and the next one is received on its own. -/
theorem feed_after_flag (fits : data.length ≤ dsize) :
    feed (OpenFrame.step dsize) ⟨symbols, false⟩ (pppFlag :: frameOf data) =
      some (.idle, packetOf symbols ++ packetOf data) :=
  feed_append_some (feed_flag symbols) (feed_frameOf fits)

/-- After an escape the open frame is continued by the next one. -/
theorem feed_after_escape (ch : UInt8) (within : symbols.length ≤ dsize) :
    feed (OpenFrame.step dsize) ⟨symbols, true⟩ (pppFlag :: frameOf (ch :: data)) =
      if symbols.length + (data.length + 1) ≤ dsize then
        some (.idle, packetOf (symbols ++ afterEscape true ch :: data))
      else none := by
  have flags : feed (OpenFrame.step dsize) ⟨symbols, true⟩ [pppFlag, pppFlag] =
      some (⟨symbols, true⟩, []) := by
    simp [feed, OpenFrame.step]
  have first := @feed_stuffOne dsize symbols true ch
  have bytes : pppFlag :: frameOf (ch :: data) =
      [pppFlag, pppFlag] ++ (pppStuffing.stuffOne ch ++ (pppStuffing.stuff data ++ [pppFlag])) := by
    rw [frameOf, Stuffing.stuff_cons, List.append_assoc]
    rfl
  rw [bytes, feed_append flags]
  by_cases free : symbols.length < dsize
  · rw [if_pos free] at first
    have later := @feed_stuff dsize data (symbols ++ [afterEscape true ch])
      (by rw [List.length_append]; exact free)
    rw [List.length_append, List.length_singleton, Nat.add_assoc, Nat.add_comm 1,
      List.append_assoc] at later
    rw [feed_append first]
    split
    case isTrue fits =>
        rw [if_pos fits] at later
        rw [feed_append later, feed_flag]
        rfl
    case isFalse long =>
        rw [if_neg long] at later
        rw [feed_append_none later]
        rfl
  · rw [if_neg free] at first
    rw [feed_append_none first, if_neg (by omega)]
    rfl

theorem packetOf_append {packet fcs : Bytes} (nonempty : packet ≠ []) (two : fcs.length = 2) :
    packetOf (packet ++ fcs) = [packet] := by
  have positive := List.length_pos_iff.mpr nonempty
  rw [packetOf, List.length_append, two, if_pos (by omega), Nat.add_sub_cancel, List.take_left]

/-- A byte after an escape is itself exactly when it is escaped again. -/
theorem afterEscape_eq_self_iff {ch : UInt8} :
    afterEscape true ch = ch ↔ needsEscape ch = true := by
  have moved : ch ^^^ pppTrans ≠ ch := by
    intro same
    have zero := congrArg (ch ^^^ ·) same
    simp only [← UInt8.xor_assoc, UInt8.xor_self, UInt8.zero_xor] at zero
    exact absurd zero (by decide)
  cases special : needsEscape ch with
  | true => simp [afterEscape, special]
  | false => simp [afterEscape, special, moved]

end Next

/-- The last packet a run has returned, in terms of the open frame. -/
theorem DecodeRun.Reads.last_iff {dsize : Nat} {packets : List Bytes} {raw : Bytes}
    {received : Option (OpenFrame × List Bytes)} {result : Option DecodeRun}
    (reads : DecodeRun.Reads dsize packets received result) :
    (∃ final, result = some final ∧ final.packets.getLast? = some raw) ↔
      ∃ last more, received = some (last, more) ∧ (packets ++ more).getLast? = some raw := by
  cases result with
  | none =>
      have failed : received = none := reads
      simp [failed]
  | some final =>
      obtain ⟨last, more, rfl, returned, -⟩ := reads
      simp [returned]

/-- **When a flag resynchronises the decoder.** After any bytes that were decoded without
overflow a flag and the frame of a packet are decoded, cut anywhere. The last packet
returned is that packet exactly when no escape was pending, or when the open frame was
empty and the packet starts with an escaped byte. -/
theorem resynchronises_iff {dsize : Nat} {dst raw frame : Bytes} {garbage pieces : List Bytes}
    {run : DecodeRun} (room : dsize ≤ dst.length) (nonempty : raw ≠ [])
    (fits : raw.length ≤ dsize - 2)
    (decoded : decodePieces dsize ⟨⟨0, 0⟩, dst, []⟩ garbage = some run)
    (encoded : (pppdRfc1662Encode raw).Holds frame)
    (cut : pieces.flatten = pppFlag :: frame) :
    (∃ final, decodePieces dsize run pieces = some final ∧
        final.packets.getLast? = some raw) ↔
      run.state.escape = 0 ∨
        run.state.deframedBytes = 0 ∧ needsEscape (raw.head nonempty) = true := by
  obtain ⟨ch, rest, rfl⟩ := List.exists_cons_of_ne_nil nonempty
  obtain rfl := encoded.unique (encode_holds _)
  have start := @decodePieces_reads dsize garbage .idle ⟨⟨0, 0⟩, dst, []⟩ (stores_idle room)
  rw [decoded] at start
  obtain ⟨⟨symbols, pending⟩, packets, -, -, stores⟩ := start
  have positive : 1 ≤ (ch :: rest).length := Nat.succ_le_succ (Nat.zero_le _)
  have length : ((ch :: rest) ++ fcsBytes (ch :: rest)).length ≤ dsize := by
    have two : (fcsBytes (ch :: rest)).length = 2 := rfl
    rw [List.length_append, two]
    omega
  rw [(decodePieces_reads pieces stores).last_iff, cut, framed_eq, stores.escape_eq_zero_iff,
    stores.count]
  cases pending with
  | false =>
      rw [feed_after_flag length]
      refine iff_of_true ⟨.idle, _, rfl, ?_⟩ (.inl rfl)
      rw [packetOf_append nonempty rfl, ← List.append_assoc, List.getLast?_append]
      rfl
  | true =>
      have continued :
          packetOf (symbols ++ afterEscape true ch :: (rest ++ fcsBytes (ch :: rest))) =
            [symbols ++ afterEscape true ch :: rest] := by
        rw [← List.cons_append, ← List.append_assoc]
        exact packetOf_append (by simp) rfl
      rw [List.cons_append, feed_after_escape ch stores.fits, continued]
      constructor
      · rintro ⟨last, more, received, final⟩
        split at received
        case isFalse => cases received
        case isTrue =>
            obtain ⟨-, rfl⟩ := Prod.mk.inj (Option.some.inj received)
            rw [List.getLast?_append] at final
            have same : symbols ++ afterEscape true ch :: rest = ch :: rest := Option.some.inj final
            have none : symbols = [] := by
              have lengths := congrArg List.length same
              rw [List.length_append] at lengths
              exact List.eq_nil_of_length_eq_zero (by simpa using lengths)
            subst none
            exact .inr ⟨rfl, afterEscape_eq_self_iff.mp (List.cons.inj same).1⟩
      · rintro (clear | ⟨none, special⟩)
        · cases clear
        · obtain rfl := List.eq_nil_of_length_eq_zero none
          have special : needsEscape ch = true := special
          rw [afterEscape_eq_self_iff.mpr special, if_pos]
          · refine ⟨.idle, _, rfl, ?_⟩
            rw [List.getLast?_append]
            rfl
          · rw [List.cons_append, List.length_cons] at length
            exact (Nat.zero_add _).trans_le length

/-- A packet after a frame that was cut off, in two pieces. -/
theorem resynchronises_after_cut_off :
    let cutOff : DecodeRun := ⟨⟨1, 0⟩, 0x43 :: List.replicate 7 0, []⟩
    ∃ final, decodePieces 8 cutOff [[0x7e, 0x7e, 0x41], [0xf5, 0xa3, 0x7e]] = some final ∧
      final.packets.getLast? = some [0x41] :=
  (@resynchronises_iff 8 (List.replicate 8 0) [0x41] (framed [0x41]) [[0x7e, 0x43]]
    [[0x7e, 0x7e, 0x41], [0xf5, 0xa3, 0x7e]] ⟨⟨1, 0⟩, 0x43 :: List.replicate 7 0, []⟩
    (by decide) (by decide) (by decide) rfl (encode_holds [0x41]) (by decide)).mpr (.inl rfl)

/-- **An aborted frame spoils the next one.** The abort ends with an escape and a flag;
the packet after it is returned with the byte of the aborted frame in front and its own
first byte changed. -/
theorem aborted_frame_spoils_next :
    let idle : DecodeRun := ⟨⟨0, 0⟩, List.replicate 8 0, []⟩
    let aborted : DecodeRun := ⟨⟨1, pppTrans⟩, 0x41 :: List.replicate 7 0, []⟩
    decodePieces 8 idle [[0x7e, 0x41, 0x7d, 0x7e]] = some aborted ∧
      (pppdRfc1662Encode [0x42]).Holds (framed [0x42]) ∧
      (decodePieces 8 aborted [pppFlag :: framed [0x42]]).map
          (fun final => final.packets.getLast?) = some (some [0x41, 0x62]) :=
  ⟨rfl, encode_holds [0x42], rfl⟩

end IsdnRas.Ppp
