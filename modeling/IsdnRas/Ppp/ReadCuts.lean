import Mathlib.Algebra.GroupWithZero.Nat
import Mathlib.Data.List.SplitLengths
import IsdnRas.Ppp.Deframer
import IsdnRas.Ppp.Pppd

/-!
# Cutting the stream of pppd

The decoder keeps its state between calls, stops at the flag that ends a packet,
and reads that flag again as the start of the next one, which does nothing. So a
read of two bytes or more is decoded byte by byte (`pppdInputCb_outcome`), wherever
it was cut out of the stream.

A read of one byte is another matter: the loop of `pppdInputCb` ends before it
begins, and the byte is dropped. Two ways of cutting a stream give the same
packets for every stream exactly when they read the same bytes alone
(`samePackets_iff`), and both decode every byte exactly when they read none alone
(`cuts_decode_iff`).
-/

set_option autoImplicit false

namespace IsdnRas.Ppp

/-! ## One byte at a time -/

/-- Decode one byte into `temp_pack_buf`. -/
abbrev deframe : Deframer → UInt8 → Option (Deframer × List Bytes) := deframeInto tempPackBufSize

/-- No packet has been begun. -/
def Deframer.Idle (deframer : Deframer) : Prop := deframer.vars = ⟨0, 0⟩

/-- A flag does nothing before a packet has been begun. -/
theorem deframe_flag_idle {deframer : Deframer} (idle : deframer.Idle) :
    deframe deframer pppFlag = some (deframer, []) := by
  rcases deframer with ⟨vars, buf⟩
  obtain rfl : vars = ⟨0, 0⟩ := idle
  rfl

theorem feed_flag_idle {deframer : Deframer} (idle : deframer.Idle) (rest : Bytes) :
    feed deframe deframer (pppFlag :: rest) = feed deframe deframer rest := by
  simp [feed, deframe_flag_idle idle]

/-- A byte without room makes the whole fail. -/
theorem feed_eq_none_of_full {deframer before : Deframer} {first rest : Bytes} {ch : UInt8}
    (fed : feed deframe deframer first = some (before, [])) (full : deframe before ch = none) :
    feed deframe deframer (first ++ ch :: rest) = none := by
  rw [feed_append fed]
  simp [feed, full]

/-! ## One read -/

/-- The decoder state and the packet so far, as `pppdInputCb` keeps them. -/
def PppdInput.deframer (input : PppdInput) : Deframer := ⟨input.rfc1662State, input.tempPackBuf⟩

/-- What reading does: the bytes are decoded one by one, or a frame was too long
and the decoder has said so. -/
inductive ReadOutcome (input : PppdInput) (bytes : Bytes) : PppdInput × Bool → Prop where
  | read {last : Deframer} {packets : List Bytes} {values : List Int}
      (fed : feed deframe input.deframer bytes = some (last, packets))
      (fine : ∀ rv ∈ values, 0 ≤ rv) :
      ReadOutcome input bytes
        (⟨last.vars, last.buf, input.returned ++ values, input.queued ++ packets⟩, true)
  | tooLong {result : PppdInput × Bool} (failed : feed deframe input.deframer bytes = none)
      (reported : -einval ∈ result.1.returned) : ReadOutcome input bytes result

/-- Reading one part after another. -/
theorem ReadOutcome.append {input next : PppdInput} {first second : Bytes}
    {result : PppdInput × Bool} (before : ReadOutcome input first (next, true))
    (after : ReadOutcome next second result)
    (kept : ∀ rv ∈ next.returned, rv ∈ result.1.returned) :
    ReadOutcome input (first ++ second) result := by
  generalize done : (next, true) = middle at before
  cases before with
  | tooLong failed reported =>
      subst done
      exact .tooLong (feed_append_none failed second) (kept _ reported)
  | @read reached packets values fed fine =>
      obtain rfl := (Prod.mk.inj done).1
      cases after with
      | tooLong failed reported =>
          refine .tooLong ?_ reported
          rw [feed_append fed]
          exact Option.map_eq_none_iff.mpr failed
      | @read last more more_values fed_more fine_more =>
          have whole : feed deframe input.deframer (first ++ second) =
              some (last, packets ++ more) := feed_append_some fed fed_more
          have all_fine : ∀ rv ∈ values ++ more_values, 0 ≤ rv := by
            intro rv member
            rcases List.mem_append.mp member with early | late
            · exact fine rv early
            · exact fine_more rv late
          simp only [List.append_assoc]
          exact .read whole all_fine

/-- A flag before a packet has been begun does not count. -/
theorem ReadOutcome.of_flag_idle {input : PppdInput} {rest : Bytes} {result : PppdInput × Bool}
    (outcome : ReadOutcome input (pppFlag :: rest) result) (idle : input.deframer.Idle) :
    ReadOutcome input rest result := by
  have same := feed_flag_idle idle rest
  cases outcome with
  | read fed fine => exact .read (same ▸ fed) fine
  | tooLong failed reported => exact .tooLong (same ▸ failed) reported

/-- What the decoder has returned is kept. -/
theorem mem_returned_pppdInputLoop {rxBuf : Bytes} {rv : Int} {rounds : Nat} :
    ∀ {bytesRead : Nat} {input : PppdInput}, rv ∈ input.returned →
      rv ∈ (pppdInputLoop rxBuf rounds bytesRead input).1.returned := by
  induction rounds with
  | zero =>
      intro bytesRead input member
      exact member
  | succ rounds ih =>
      intro bytesRead input member
      unfold pppdInputLoop
      split
      · exact ih (List.mem_append_left _ member)
      · exact member

section Round

variable {rxBuf src : Bytes} {bytesRead rounds : Nat} {input : PppdInput}

/-- The loop takes a round when two bytes or more are left. -/
theorem pppdInputLoop_succ (unread : rxBuf.drop bytesRead = src) (two : 2 ≤ src.length) :
    pppdInputLoop rxBuf (rounds + 1) bytesRead input =
      pppdInputLoop rxBuf rounds (pppdInputRound rxBuf bytesRead input).2
        (pppdInputRound rxBuf bytesRead input).1 := by
  have length : src.length = rxBuf.length - bytesRead := by rw [← unread, List.length_drop]
  rw [pppdInputLoop, if_pos (by omega)]

/-- The loop ends after a round that has taken all bytes. -/
theorem pppdInputLoop_ran (unread : rxBuf.drop bytesRead = src) (two : 2 ≤ src.length) :
    pppdInputLoop rxBuf (rounds + 1)
      (bytesRead + (if src = [] then 0 else 0 + src.length - 1)) input = (input, true) := by
  have length : src.length = rxBuf.length - bytesRead := by rw [← unread, List.length_drop]
  have index : bytesRead + (if src = [] then 0 else 0 + src.length - 1) = rxBuf.length - 1 := by
    rw [if_neg (List.ne_nil_of_length_pos (by omega))]
    omega
  rw [index, pppdInputLoop, if_neg (not_not.mpr rfl)]

/-- Dropping what a round has taken leaves what it has stopped at. -/
theorem drop_of_cut {taken rest : Bytes} {ch : UInt8} (unread : rxBuf.drop bytesRead = src)
    (cut : src = taken ++ ch :: rest) :
    rxBuf.drop (bytesRead + (0 + taken.length)) = ch :: rest := by
  rw [Nat.zero_add, ← List.drop_drop, unread, cut, List.drop_left]

/-- A packet that ends at once has been begun before. -/
theorem not_idle_of_framed {deframer before : Deframer} {taken : Bytes}
    (fed : feed deframe deframer taken = some (before, []))
    (framed : 2 ≤ before.vars.deframedBytes) : taken = [] → ¬ deframer.Idle := by
  rintro rfl idle
  obtain ⟨same, -⟩ := Prod.mk.inj (Option.some.inj fed)
  have vars : deframer.vars = before.vars := congrArg Deframer.vars same
  rw [← vars, idle] at framed
  simp at framed

end Round

/-- One round on `src`, which has two bytes or more. When a packet ends in it, the
loop goes on with its flag. -/
theorem pppdInputLoop_round {rxBuf src : Bytes} {bytesRead rounds : Nat} {input : PppdInput}
    (unread : rxBuf.drop bytesRead = src) (two : 2 ≤ src.length)
    (later : ∀ {next : PppdInput} {later : Nat} {taken rest : Bytes},
      src = taken ++ pppFlag :: rest → (taken = [] → ¬ input.deframer.Idle) →
        next.deframer.Idle → rxBuf.drop later = pppFlag :: rest →
          ReadOutcome next rest (pppdInputLoop rxBuf (rounds + 1) later next)) :
    ReadOutcome input src (pppdInputLoop rxBuf (rounds + 2) bytesRead input) := by
  have outcome :=
    pppdRfc1662DecodeLoop_outcome tempPackBufSize src 0 0 input.rfc1662State input.tempPackBuf
  rw [pppdInputLoop_succ unread two]
  simp only [pppdInputRound, pppdRfc1662Decode, unread]
  generalize pppdRfc1662DecodeLoop tempPackBufSize 0 input.rfc1662State input.tempPackBuf 0 src =
    decoded at outcome
  cases outcome with
  | @ran last fed =>
      rw [pppdInputLoop_ran unread two]
      exact .read fed (by simp)
  | @packet before taken rest cut fed clear framed =>
      have fresh := not_idle_of_framed fed framed
      rcases before with ⟨⟨deframedBytes, escape⟩, buf⟩
      obtain rfl : escape = 0 := clear
      have framed' : 2 ≤ deframedBytes := framed
      let next : PppdInput :=
        ⟨⟨0, 0⟩, buf, input.returned ++ [((deframedBytes - 2 : Nat) : Int)],
          input.queued ++ if 0 < ((deframedBytes - 2 : Nat) : Int) then
            [buf.take ((deframedBytes - 2 : Nat) : Int).toNat] else []⟩
      have flagged : feed deframe ⟨⟨deframedBytes, 0⟩, buf⟩ [pppFlag] =
          some (⟨⟨0, 0⟩, buf⟩,
            if 2 < deframedBytes then [buf.take (deframedBytes - 2)] else []) := by
        simp [feed, deframeInto, framed']
      have first : ReadOutcome input (taken ++ [pppFlag]) (next, true) := by
        have fed_flag := feed_append_some fed flagged
        have packets : (if 0 < ((deframedBytes - 2 : Nat) : Int) then
            [buf.take ((deframedBytes - 2 : Nat) : Int).toNat] else []) =
              [] ++ if 2 < deframedBytes then [buf.take (deframedBytes - 2)] else [] := by
          simp only [Int.natCast_pos, Nat.sub_pos_iff_lt, Int.toNat_natCast, List.nil_append]
        simp only [next, packets]
        exact .read fed_flag (by simp)
      have idle : next.deframer.Idle := rfl
      have after := later cut fresh idle (drop_of_cut unread cut)
      have whole : src = taken ++ [pppFlag] ++ rest := by rw [cut, List.append_assoc]; rfl
      rw [whole]
      exact first.append after fun rv member => mem_returned_pppdInputLoop member
  | tooLong cut fed full =>
      have failed : feed deframe input.deframer src = none := by
        rw [cut]
        exact feed_eq_none_of_full fed full
      exact .tooLong failed (mem_returned_pppdInputLoop (by simp))

/-- The loop from a flag on, with no packet begun. -/
theorem pppdInputLoop_idle {rxBuf : Bytes} : ∀ {rounds bytesRead : Nat} {input : PppdInput}
    {rest : Bytes}, input.deframer.Idle → rxBuf.drop bytesRead = pppFlag :: rest →
      rest.length < rounds →
        ReadOutcome input rest (pppdInputLoop rxBuf rounds bytesRead input) := by
  intro rounds
  induction rounds with
  | zero =>
      intro _ _ _ _ _ enough
      omega
  | succ rounds ih =>
      intro bytesRead input rest idle unread enough
      have length : rxBuf.length - bytesRead = rest.length + 1 := by
        rw [← List.length_drop, unread, List.length_cons]
      cases rest with
      | nil =>
          rw [List.length_nil] at length
          rw [pppdInputLoop, if_neg (by omega)]
          have nothing : feed deframe input.deframer [] = some (input.deframer, []) := rfl
          have none : ∀ rv ∈ ([] : List Int), 0 ≤ rv := by simp
          simpa [PppdInput.deframer] using ReadOutcome.read nothing none
      | cons byte rest =>
          rw [List.length_cons] at enough
          obtain ⟨rounds, rfl⟩ : ∃ fewer, rounds = fewer + 1 := ⟨rounds - 1, by omega⟩
          have whole : ReadOutcome input (pppFlag :: byte :: rest)
              (pppdInputLoop rxBuf (rounds + 2) bytesRead input) := by
            apply pppdInputLoop_round unread (by simp)
            intro next later taken after cut fresh idle_next unread_next
            refine ih idle_next unread_next ?_
            -- the first flag ends no packet, so another one did
            obtain ⟨head, tail, rfl⟩ := List.exists_cons_of_ne_nil fun none => fresh none idle
            have lengths := congrArg List.length cut
            simp only [List.length_cons, List.length_append] at lengths
            omega
          exact whole.of_flag_idle idle

/-- **One read** of two bytes or more is decoded byte by byte. -/
theorem pppdInputCb_outcome (input : PppdInput) {rxBuf : Bytes} (two : 2 ≤ rxBuf.length) :
    ReadOutcome input rxBuf (pppdInputCb input rxBuf) := by
  unfold pppdInputCb
  rw [if_neg (List.ne_nil_of_length_pos (by omega))]
  apply pppdInputLoop_round List.drop_zero two
  intro next later taken rest cut _ idle unread
  refine pppdInputLoop_idle idle unread ?_
  rw [cut, List.length_append, List.length_cons]
  omega

/-- A read of one byte is dropped. -/
theorem pppdInputCb_of_one (input : PppdInput) {rxBuf : Bytes} (one : rxBuf.length ≤ 1) :
    pppdInputCb input rxBuf = (input, true) := by
  unfold pppdInputCb
  split
  · rfl
  · rw [pppdInputLoop, if_neg (by omega)]

/-! ## Consecutive reads -/

theorem mem_returned_pppdInputs {rv : Int} {pieces : List Bytes} :
    ∀ {input : PppdInput}, rv ∈ input.returned → rv ∈ (pppdInputs input pieces).1.returned := by
  induction pieces with
  | nil =>
      intro input member
      exact member
  | cons piece rest ih =>
      intro input member
      have kept : rv ∈ (pppdInputCb input piece).1.returned := by
        unfold pppdInputCb
        split
        · exact member
        · exact mem_returned_pppdInputLoop member
      rw [pppdInputs]
      generalize pppdInputCb input piece = result at kept ⊢
      obtain ⟨next, ended⟩ := result
      cases ended with
      | true => exact ih kept
      | false => exact kept

/-- The bytes that reach the decoder: a byte that is read alone does not. -/
def handed (pieces : List Bytes) : Bytes := (pieces.filter fun piece => piece.length ≠ 1).flatten

/-- **Consecutive reads** decode byte by byte what reaches the decoder. -/
theorem pppdInputs_outcome (pieces : List Bytes) :
    ∀ input : PppdInput, ReadOutcome input (handed pieces) (pppdInputs input pieces) := by
  induction pieces with
  | nil =>
      intro input
      have nothing : feed deframe input.deframer [] = some (input.deframer, []) := rfl
      have none : ∀ rv ∈ ([] : List Int), 0 ≤ rv := by simp
      simpa [handed, pppdInputs, PppdInput.deframer] using ReadOutcome.read nothing none
  | cons piece rest ih =>
      intro input
      rw [pppdInputs]
      rcases Nat.lt_or_ge piece.length 2 with short | two
      case inl =>
        have skipped : handed (piece :: rest) = handed rest := by
          rcases piece with _ | ⟨byte, _ | _⟩
          · simp [handed]
          · simp [handed]
          · simp only [List.length_cons] at short
            omega
        rw [skipped, pppdInputCb_of_one input (by omega)]
        exact ih input
      case inr =>
        have taken : handed (piece :: rest) = piece ++ handed rest := by
          have long : piece.length ≠ 1 := by omega
          simp [handed, long]
        have outcome := pppdInputCb_outcome input two
        rw [taken]
        generalize pppdInputCb input piece = result at outcome
        obtain ⟨next, ended⟩ := result
        cases ended with
        | true => exact outcome.append (ih next) fun rv member => mem_returned_pppdInputs member
        | false =>
            cases outcome with
            | tooLong failed reported =>
                exact .tooLong (feed_append_none failed (handed rest)) reported

/-! ## Cuts -/

/-- For every byte of a stream, whether it is read alone. -/
def alone (cut : List Nat) : List Bool := cut.flatMap fun n => List.replicate n (n == 1)

/-- The bytes that are not marked. -/
def unmarked : List Bool → Bytes → Bytes
  | true :: marks, _ :: bytes => unmarked marks bytes
  | false :: marks, byte :: bytes => byte :: unmarked marks bytes
  | _, _ => []

@[simp] theorem length_alone (cut : List Nat) : (alone cut).length = cut.sum := by
  simp [alone, List.length_flatMap]

theorem unmarked_append {marks : List Bool} : ∀ {bytes : Bytes} (_ : bytes.length = marks.length)
    (more : List Bool) (later : Bytes),
      unmarked (marks ++ more) (bytes ++ later) = unmarked marks bytes ++ unmarked more later := by
  induction marks with
  | nil =>
      intro bytes same more later
      obtain rfl := List.length_eq_zero_iff.mp same
      rfl
  | cons mark marks ih =>
      intro bytes same more later
      obtain ⟨byte, rest, rfl⟩ := List.exists_cons_of_length_eq_add_one same
      have shorter : rest.length = marks.length := Nat.succ.inj same
      cases mark with
      | true => exact ih shorter more later
      | false => exact congrArg (byte :: ·) (ih shorter more later)

theorem unmarked_replicate_false {n : Nat} : ∀ {bytes : Bytes}, bytes.length = n →
    unmarked (List.replicate n false) bytes = bytes := by
  induction n with
  | zero =>
      intro bytes none
      rw [List.length_eq_zero_iff.mp none]
      rfl
  | succ n ih =>
      intro bytes same
      obtain ⟨byte, rest, rfl⟩ := List.exists_cons_of_length_eq_add_one same
      exact congrArg (byte :: ·) (ih (Nat.succ.inj same))

theorem unmarked_sublist (marks : List Bool) :
    ∀ bytes : Bytes, List.Sublist (unmarked marks bytes) bytes := by
  induction marks with
  | nil =>
      intro bytes
      exact List.nil_sublist bytes
  | cons mark marks ih =>
      intro bytes
      cases bytes with
      | nil => cases mark <;> exact List.nil_sublist []
      | cons byte bytes =>
          cases mark with
          | true => exact (ih bytes).cons byte
          | false => exact (ih bytes).cons_cons byte

/-- What reaches the decoder of a stream that is cut. -/
theorem handed_splitLengths {cut : List Nat} : ∀ {stream : Bytes}, stream.length = cut.sum →
    handed (cut.splitLengths stream) = unmarked (alone cut) stream := by
  induction cut with
  | nil =>
      intro stream _
      rfl
  | cons n cut ih =>
      intro stream same
      rw [List.sum_cons] at same
      have first : (stream.take n).length = n := List.length_take_of_le (by omega)
      have second : (stream.drop n).length = cut.sum := by
        rw [List.length_drop]
        omega
      have marks : alone (n :: cut) = List.replicate n (n == 1) ++ alone cut := rfl
      have parts : unmarked (alone (n :: cut)) stream =
          unmarked (List.replicate n (n == 1)) (stream.take n) ++
            unmarked (alone cut) (stream.drop n) := by
        conv_lhs => rw [marks, ← List.take_append_drop n stream]
        exact unmarked_append (by rw [first, List.length_replicate]) _ _
      rw [parts, ← ih second, List.splitLengths_cons]
      rcases Nat.decEq n 1 with several | rfl
      · have kept : (n == 1) = false := beq_eq_false_iff_ne.mpr several
        rw [kept, unmarked_replicate_false first]
        simp [handed, first, several]
      · obtain ⟨byte, one⟩ := List.length_eq_one_iff.mp first
        simp [handed, one, unmarked]

/-! ## Two ways of cutting -/

/-- The buffer and the variables have the sizes that the source gives them. -/
structure PppdInput.Fresh (input : PppdInput) : Prop where
  room : input.rfc1662State.deframedBytes ≤ tempPackBufSize
  escape : input.rfc1662State.escape = 0 ∨ input.rfc1662State.escape = pppTrans
  size : input.tempPackBuf.length = tempPackBufSize
  quiet : input.returned = []

/-- No frame has exceeded `temp_pack_buf`. -/
def PppdInput.Fits (input : PppdInput) : Prop := ∀ rv ∈ input.returned, 0 ≤ rv

/-- The reads end and queue the same packets, whatever the stream. -/
def SamePackets (cut cut' : List Nat) : Prop :=
  ∀ (input : PppdInput) (stream : Bytes), input.Fresh → stream.length = cut.sum →
    let first := pppdInputs input (cut.splitLengths stream)
    let second := pppdInputs input (cut'.splitLengths stream)
    first.1.Fits → second.1.Fits →
      first.2 = true ∧ second.2 = true ∧ first.1.queued = second.1.queued

/-- Every byte of the stream is decoded once, in its place. -/
def DecodesAll (cut : List Nat) : Prop :=
  ∀ (input : PppdInput) (stream : Bytes), input.Fresh → stream.length = cut.sum →
    let result := pppdInputs input (cut.splitLengths stream)
    result.1.Fits →
      ∃ last packets, feed deframe input.deframer stream = some (last, packets) ∧
        result.1.queued = input.queued ++ packets

theorem ReadOutcome.of_fits {input : PppdInput} {bytes : Bytes} {result : PppdInput × Bool}
    (outcome : ReadOutcome input bytes result) (fits : result.1.Fits) :
    ∃ last packets, feed deframe input.deframer bytes = some (last, packets) ∧
      result.2 = true ∧ result.1.queued = input.queued ++ packets := by
  cases outcome with
  | read fed _ => exact ⟨_, _, fed, rfl, rfl⟩
  | tooLong failed reported =>
      have negative := fits _ reported
      simp [einval] at negative

theorem ReadOutcome.fits {input : PppdInput} {bytes : Bytes} {result : PppdInput × Bool}
    {last : Deframer × List Bytes} (outcome : ReadOutcome input bytes result)
    (quiet : input.returned = []) (fed : feed deframe input.deframer bytes = some last) :
    result.1.Fits := by
  cases outcome with
  | read _ fine =>
      intro rv member
      rw [quiet, List.nil_append] at member
      exact fine rv member
  | tooLong failed _ =>
      rw [failed] at fed
      cases fed

theorem outcome_of_cut (input : PppdInput) {cut : List Nat} {stream : Bytes}
    (same : stream.length = cut.sum) :
    ReadOutcome input (unmarked (alone cut) stream)
      (pppdInputs input (cut.splitLengths stream)) := by
  rw [← handed_splitLengths same]
  exact pppdInputs_outcome _ input

/-! ### A stream that shows the difference -/

/-- Bytes that go into a packet. -/
def dataBytes (bytes : Bytes) : Nat := bytes.countP fun ch => ch ≠ pppFlag ∧ ch ≠ pppEscape

/-- A packet that has room for all data does not overflow. -/
theorem feed_of_room {bytes : Bytes} : ∀ {deframer : Deframer},
    deframer.vars.deframedBytes + dataBytes bytes ≤ tempPackBufSize →
      ∃ last, feed deframe deframer bytes = some last := by
  induction bytes with
  | nil =>
      intro deframer _
      exact ⟨_, rfl⟩
  | cons ch bytes ih =>
      intro deframer room
      have step : ∃ next, deframe deframer ch = some next ∧
          next.1.vars.deframedBytes + dataBytes bytes ≤ tempPackBufSize := by
        rw [dataBytes, List.countP_cons, ← dataBytes] at room
        rcases deframer with ⟨⟨deframedBytes, escape⟩, buf⟩
        dsimp only [deframe, deframeInto]
        split
        case isTrue flag =>
            simp only [flag, ne_eq, not_true_eq_false, false_and, decide_false, Bool.false_eq_true,
              if_false, Nat.add_zero] at room
            split
            · exact ⟨_, rfl, room⟩
            · split
              · exact ⟨_, rfl, Nat.le_trans (Nat.add_le_add_right (Nat.zero_le _) _) room⟩
              · exact ⟨_, rfl, Nat.le_trans (Nat.add_le_add_right (Nat.zero_le _) _) room⟩
        case isFalse plain =>
        split
        case isTrue escaped =>
            exact ⟨_, rfl, Nat.le_trans (Nat.add_le_add_left (Nat.le_add_right _ _) _) room⟩
        case isFalse data =>
            simp only [plain, data, ne_eq, not_false_eq_true, and_self, decide_true, if_true]
              at room
            have fits : deframedBytes < tempPackBufSize := by omega
            rw [if_pos fits]
            refine ⟨_, rfl, ?_⟩
            simp only at room ⊢
            omega
      obtain ⟨next, stepped, room_next⟩ := step
      obtain ⟨last, fed⟩ := ih room_next
      exact ⟨(last.1, next.2 ++ last.2), by simp [feed, stepped, fed]⟩

theorem feed_escapes (n : Nat) : ∀ deframer : Deframer, ∃ escape,
    feed deframe deframer (List.replicate n pppEscape) =
      some (⟨⟨deframer.vars.deframedBytes, escape⟩, deframer.buf⟩, []) := by
  induction n with
  | zero =>
      intro deframer
      exact ⟨deframer.vars.escape, rfl⟩
  | succ n ih =>
      intro deframer
      obtain ⟨escape, fed⟩ := ih ⟨⟨deframer.vars.deframedBytes, pppTrans⟩, deframer.buf⟩
      have stepped : deframe deframer pppEscape =
          some (⟨⟨deframer.vars.deframedBytes, pppTrans⟩, deframer.buf⟩, []) := rfl
      refine ⟨escape, ?_⟩
      rw [List.replicate_succ, feed, stepped, Option.bind_some, fed]
      rfl

/-- A stream for a list of marks of which the last byte that is not marked is data
and all others are escapes. -/
def shy : List Bool → Bytes
  | [] => []
  | mark :: marks => (if mark = false ∧ false ∉ marks then 0x41 else pppEscape) :: shy marks

@[simp] theorem length_shy (marks : List Bool) : (shy marks).length = marks.length := by
  induction marks with
  | nil => rfl
  | cons mark marks ih => simp [shy, ih]

theorem dataBytes_shy (marks : List Bool) :
    dataBytes (shy marks) = if false ∈ marks then 1 else 0 := by
  induction marks with
  | nil => rfl
  | cons mark marks ih =>
      rw [shy, dataBytes, List.countP_cons, ← dataBytes, ih]
      cases mark <;> by_cases later : false ∈ marks <;> simp [later, pppEscape, pppFlag]

theorem unmarked_shy_of_marked {marks : List Bool} (marked : false ∉ marks) :
    unmarked marks (shy marks) = [] := by
  induction marks with
  | nil => rfl
  | cons mark marks ih =>
      obtain ⟨head, tail⟩ := not_or.mp (List.mem_cons.not.mp marked)
      obtain rfl : mark = true := by simpa using Ne.symm head
      exact ih tail

theorem unmarked_shy {marks : List Bool} (some_left : false ∈ marks) :
    ∃ n, unmarked marks (shy marks) = List.replicate n pppEscape ++ [0x41] := by
  induction marks with
  | nil => cases some_left
  | cons mark marks ih =>
      by_cases later : false ∈ marks
      · obtain ⟨n, left⟩ := ih later
        cases mark with
        | true => exact ⟨n, left⟩
        | false =>
            refine ⟨n + 1, ?_⟩
            rw [shy, if_neg fun both => both.2 later, unmarked, left]
            rfl
      · obtain rfl : mark = false := by
          rcases List.mem_cons.mp some_left with head | tail
          · exact head.symm
          · exact absurd tail later
        refine ⟨0, ?_⟩
        rw [shy, if_pos ⟨rfl, later⟩, unmarked, unmarked_shy_of_marked later]
        rfl

/-- After the first marks three bytes or more are in the packet and none is escaped. -/
theorem feed_shy (marks : List Bool) {deframer : Deframer} (begun : deframer.vars = ⟨3, 0⟩) :
    ∃ last, feed deframe deframer (unmarked marks (shy marks)) = some (last, []) ∧
      3 ≤ last.vars.deframedBytes ∧ last.vars.escape = 0 := by
  by_cases some_left : false ∈ marks
  · obtain ⟨n, left⟩ := unmarked_shy some_left
    obtain ⟨escape, fed⟩ := feed_escapes n deframer
    have data : feed deframe ⟨⟨deframer.vars.deframedBytes, escape⟩, deframer.buf⟩ [0x41] =
        some (⟨⟨deframer.vars.deframedBytes + 1, 0⟩,
          deframer.buf.set deframer.vars.deframedBytes (0x41 ^^^ escape)⟩, []) := by
      simp [feed, deframeInto, begun, pppFlag, pppEscape, tempPackBufSize]
    have whole := feed_append_some fed data
    rw [← left] at whole
    exact ⟨_, whole, by simp [begun], rfl⟩
  · rw [unmarked_shy_of_marked some_left]
    exact ⟨deframer, rfl, by simp [begun], by simp [begun]⟩

/-- A flag after the first marks, and escapes after it. -/
def probe (marks : List Bool) (n : Nat) : Bytes :=
  shy marks ++ pppFlag :: List.replicate n pppEscape

theorem unmarked_replicate (marks : List Bool) (ch : UInt8) :
    unmarked marks (List.replicate marks.length ch) =
      List.replicate (marks.countP (!·)) ch := by
  induction marks with
  | nil => rfl
  | cons mark marks ih =>
      rw [List.length_cons, List.replicate_succ]
      cases mark with
      | true => simpa [unmarked] using ih
      | false => simpa [unmarked, List.replicate_succ] using ih

/-- The flag ends a packet exactly when it is not marked. -/
theorem feed_probe (marks more : List Bool) (mark : Bool) {deframer : Deframer}
    (begun : deframer.vars = ⟨3, 0⟩) :
    ∃ last packets, feed deframe deframer
        (unmarked (marks ++ mark :: more) (probe marks more.length)) = some (last, packets) ∧
      packets.length = if mark then 0 else 1 := by
  have parts : unmarked (marks ++ mark :: more) (probe marks more.length) =
      unmarked marks (shy marks) ++
        unmarked (mark :: more) (pppFlag :: List.replicate more.length pppEscape) :=
    unmarked_append (length_shy marks) _ _
  obtain ⟨before, fed, enough, clear⟩ := feed_shy marks begun
  rw [parts]
  cases mark with
  | true =>
      obtain ⟨escape, fed_rest⟩ := feed_escapes (more.countP (!·)) before
      rw [unmarked, unmarked_replicate]
      exact ⟨_, _, feed_append_some fed fed_rest, rfl⟩
  | false =>
      rcases before with ⟨⟨deframedBytes, escape⟩, buf⟩
      obtain rfl : escape = 0 := clear
      have enough' : 3 ≤ deframedBytes := enough
      have flagged : feed deframe ⟨⟨deframedBytes, 0⟩, buf⟩ [pppFlag] =
          some (⟨⟨0, 0⟩, buf⟩, [buf.take (deframedBytes - 2)]) := by
        have framed : 2 ≤ deframedBytes := by omega
        have filled : 2 < deframedBytes := by omega
        simp [feed, deframeInto, framed, filled]
      obtain ⟨escape, fed_rest⟩ := feed_escapes (more.countP (!·)) ⟨⟨0, 0⟩, buf⟩
      have fed_tail := feed_append_some flagged fed_rest
      rw [unmarked, unmarked_replicate]
      exact ⟨_, _, feed_append_some fed fed_tail, rfl⟩

/-- Every way of reading the stream fits. -/
theorem room_probe (marks other : List Bool) (n : Nat) {deframer : Deframer}
    (begun : deframer.vars = ⟨3, 0⟩) :
    ∃ last, feed deframe deframer (unmarked other (probe marks n)) = some last := by
  apply feed_of_room
  have data : dataBytes (probe marks n) ≤ 1 := by
    have shy_data := dataBytes_shy marks
    unfold dataBytes at shy_data
    unfold dataBytes probe
    rw [List.countP_append, shy_data, List.countP_cons, List.countP_replicate]
    split <;> simp
  have fewer : dataBytes (unmarked other (probe marks n)) ≤ dataBytes (probe marks n) :=
    (unmarked_sublist other (probe marks n)).countP_le
  rw [begun, tempPackBufSize]
  simp only
  omega

/-! ### The exact conditions -/

/-- A decoder with three bytes in the packet. -/
def begun : PppdInput := ⟨⟨3, 0⟩, List.replicate tempPackBufSize 0, [], []⟩

theorem fresh_begun : begun.Fresh where
  room := by decide
  escape := .inl rfl
  size := List.length_replicate
  quiet := rfl

/-- Where two lists of the same length differ first. -/
theorem exists_first_difference {marks marks' : List Bool} :
    marks.length = marks'.length → marks ≠ marks' →
      ∃ before mark after after', marks = before ++ mark :: after ∧
        marks' = before ++ (!mark) :: after' ∧ after.length = after'.length := by
  induction marks generalizing marks' with
  | nil =>
      intro same differ
      exact absurd (List.length_eq_zero_iff.mp same.symm).symm differ
  | cons mark marks ih =>
      intro same differ
      obtain ⟨mark', rest', rfl⟩ := List.exists_cons_of_length_eq_add_one same.symm
      have shorter : marks.length = rest'.length := Nat.succ.inj same
      rcases Bool.eq_or_eq_not mark' mark with equal | opposite
      · subst equal
        obtain ⟨before, found, after, after', rfl, rfl, lengths⟩ :=
          ih shorter fun equal => differ (by rw [equal])
        exact ⟨mark' :: before, found, after, after', rfl, rfl, lengths⟩
      · exact ⟨[], mark, marks, rest', rfl, by rw [opposite]; rfl, shorter⟩

/-- Marks that differ give different packets for some stream, which fits however it
is read. -/
theorem exists_stream_of_ne {marks marks' : List Bool} (same : marks.length = marks'.length)
    (differ : marks ≠ marks') :
    ∃ stream : Bytes, stream.length = marks.length ∧
      (∀ other, ∃ last, feed deframe begun.deframer (unmarked other stream) = some last) ∧
      ∀ last last' packets, feed deframe begun.deframer (unmarked marks stream) =
          some (last, packets) →
        feed deframe begun.deframer (unmarked marks' stream) ≠ some (last', packets) := by
  obtain ⟨before, mark, after, after', rfl, rfl, lengths⟩ := exists_first_difference same differ
  refine ⟨probe before after.length, ?_, fun other => room_probe before other _ rfl, ?_⟩
  · simp [probe]
  · intro last last' packets fed fed'
    have three : begun.deframer.vars = ⟨3, 0⟩ := rfl
    obtain ⟨_, found, read, count⟩ := feed_probe before after mark three
    obtain ⟨_, found', read', count'⟩ := feed_probe before after' (!mark) three
    rw [← lengths] at read'
    rw [fed] at read
    rw [fed'] at read'
    have equal : packets = found := (Prod.mk.inj (Option.some.inj read)).2
    have equal' : packets = found' := (Prod.mk.inj (Option.some.inj read')).2
    rw [← equal] at count
    rw [← equal', count] at count'
    cases mark <;> cases count'

/-- **Two ways of cutting** give the same packets for every stream exactly when the
same bytes are read alone. -/
theorem samePackets_iff {cut cut' : List Nat} (same : cut'.sum = cut.sum) :
    SamePackets cut cut' ↔ alone cut = alone cut' := by
  constructor
  · intro agree
    by_contra differ
    obtain ⟨stream, length, room, apart⟩ :=
      exists_stream_of_ne (by rw [length_alone, length_alone, same]) differ
    rw [length_alone] at length
    have length' : stream.length = cut'.sum := length.trans same.symm
    have outcome := outcome_of_cut begun length
    have outcome' := outcome_of_cut begun length'
    obtain ⟨_, fed⟩ := room (alone cut)
    obtain ⟨_, fed'⟩ := room (alone cut')
    have fits := outcome.fits rfl fed
    have fits' := outcome'.fits rfl fed'
    obtain ⟨-, -, queued⟩ := agree begun stream fresh_begun length fits fits'
    obtain ⟨last, packets, read, -, queued_first⟩ := outcome.of_fits fits
    obtain ⟨last', packets', read', -, queued_second⟩ := outcome'.of_fits fits'
    have equal : packets = packets' := by
      rw [queued_first, queued_second] at queued
      exact List.append_cancel_left queued
    subst equal
    exact apart last last' packets read read'
  · intro equal input stream _ length first second fits fits'
    have outcome := outcome_of_cut input length
    have outcome' := outcome_of_cut input (length.trans same.symm)
    rw [← equal] at outcome'
    obtain ⟨_, packets, read, ended, queued⟩ := outcome.of_fits fits
    obtain ⟨_, packets', read', ended', queued'⟩ := outcome'.of_fits fits'
    obtain rfl : packets = packets' := by
      rw [read] at read'
      exact (Prod.mk.inj (Option.some.inj read')).2
    exact ⟨ended, ended', queued.trans queued'.symm⟩

theorem alone_eq_replicate_iff {cut : List Nat} :
    alone cut = List.replicate cut.sum false ↔ 1 ∉ cut := by
  rw [List.eq_replicate_iff]
  constructor
  · rintro ⟨-, unmarked⟩ single
    have marked : true ∈ alone cut := List.mem_flatMap.mpr ⟨1, single, List.mem_singleton_self true⟩
    exact Bool.noConfusion (unmarked true marked)
  · intro several
    refine ⟨length_alone cut, fun mark member => ?_⟩
    obtain ⟨n, in_cut, repeated⟩ := List.mem_flatMap.mp member
    rw [(List.mem_replicate.mp repeated).2]
    exact beq_eq_false_iff_ne.mpr fun one => several (one ▸ in_cut)

/-- **Every byte is decoded** exactly when no byte is read alone. -/
theorem decodesAll_iff {cut : List Nat} : DecodesAll cut ↔ 1 ∉ cut := by
  rw [← alone_eq_replicate_iff]
  constructor
  · intro whole
    by_contra differ
    obtain ⟨stream, length, room, apart⟩ := exists_stream_of_ne (by simp) differ
    rw [length_alone] at length
    have outcome := outcome_of_cut begun length
    obtain ⟨_, fed⟩ := room (alone cut)
    have fits := outcome.fits rfl fed
    obtain ⟨last, packets, read, queued⟩ := whole begun stream fresh_begun length fits
    obtain ⟨last', packets', read', -, queued'⟩ := outcome.of_fits fits
    have equal : packets' = packets := by
      rw [queued'] at queued
      exact List.append_cancel_left queued
    subst equal
    refine apart last' last packets' read' ?_
    rw [unmarked_replicate_false length]
    exact read
  · intro equal input stream _ length result fits
    have outcome := outcome_of_cut input length
    rw [equal, unmarked_replicate_false length] at outcome
    obtain ⟨last, packets, read, -, queued⟩ := outcome.of_fits fits
    exact ⟨last, packets, read, queued⟩

/-- **Wherever the cuts fall** the packets are the same and every byte is decoded
once, exactly when no read of the two ways of cutting returns a single byte. -/
theorem cuts_decode_iff {cut cut' : List Nat} (same : cut'.sum = cut.sum) :
    SamePackets cut cut' ∧ DecodesAll cut ∧ DecodesAll cut' ↔ 1 ∉ cut ∧ 1 ∉ cut' := by
  rw [samePackets_iff same, decodesAll_iff, decodesAll_iff]
  constructor
  · exact fun all => all.2
  · rintro ⟨whole, whole'⟩
    refine ⟨?_, whole, whole'⟩
    rw [alone_eq_replicate_iff.mpr whole, alone_eq_replicate_iff.mpr whole', same]

/-- Cuts into five bytes and into two and three. -/
theorem cuts_decode_two_three :
    SamePackets [5] [2, 3] ∧ DecodesAll [5] ∧ DecodesAll [2, 3] :=
  have same : [2, 3].sum = [5].sum := rfl
  (cuts_decode_iff same).mpr (by decide)

/-- A packet of three bytes between two flags is found in one read, and lost when the
last flag is read alone. -/
theorem single_byte_read_loses_packet :
    let stream : Bytes := [0x7e, 0x41, 0x42, 0x43, 0x7e]
    let input : PppdInput := ⟨⟨0, 0⟩, List.replicate tempPackBufSize 0, [], []⟩
    let whole := pppdInputs input ([5].splitLengths stream)
    let cut := pppdInputs input ([4, 1].splitLengths stream)
    input.Fresh ∧ whole.1.Fits ∧ cut.1.Fits ∧ whole.2 = true ∧ cut.2 = true ∧
      whole.1.queued = [[0x41]] ∧ cut.1.queued = [] := by
  intro stream input whole cut
  have returned : whole.1.returned = [1] := rfl
  have returned_cut : cut.1.returned = [0] := rfl
  have fits : whole.1.Fits := by
    unfold PppdInput.Fits
    rw [returned]
    decide
  have fits_cut : cut.1.Fits := by
    unfold PppdInput.Fits
    rw [returned_cut]
    decide
  have fresh : input.Fresh :=
    { room := by decide
      escape := .inl rfl
      size := List.length_replicate
      quiet := rfl }
  exact ⟨fresh, fits, fits_cut, rfl, rfl, by decide, rfl⟩

end IsdnRas.Ppp
