import IsdnRas.Yate.Message

/-!
# Lines and reads

The array holds the unfinished line, and a read does two things: it hands the lines that
it finishes to the parser, and leaves a new unfinished line (`readLoop_holding`).
`takeRead` computes both from the bytes alone.

A line of 4095 bytes fills the array. The next byte empties it and takes the rest of the
read with it, whatever that is: the newline of the line and the lines after it, or the
middle of a longer line, whose end is then handed as a line of its own. Which of these
happens depends on where the reads end. So the lines are handed completely, and the same
for all reads, exactly when all lines before the last one have at most 4094 bytes and the
last one at most 4095 (`lines_handed_iff`).
-/

set_option autoImplicit false

namespace IsdnRas.Yate

/-! ## The unfinished line -/

/-- The array holds an unfinished line. -/
def YateMessage.holding (yateMessage : YateMessage) (line : Chars) : YateMessage :=
  { yateMessage with
    yateMsgBuf := line ++ List.replicate (strBufSize - line.length) 0
    yateMsgBufPos := line.length }

/-- A finished line is processed. -/
def handleLine (data : Bool) (yateMessage : YateMessage) (line : Chars) : YateMessage :=
  (yateMessage.holding (line ++ [newline])).process data

/-- The unfinished line after a read, and the lines that the read finishes. -/
def takeRead : Chars → Chars → Chars × List Chars
  | line, [] => (line, [])
  | line, ch :: rest =>
      if line.length = strBufSize - 1 then ([], [])
      else if ch = newline then ((takeRead [] rest).1, line :: (takeRead [] rest).2)
      else takeRead (line ++ [ch]) rest

def takeReads : Chars → List Chars → List Chars
  | _, [] => []
  | line, read :: rest => (takeRead line read).2 ++ takeReads (takeRead line read).1 rest

theorem holding_push (yateMessage : YateMessage) {line : Chars} (ch : UInt8)
    (room : line.length < strBufSize) :
    { yateMessage.holding line with
      yateMsgBuf := (yateMessage.holding line).yateMsgBuf.set line.length ch
      yateMsgBufPos := line.length + 1 } = yateMessage.holding (line ++ [ch]) := by
  have zeros : strBufSize - line.length = (strBufSize - (line.length + 1)) + 1 := by omega
  have stored : (line ++ List.replicate (strBufSize - line.length) 0).set line.length ch =
      line ++ [ch] ++ List.replicate (strBufSize - (line ++ [ch]).length) 0 := by
    rw [List.set_append_right _ _ (Nat.le_refl _), Nat.sub_self, zeros, List.replicate_succ,
      List.set_cons_zero, List.length_append, List.length_singleton, List.append_assoc]
    rfl
  simp only [YateMessage.holding, stored, List.length_append, List.length_singleton]

/-- **What a read does.** -/
theorem readLoop_holding (data : Bool) (read : Chars) : ∀ (yateMessage : YateMessage)
    (line : Chars), line.length < strBufSize →
      (yateMessageReadLoop data (yateMessage.holding line) read).1 =
        ((takeRead line read).2.foldl (handleLine data) yateMessage).holding
          (takeRead line read).1 := by
  induction read with
  | nil =>
      intro yateMessage line _
      rfl
  | cons ch rest ih =>
      intro yateMessage line room
      have pos : (yateMessage.holding line).yateMsgBufPos = line.length := rfl
      unfold yateMessageReadLoop takeRead
      rw [pos]
      split
      case isTrue => rfl
      case isFalse free =>
      have size : strBufSize = 4096 := rfl
      simp only [holding_push yateMessage ch room]
      split
      case isTrue finished =>
          subst finished
          exact ih (handleLine data yateMessage line) [] (by decide)
      case isFalse =>
          refine ih yateMessage (line ++ [ch]) ?_
          rw [List.length_append, List.length_singleton]
          omega

theorem length_takeRead (read : Chars) : ∀ line : Chars, line.length < strBufSize →
    (takeRead line read).1.length < strBufSize := by
  induction read with
  | nil => exact fun line room => room
  | cons ch rest ih =>
      intro line room
      have size : strBufSize = 4096 := rfl
      unfold takeRead
      split
      case isTrue => decide
      case isFalse free =>
      split
      case isTrue => exact ih [] (by decide)
      case isFalse =>
          refine ih _ ?_
          rw [List.length_append, List.length_singleton]
          omega

/-- A line that fits into the array, with its newline. -/
def Fits (line : Chars) : Prop := newline ∉ line ∧ line.length ≤ strBufSize - 2

instance (line : Chars) : Decidable (Fits line) := inferInstanceAs (Decidable (_ ∧ _))

/-- Only lines that fit are handed to the parser. -/
theorem fits_of_mem_takeRead (read : Chars) : ∀ {line : Chars}, newline ∉ line →
    line.length < strBufSize →
      newline ∉ (takeRead line read).1 ∧ ∀ handed ∈ (takeRead line read).2, Fits handed := by
  induction read with
  | nil => exact fun free _ => ⟨free, fun handed member => by cases member⟩
  | cons ch rest ih =>
      intro line free room
      have size : strBufSize = 4096 := rfl
      unfold takeRead
      split
      case isTrue => exact ⟨List.not_mem_nil, fun handed member => by cases member⟩
      case isFalse short =>
      split
      case isTrue =>
          obtain ⟨free', others⟩ := @ih [] List.not_mem_nil (by decide)
          exact ⟨free', List.forall_mem_cons.mpr ⟨⟨free, by omega⟩, others⟩⟩
      case isFalse other =>
          refine ih (by simp [free, Ne.symm other]) ?_
          rw [List.length_append, List.length_singleton]
          omega

theorem fits_of_mem_takeReads (reads : List Chars) : ∀ {line : Chars}, newline ∉ line →
    line.length < strBufSize → ∀ handed ∈ takeReads line reads, Fits handed := by
  induction reads with
  | nil => exact fun _ _ handed member => by cases member
  | cons read rest ih =>
      intro line free room
      obtain ⟨free', first⟩ := fits_of_mem_takeRead read free room
      rw [takeReads, List.forall_mem_append]
      exact ⟨first, ih free' (length_takeRead read line room)⟩

/-- **What the reads hand to the parser.** -/
theorem reads_holding (data : Bool) (reads : List Chars) : ∀ (yateMessage : YateMessage)
    (line : Chars), line.length < strBufSize → (∀ read ∈ reads, read ≠ []) →
      ∃ last, yateMessageReads data (yateMessage.holding line) reads =
        ((takeReads line reads).foldl (handleLine data) yateMessage).holding last := by
  induction reads with
  | nil => exact fun yateMessage line _ _ => ⟨line, rfl⟩
  | cons read rest ih =>
      intro yateMessage line room nonempty
      obtain ⟨some_bytes, nonempty⟩ := List.forall_mem_cons.mp nonempty
      obtain ⟨last, later⟩ := ih ((takeRead line read).2.foldl (handleLine data) yateMessage)
        _ (length_takeRead read line room) nonempty
      refine ⟨last, ?_⟩
      rw [yateMessageReads, yateMessageReadCb, if_neg some_bytes,
        readLoop_holding data read _ _ room, later, takeReads, List.foldl_append]

/-- What the parser is given for a line: a NUL is in the place of the newline. -/
def finishedBuf (line : Chars) : Chars :=
  line ++ 0 :: List.replicate (strBufSize - (line.length + 1)) 0

theorem finished_set (yateMessage : YateMessage) (line : Chars) :
    (yateMessage.holding (line ++ [newline])).yateMsgBuf.set
      ((yateMessage.holding (line ++ [newline])).yateMsgBufPos - 1) 0 = finishedBuf line := by
  have last : (yateMessage.holding (line ++ [newline])).yateMsgBufPos - 1 = line.length := by
    simp [YateMessage.holding]
  rw [last]
  simp [YateMessage.holding, finishedBuf, List.set_append_right]

theorem finished_take (line : Chars) :
    (finishedBuf line).take (line.length + 1) = line ++ [0] := by
  rw [finishedBuf, List.append_cons]
  exact List.take_left' (by simp)

/-- Once the parser has left the array, lines are handed to it without a known effect. -/
theorem handleLine_unknown (data : Bool) {yateMessage : YateMessage} (line : Chars)
    (unknown : yateMessage.params = none) :
    (handleLine data yateMessage line).params = none ∧
      (handleLine data yateMessage line).handed =
        yateMessage.handed ++ [⟨line ++ [0], none⟩] ∧
      (handleLine data yateMessage line).out = yateMessage.out := by
  have pos : (yateMessage.holding (line ++ [newline])).yateMsgBufPos = line.length + 1 :=
    List.length_append
  have unknown' : (yateMessage.holding (line ++ [newline])).params = none := unknown
  unfold handleLine YateMessage.process
  simp only [finished_set, unknown']
  simp only [pos, finished_take]
  exact ⟨trivial, rfl, rfl⟩

/-- **A line is parsed** with a NUL in the place of its newline, and the strings are passed
when it is a call. -/
theorem handleLine_parsed (data : Bool) {yateMessage : YateMessage} {line : Chars}
    {params : Parameters} {parser : Parser} {callExecute : Option Bool}
    (known : yateMessage.params = some params)
    (parsed : yateMessageParseIncoming ⟨finishedBuf line, params, yateMessage.out, []⟩
      (line.length + 1) = (parser, callExecute)) :
    (handleLine data yateMessage line).params = callExecute.map (fun _ => parser.params) ∧
      (handleLine data yateMessage line).handed = yateMessage.handed ++
        [⟨line ++ [0],
          if callExecute = some true ∧ data = true then some parser.params else none⟩] ∧
      (handleLine data yateMessage line).out =
        if callExecute = none then yateMessage.out else parser.out := by
  have pos : (yateMessage.holding (line ++ [newline])).yateMsgBufPos = line.length + 1 :=
    List.length_append
  have known' : (yateMessage.holding (line ++ [newline])).params = some params := known
  have parsed' : yateMessageParseIncoming
      ⟨finishedBuf line, params, (yateMessage.holding (line ++ [newline])).out, []⟩
        (line.length + 1) = (parser, callExecute) := parsed
  unfold handleLine YateMessage.process
  simp only [finished_set, known']
  simp only [pos, finished_take, parsed']
  cases callExecute with
  | none => exact ⟨rfl, rfl, rfl⟩
  | some callExecute => cases callExecute <;> cases data <;> exact ⟨rfl, rfl, rfl⟩

/-- A processed line has been handed to the parser. -/
theorem handleLine_handed (data : Bool) (yateMessage : YateMessage) (line : Chars) :
    ∃ passed, (handleLine data yateMessage line).handed =
      yateMessage.handed ++ [⟨line ++ [0], passed⟩] := by
  cases known : yateMessage.params with
  | none => exact ⟨_, (handleLine_unknown data line known).2.1⟩
  | some params => exact ⟨_, (handleLine_parsed data known rfl).2.1⟩

theorem handleLines_handed (data : Bool) (lines : List Chars) : ∀ yateMessage : YateMessage,
    (lines.foldl (handleLine data) yateMessage).handed.map Handed.line =
      yateMessage.handed.map Handed.line ++ lines.map (· ++ [0]) := by
  induction lines with
  | nil => exact fun yateMessage => (List.append_nil _).symm
  | cons line rest ih =>
      intro yateMessage
      obtain ⟨passed, handed⟩ := handleLine_handed data yateMessage line
      rw [List.foldl_cons, ih, handed, List.map_append, List.append_assoc]
      rfl

/-! ## The lines of a stream -/

/-- The lines that end with a newline, without it. -/
def linesOf (stream : Chars) : List Chars := (stream.splitOn newline).dropLast

/-- The lines that fit into the array with their newline and a NUL. -/
def keptLines (stream : Chars) : List Chars :=
  (linesOf stream).filter fun line => line.length ≤ strBufSize - 2

/-- No line is too long but the last one, which has at most one byte too many. -/
def NoneTooLong (stream : Chars) : Prop :=
  (∀ line ∈ (linesOf stream).dropLast, line.length ≤ strBufSize - 2) ∧
    ∀ line ∈ (linesOf stream).getLast?, line.length ≤ strBufSize - 1

theorem linesOf_tail {tail : Chars} (unfinished : newline ∉ tail) : linesOf tail = [] := by
  rw [linesOf, List.splitOn_eq_singleton unfinished]
  rfl

theorem linesOf_line {line : Chars} (rest : Chars) (free : newline ∉ line) :
    linesOf (line ++ newline :: rest) = line :: linesOf rest := by
  rw [linesOf, List.splitOn_append_cons_self_of_not_mem free, linesOf,
    List.dropLast_cons_of_ne_nil (List.splitOn_ne_nil _ _)]

/-- A stream is an unfinished line, or a line and another stream. -/
theorem unfinished_or_line (stream : Chars) :
    newline ∉ stream ∨ ∃ line rest, stream = line ++ newline :: rest ∧ newline ∉ line := by
  by_cases member : newline ∈ stream
  · exact .inr (List.eq_append_cons_of_mem member)
  · exact .inl member

theorem linesOf_eq_nil_iff {stream : Chars} : linesOf stream = [] ↔ newline ∉ stream := by
  constructor
  · intro none
    rcases unfinished_or_line stream with unfinished | ⟨line, rest, rfl, free⟩
    · exact unfinished
    · rw [linesOf_line rest free] at none
      cases none
  · exact linesOf_tail

theorem noneTooLong_tail {tail : Chars} (unfinished : newline ∉ tail) : NoneTooLong tail := by
  simp [NoneTooLong, linesOf_tail unfinished]

theorem noneTooLong_line {line : Chars} (rest : Chars) (free : newline ∉ line) :
    NoneTooLong (line ++ newline :: rest) ↔
      if newline ∈ rest then line.length ≤ strBufSize - 2 ∧ NoneTooLong rest
      else line.length ≤ strBufSize - 1 := by
  unfold NoneTooLong
  rw [linesOf_line rest free]
  split
  case isTrue more =>
      obtain ⟨next, others, lines⟩ := List.exists_cons_of_ne_nil
        (fun none => linesOf_eq_nil_iff.mp none more)
      rw [lines, List.dropLast_cons_cons, List.forall_mem_cons, List.getLast?_cons_cons, and_assoc]
  case isFalse last =>
      rw [linesOf_tail last]
      simp

theorem keptLines_tail {tail : Chars} (unfinished : newline ∉ tail) : keptLines tail = [] := by
  rw [keptLines, linesOf_tail unfinished, List.filter_nil]

theorem keptLines_line {line : Chars} (rest : Chars) (free : newline ∉ line) :
    keptLines (line ++ newline :: rest) =
      if line.length ≤ strBufSize - 2 then line :: keptLines rest else keptLines rest := by
  rw [keptLines, linesOf_line rest free, List.filter_cons]
  simp only [decide_eq_true_eq]
  rfl

/-! ## Lines that are handed completely -/

theorem takeRead_newline {line : Chars} (rest : Chars) (fits : line.length ≤ strBufSize - 2) :
    takeRead line (newline :: rest) = ((takeRead [] rest).1, line :: (takeRead [] rest).2) := by
  have size : strBufSize = 4096 := rfl
  rw [takeRead, if_neg (by omega), if_pos rfl]

theorem takeRead_full {line : Chars} (ch : UInt8) (rest : Chars)
    (full : line.length = strBufSize - 1) : takeRead line (ch :: rest) = ([], []) := by
  rw [takeRead, if_pos full]

/-- Where an overflow does no harm: all that it drops is an unfinished line, perhaps after
the newline of a line that is one byte too long. -/
theorem overflow_harmless {line : Chars} {ch : UInt8} {rest : Chars} (free : newline ∉ line)
    (full : line.length = strBufSize - 1) (noneTooLong : NoneTooLong (line ++ ch :: rest)) :
    newline ∉ rest ∧ keptLines (line ++ ch :: rest) = [] := by
  have size : strBufSize = 4096 := rfl
  by_cases finished : ch = newline
  · subst finished
    rw [noneTooLong_line rest free] at noneTooLong
    split at noneTooLong
    case isTrue => omega
    case isFalse last =>
        refine ⟨last, ?_⟩
        rw [keptLines_line rest free, if_neg (by omega), keptLines_tail last]
  · by_cases more : newline ∈ rest
    · obtain ⟨middle, later, rfl, middle_free⟩ := List.eq_append_cons_of_mem more
      have longer : newline ∉ line ++ ch :: middle := by
        simp [free, middle_free, Ne.symm finished]
      have length : (line ++ ch :: middle).length = line.length + (middle.length + 1) :=
        List.length_append
      have shape : line ++ ch :: (middle ++ newline :: later) =
          (line ++ ch :: middle) ++ newline :: later := by simp
      rw [shape, noneTooLong_line later longer] at noneTooLong
      split at noneTooLong <;> omega
    · have unfinished : newline ∉ line ++ ch :: rest := by
        simp [free, more, Ne.symm finished]
      exact ⟨more, keptLines_tail unfinished⟩

/-- A read of a stream without long lines. -/
theorem takeRead_kept (more read : Chars) : ∀ {line : Chars}, newline ∉ line →
    line.length < strBufSize → NoneTooLong (line ++ (read ++ more)) →
      keptLines (line ++ (read ++ more)) =
          (takeRead line read).2 ++ keptLines ((takeRead line read).1 ++ more) ∧
        NoneTooLong ((takeRead line read).1 ++ more) ∧ newline ∉ (takeRead line read).1 := by
  induction read with
  | nil =>
      intro line free _ noneTooLong
      exact ⟨rfl, noneTooLong, free⟩
  | cons ch rest ih =>
      intro line free room noneTooLong
      have size : strBufSize = 4096 := rfl
      rw [List.cons_append] at noneTooLong ⊢
      by_cases full : line.length = strBufSize - 1
      · obtain ⟨unfinished, none⟩ := overflow_harmless free full noneTooLong
        have unfinished : newline ∉ more := fun member =>
          unfinished (List.mem_append_right _ member)
        rw [takeRead_full ch rest full, none]
        exact ⟨(keptLines_tail unfinished).symm, noneTooLong_tail unfinished, List.not_mem_nil⟩
      · by_cases finished : ch = newline
        · subst finished
          have fits : line.length ≤ strBufSize - 2 := by omega
          have later : NoneTooLong ([] ++ (rest ++ more)) := by
            rw [noneTooLong_line _ free] at noneTooLong
            split at noneTooLong
            case isTrue => exact noneTooLong.2
            case isFalse last => exact noneTooLong_tail last
          obtain ⟨kept, noneTooLong', free'⟩ := ih List.not_mem_nil (by decide) later
          rw [takeRead_newline rest fits, keptLines_line _ free, if_pos fits]
          exact ⟨congrArg (line :: ·) kept, noneTooLong', free'⟩
        · have free' : newline ∉ line ++ [ch] := by simp [free, Ne.symm finished]
          have room' : (line ++ [ch]).length < strBufSize := by
            rw [List.length_append, List.length_singleton]
            omega
          rw [takeRead, if_neg full, if_neg finished, List.append_cons]
          rw [List.append_cons] at noneTooLong
          exact ih free' room' noneTooLong

/-- **The reads of a stream without long lines** hand its lines. -/
theorem takeReads_kept (reads : List Chars) : ∀ {line : Chars}, newline ∉ line →
    line.length < strBufSize → NoneTooLong (line ++ reads.flatten) →
      takeReads line reads = keptLines (line ++ reads.flatten) := by
  induction reads with
  | nil =>
      intro line free _ _
      rw [List.flatten_nil, List.append_nil, keptLines_tail free, takeReads]
  | cons read rest ih =>
      intro line free room noneTooLong
      rw [List.flatten_cons] at noneTooLong ⊢
      obtain ⟨kept, noneTooLong', free'⟩ := takeRead_kept rest.flatten read free room noneTooLong
      rw [takeReads, kept, ih free' (length_takeRead read line room) noneTooLong']

/-! ## Lines that are too long -/

/-- Reads that return the stream, each of them between one byte and a whole buffer. -/
def IsCut (reads : List Chars) (stream : Chars) : Prop :=
  reads.flatten = stream ∧ ∀ read ∈ reads, read ≠ [] ∧ read.length ≤ tempBufSize

/-- A part of a stream can be read so that it hands `lines` and leaves nothing. -/
def CanHand (part : Chars) (lines : List Chars) : Prop :=
  ∃ reads, IsCut reads part ∧ ∀ later, takeReads [] (reads ++ later) = lines ++ takeReads [] later

/-- All ways of reading a stream hand its lines. -/
def AllCutsKeep (stream : Chars) : Prop :=
  ∀ reads, IsCut reads stream → takeReads [] reads = keptLines stream

theorem IsCut.append {reads others : List Chars} {part rest : Chars} (first : IsCut reads part)
    (second : IsCut others rest) : IsCut (reads ++ others) (part ++ rest) := by
  refine ⟨?_, ?_⟩
  · rw [List.flatten_append, first.1, second.1]
  · intro read member
    rcases List.mem_append.mp member with inside | inside
    · exact first.2 read inside
    · exact second.2 read inside

theorem exists_isCut (stream : Chars) : ∃ reads, IsCut reads stream := by
  refine ⟨stream.map fun ch => [ch], ?_, ?_⟩
  · induction stream with
    | nil => rfl
    | cons ch rest ih => rw [List.map_cons, List.flatten_cons, ih, List.singleton_append]
  · intro read member
    obtain ⟨ch, -, rfl⟩ := List.mem_map.mp member
    have one : 1 ≤ tempBufSize := by decide
    exact ⟨List.cons_ne_nil ch [], one⟩

section CanHand

variable {part rest line : Chars} {lines others : List Chars}

theorem CanHand.append (first : CanHand part lines) (second : CanHand rest others) :
    CanHand (part ++ rest) (lines ++ others) := by
  obtain ⟨reads, cut, hand⟩ := first
  obtain ⟨reads', cut', hand'⟩ := second
  refine ⟨reads ++ reads', cut.append cut', fun later => ?_⟩
  rw [List.append_assoc, hand, hand', List.append_assoc]

/-- What is left of the condition after a part. -/
theorem AllCutsKeep.after (keep : AllCutsKeep (part ++ rest)) (hand : CanHand part lines)
    {reads : List Chars} (cut : IsCut reads rest) :
    lines ++ takeReads [] reads = keptLines (part ++ rest) := by
  obtain ⟨first, cut', hand⟩ := hand
  rw [← hand, keep _ (cut'.append cut)]

/-- A part is not read in two ways that hand different lines. -/
theorem AllCutsKeep.unique (keep : AllCutsKeep (part ++ rest)) (first : CanHand part lines)
    (second : CanHand part others) : lines = others := by
  obtain ⟨reads, cut⟩ := exists_isCut rest
  exact List.append_cancel_right ((keep.after first cut).trans (keep.after second cut).symm)

/-- Bytes that fit are added to the unfinished line. -/
theorem takeRead_append (rest : Chars) (bytes : Chars) : ∀ {line : Chars}, newline ∉ bytes →
    line.length + bytes.length < strBufSize →
      takeRead line (bytes ++ rest) = takeRead (line ++ bytes) rest := by
  induction bytes with
  | nil =>
      intro line _ _
      rw [List.nil_append, List.append_nil]
  | cons ch bytes ih =>
      intro line free room
      have size : strBufSize = 4096 := rfl
      obtain ⟨other, free⟩ := List.ne_and_not_mem_of_not_mem_cons free
      rw [List.length_cons] at room
      have room' : (line ++ [ch]).length + bytes.length < strBufSize := by
        rw [List.length_append, List.length_singleton]
        omega
      rw [List.cons_append, takeRead, if_neg (by omega), if_neg (Ne.symm other), ih free room',
        ← List.append_cons]

/-- A line that fits is handed by one read. -/
theorem CanHand.of_fits (free : newline ∉ line) (fits : line.length ≤ strBufSize - 2) :
    CanHand (line ++ [newline]) [line] := by
  have size : strBufSize = 4096 := rfl
  have temp : tempBufSize = 4096 := rfl
  refine ⟨[line ++ [newline]], ⟨by simp, ?_⟩, fun later => ?_⟩
  · intro read member
    obtain rfl := List.mem_singleton.mp member
    refine ⟨by simp, ?_⟩
    rw [List.length_append, List.length_singleton]
    omega
  · have room : ([] : Chars).length + line.length < strBufSize := by
      rw [List.length_nil]
      omega
    rw [List.singleton_append, takeReads, takeRead_append _ _ free room, List.nil_append,
      takeRead_newline [] fits]
    rfl

/-- Up to a whole read is dropped after a line that fills the array. -/
theorem CanHand.overflow {dropped : Chars} (free : newline ∉ line)
    (full : line.length = strBufSize - 1) (nonempty : dropped ≠ [])
    (short : dropped.length ≤ tempBufSize) : CanHand (line ++ dropped) [] := by
  have size : strBufSize = 4096 := rfl
  have temp : tempBufSize = 4096 := rfl
  refine ⟨[line, dropped], ⟨by simp, ?_⟩, fun later => ?_⟩
  · intro read member
    rcases List.mem_cons.mp member with rfl | member
    · refine ⟨?_, by omega⟩
      rintro rfl
      rw [List.length_nil] at full
      omega
    · obtain rfl := List.mem_singleton.mp member
      exact ⟨nonempty, short⟩
  · have filled : takeRead [] line = (line, []) := by
      have room : ([] : Chars).length + line.length < strBufSize := by
        rw [List.length_nil]
        omega
      have stored := @takeRead_append [] line [] free room
      rwa [List.append_nil, List.nil_append, takeRead] at stored
    obtain ⟨ch, rest, rfl⟩ := List.exists_cons_of_ne_nil nonempty
    rw [List.cons_append, List.singleton_append, takeReads, filled, takeReads,
      takeRead_full ch rest full]
    rfl

/-- A longer block without newlines is dropped. -/
theorem CanHand.block (free : newline ∉ part) (long : strBufSize ≤ part.length)
    (short : part.length ≤ strBufSize - 1 + tempBufSize) : CanHand part [] := by
  have size : strBufSize = 4096 := rfl
  have full : (part.take (strBufSize - 1)).length = strBufSize - 1 := by
    rw [List.length_take]
    omega
  have rest_length : (part.drop (strBufSize - 1)).length = part.length - (strBufSize - 1) :=
    List.length_drop
  have nonempty : part.drop (strBufSize - 1) ≠ [] := List.length_pos_iff.mp (by omega)
  have dropped := CanHand.overflow (fun member => free (List.mem_of_mem_take member)) full nonempty
    (by omega)
  rwa [List.take_append_drop] at dropped

/-- The first 4096 bytes of a line are dropped. -/
theorem CanHand.after_block (free : newline ∉ line) (long : strBufSize ≤ line.length)
    (hand : CanHand (line.drop strBufSize ++ [newline]) lines) :
    CanHand (line ++ [newline]) lines := by
  have taken : (line.take strBufSize).length = strBufSize := List.length_take_of_le long
  have first := CanHand.block (fun member => free (List.mem_of_mem_take member))
    (Nat.le_of_eq taken.symm) (Nat.le_trans (Nat.le_of_eq taken) (by decide))
  have whole := first.append hand
  rwa [← List.append_assoc, List.take_append_drop] at whole

/-- Blocks are dropped until the rest of the line is short. -/
theorem CanHand.of_blocks {least : Nat}
    (hand : ∀ {line : Chars}, newline ∉ line → least ≤ line.length →
      line.length < least + strBufSize → CanHand (line ++ [newline]) lines) (n : Nat) :
    ∀ {line : Chars}, line.length = n → newline ∉ line → least ≤ line.length →
      CanHand (line ++ [newline]) lines := by
  have size : strBufSize = 4096 := rfl
  induction n using Nat.strongRecOn with
  | _ n ih =>
      intro line length free long
      by_cases short : line.length < least + strBufSize
      · exact hand free long short
      · refine CanHand.after_block free (by omega) ?_
        have left : (line.drop strBufSize).length = line.length - strBufSize := List.length_drop
        exact ih (line.length - strBufSize) (by omega) left
          (fun member => free (List.mem_of_mem_drop member)) (by omega)

/-- A line that is too long can be dropped as a whole. -/
theorem CanHand.long_line (free : newline ∉ line) (long : strBufSize - 1 ≤ line.length) :
    CanHand (line ++ [newline]) [] := by
  have size : strBufSize = 4096 := rfl
  have temp : tempBufSize = 4096 := rfl
  refine CanHand.of_blocks (fun {line} free long short => ?_) _ rfl free long
  have full : (line.take (strBufSize - 1)).length = strBufSize - 1 := by
    rw [List.length_take]
    omega
  have rest_length : (line.drop (strBufSize - 1) ++ [newline]).length ≤ tempBufSize := by
    rw [List.length_append, List.length_drop, List.length_singleton]
    omega
  have dropped := CanHand.overflow (fun member => free (List.mem_of_mem_take member)) full
    (List.append_ne_nil_of_right_ne_nil _ (List.cons_ne_nil newline [])) rest_length
  rwa [← List.append_assoc, List.take_append_drop] at dropped

/-- A line of at least 4096 bytes can also be read so that an empty line is handed. -/
theorem CanHand.end_of_line (free : newline ∉ line) (long : strBufSize ≤ line.length) :
    CanHand (line ++ [newline]) [[]] := by
  have size : strBufSize = 4096 := rfl
  have temp : tempBufSize = 4096 := rfl
  refine CanHand.of_blocks (fun free long short => ?_) _ rfl free long
  exact (CanHand.block free long (by omega)).append
    (CanHand.of_fits List.not_mem_nil (Nat.zero_le _))

/-- A line that is one byte too long can take a byte of the next line with it. -/
theorem CanHand.next_line {next : Chars} (free : newline ∉ line)
    (full : line.length = strBufSize - 1) (free' : newline ∉ next) :
    ∃ lines others, CanHand (line ++ newline :: (next ++ [newline])) lines ∧
      CanHand (line ++ newline :: (next ++ [newline])) others ∧ lines ≠ others := by
  have size : strBufSize = 4096 := rfl
  have temp : tempBufSize = 4096 := rfl
  have dropped : CanHand (line ++ [newline]) [] := CanHand.long_line free (Nat.le_of_eq full.symm)
  have shape : line ++ newline :: (next ++ [newline]) =
      (line ++ [newline]) ++ (next ++ [newline]) := by simp
  by_cases long : strBufSize ≤ next.length
  · refine ⟨[], [[]], ?_, ?_, List.cons_ne_nil [] [] |>.symm⟩
    · rw [shape]
      exact dropped.append (CanHand.long_line free' (by omega))
    · rw [shape]
      exact dropped.append (CanHand.end_of_line free' long)
  · cases next with
    | nil =>
        refine ⟨[], [[]], ?_, ?_, List.cons_ne_nil [] [] |>.symm⟩
        · exact CanHand.overflow free full (List.cons_ne_nil _ _) (by simp [temp])
        · rw [shape]
          exact dropped.append (CanHand.of_fits List.not_mem_nil (Nat.zero_le _))
    | cons ch tail =>
        rw [List.length_cons] at long
        have tail_free : newline ∉ tail := (List.ne_and_not_mem_of_not_mem_cons free').2
        have stolen : CanHand (line ++ newline :: (ch :: tail ++ [newline])) [tail] := by
          have lost : CanHand (line ++ [newline, ch]) [] :=
            CanHand.overflow free full (List.cons_ne_nil _ _) (by simp [temp])
          have both := lost.append (CanHand.of_fits tail_free (by omega))
          have shape' : line ++ newline :: (ch :: tail ++ [newline]) =
              (line ++ [newline, ch]) ++ (tail ++ [newline]) := by simp
          rw [shape']
          exact both
        by_cases fits : (ch :: tail).length ≤ strBufSize - 2
        · refine ⟨[tail], [ch :: tail], stolen, ?_, ?_⟩
          · rw [shape]
            exact dropped.append (CanHand.of_fits free' fits)
          · intro same
            have length := congrArg List.length (List.cons.inj same).1
            rw [List.length_cons] at length
            omega
        · refine ⟨[tail], [], stolen, ?_, List.cons_ne_nil tail []⟩
          rw [shape]
          exact dropped.append (CanHand.long_line free' (by omega))

end CanHand

/-- **All ways of reading a stream hand its lines** exactly when none is too long. -/
theorem allCutsKeep_iff (stream : Chars) : AllCutsKeep stream ↔ NoneTooLong stream := by
  have size : strBufSize = 4096 := rfl
  constructor
  · induction length : stream.length using Nat.strongRecOn generalizing stream with
    | _ n ih =>
        intro keep
        rcases unfinished_or_line stream with unfinished | ⟨line, rest, rfl, free⟩
        · exact noneTooLong_tail unfinished
        have shorter : rest.length < n := by
          rw [List.length_append, List.length_cons] at length
          omega
        rw [List.append_cons] at keep
        rw [noneTooLong_line rest free]
        have not_long : ¬ strBufSize ≤ line.length := fun long => by
          have dropped := CanHand.long_line free (Nat.le_of_succ_le (by omega))
          exact absurd (keep.unique dropped (CanHand.end_of_line free long))
            (List.cons_ne_nil [] []).symm
        split
        case isFalse => omega
        case isTrue more =>
            have fits : line.length ≤ strBufSize - 2 := by
              by_contra tooLong
              have full : line.length = strBufSize - 1 := by omega
              obtain ⟨next, later, rfl, free'⟩ := List.eq_append_cons_of_mem more
              obtain ⟨lines, others, first, second, differ⟩ := CanHand.next_line free full free'
              have shape : line ++ [newline] ++ (next ++ newline :: later) =
                  line ++ newline :: (next ++ [newline]) ++ later := by simp
              rw [shape] at keep
              exact differ (keep.unique first second)
            refine ⟨fits, ih _ shorter rest rfl fun reads cut => ?_⟩
            have after := keep.after (CanHand.of_fits free fits) cut
            rw [← List.append_cons, keptLines_line rest free, if_pos fits] at after
            exact (List.cons.inj after).2
  · intro noneTooLong reads cut
    obtain ⟨rfl, -⟩ := cut
    exact takeReads_kept reads List.not_mem_nil (by decide) noneTooLong

/-- The lines that reads hand to the parser, from the bytes alone. -/
theorem reads_handed (data : Bool) {reads : List Chars} (nonempty : ∀ read ∈ reads, read ≠ []) :
    (yateMessageReads data .initial reads).handed.map Handed.line =
      (takeReads [] reads).map (· ++ [0]) := by
  obtain ⟨last, whole⟩ := reads_holding data reads .initial [] (by decide) nonempty
  have start : YateMessage.initial = YateMessage.initial.holding [] := rfl
  rw [start, whole]
  exact handleLines_handed data _ _

/-- **The lines that are handed to the parser.** All ways in which reads of at most a whole
buffer return a stream hand the lines of at most 4094 bytes, each complete, in order and
nothing else, exactly when no line but the last is longer, and that one by at most a
byte. -/
theorem lines_handed_iff (data : Bool) (stream : Chars) :
    (∀ reads : List Chars, reads.flatten = stream →
      (∀ read ∈ reads, 1 ≤ read.length ∧ read.length ≤ tempBufSize) →
        (yateMessageReads data .initial reads).handed.map Handed.line =
          (keptLines stream).map (· ++ [0])) ↔
      NoneTooLong stream := by
  rw [← allCutsKeep_iff]
  refine forall_congr' fun reads => ?_
  have injective : Function.Injective fun line : Chars => line ++ [0] :=
    fun _ _ same => List.append_cancel_right same
  constructor
  · rintro keep ⟨stream, cut⟩
    have lines := keep stream fun read member =>
      ⟨List.length_pos_iff.mpr (cut read member).1, (cut read member).2⟩
    rw [reads_handed data fun read member => (cut read member).1] at lines
    exact List.map_injective_iff.mpr injective lines
  · intro keep stream cut
    have nonempty : ∀ read ∈ reads, read ≠ [] := fun read member =>
      List.length_pos_iff.mp (cut read member).1
    rw [reads_handed data nonempty,
      keep ⟨stream, fun read member => ⟨nonempty read member, (cut read member).2⟩⟩]

/-- A read that fills the array with one byte too many leaves nothing. -/
theorem takeRead_block {block : Chars} (free : newline ∉ block)
    (length : block.length = strBufSize) : takeRead [] block = ([], []) := by
  have size : strBufSize = 4096 := rfl
  have nonempty : block ≠ [] := List.length_pos_iff.mp (by omega)
  have shape := List.dropLast_concat_getLast nonempty
  have full : block.dropLast.length = strBufSize - 1 := by rw [List.length_dropLast, length]
  have room : ([] : Chars).length + block.dropLast.length < strBufSize := by
    rw [List.length_nil, full]
    omega
  rw [← shape, takeRead_append _ _ (fun member => free (List.dropLast_subset block member)) room,
    List.nil_append, takeRead_full _ _ full]

/-- **The end of a long line is handed as a line.** The first read fills the array and
drops a byte; the second one brings the last byte of the line and its newline. -/
theorem end_of_long_line_handed :
    let reads : List Chars := [List.replicate 4096 0x61, [0x62, newline]]
    (∀ read ∈ reads, 1 ≤ read.length ∧ read.length ≤ tempBufSize) ∧
      (yateMessageReads true .initial reads).handed.map Handed.line = [[0x62, 0]] ∧
      keptLines reads.flatten = [] := by
  have length : (List.replicate 4096 (0x61 : UInt8)).length = strBufSize := List.length_replicate
  have free : newline ∉ List.replicate 4096 (0x61 : UInt8) := fun member =>
    absurd (List.eq_of_mem_replicate member) (by decide)
  generalize List.replicate 4096 (0x61 : UInt8) = block at length free
  have size : strBufSize = 4096 := rfl
  have temp : tempBufSize = 4096 := rfl
  have cut : ∀ read ∈ [block, [0x62, newline]], 1 ≤ read.length ∧ read.length ≤ tempBufSize := by
    rw [List.forall_mem_cons, List.forall_mem_singleton]
    exact ⟨by omega, by decide⟩
  refine ⟨cut, ?_, ?_⟩
  · rw [reads_handed true fun read member => List.length_pos_iff.mp (cut read member).1, takeReads,
      takeRead_block free length]
    rfl
  · have shape : [block, [0x62, newline]].flatten = (block ++ [0x62]) ++ newline :: [] := by simp
    have free' : newline ∉ block ++ [0x62] := fun member =>
      (List.mem_append.mp member).elim free (by decide)
    rw [shape, keptLines_line [] free', List.length_append, length]
    rfl

end IsdnRas.Yate
