import IsdnRas.Yate.Fields

/-!
# The message that starts a call

A line is answered, and a call is started, when its fourth field is `call.execute` and a
fifth field follows (`call_execute_answered`). The parser does not look at the first field,
so the confirmations of Yate, which start with `%%<message`, are not told apart from its
messages (`confirmation_answered`).

The type of the message is compared after the parameters have been split at their equals
sign, in place. So what is compared is the name in the fourth field.
-/

set_option autoImplicit false

namespace IsdnRas.Yate

/-- The line has five fields or more, and the fourth is `call.execute`. -/
def IsCallExecute (line : Chars) : Prop :=
  5 ≤ (line.splitOn colon).length ∧ (line.splitOn colon)[3]? = some (chars "call.execute")

/-- The fourth field goes on behind `call.execute` with an equals sign. -/
def HasCallExecuteValue (line : Chars) : Prop :=
  ∃ value, (line.splitOn colon)[3]? = some (chars "call.execute" ++ equals :: value)

instance (line : Chars) : Decidable (IsCallExecute line) := inferInstanceAs (Decidable (_ ∧ _))

/-- Later fields do not change the type. -/
theorem typeOf_passed (fields : List Chars) : ∀ {argumentCounter : Nat} (type : Option Chars),
    2 ≤ argumentCounter → typeOf argumentCounter type fields = type := by
  induction fields with
  | nil => exact fun _ _ => rfl
  | cons field rest ih =>
      intro argumentCounter type passed
      cases rest with
      | nil => rfl
      | cons next rest =>
          rw [typeOf, if_neg (by omega)]
          exact ih type (Nat.le_succ_of_le passed)

/-- The loop compares the name in the fourth field of a line, when there is a fifth. -/
theorem typeOf_messageFields (line : Chars) :
    typeOf 0 none (messageFields line) =
      if 5 ≤ (line.splitOn colon).length then (line.splitOn colon)[3]?.map fieldName else none := by
  rw [messageFields]
  rcases line.splitOn colon with
    - | ⟨first, - | ⟨messageId, - | ⟨time, - | ⟨type, - | ⟨next, rest⟩⟩⟩⟩⟩
  case cons.cons.cons.cons.cons =>
      have passed := typeOf_passed (next :: rest) (some (fieldName type)) (Nat.le_refl 2)
      simpa [typeOf] using passed
  all_goals rfl

/-- A field without a NUL is its own text. -/
theorem textOf_of_mem {line field : Chars} (noNul : 0 ∉ line)
    (member : field ∈ line.splitOn colon) : textOf field = field :=
  upTo_of_free fun inside => noNul ((sublist_of_mem_splitOn line member).subset inside)

/-- A field whose name is `call.execute`. -/
theorem fieldName_eq_callExecute_iff {field : Chars} (noNul : textOf field = field)
    (plain : ∀ value, field ≠ chars "call.execute" ++ equals :: value) :
    fieldName field = chars "call.execute" ↔ field = chars "call.execute" := by
  rw [fieldName, noNul]
  constructor
  · intro name
    rcases upTo_or_cut equals field with whole | ⟨value, cut⟩
    · exact whole.symm.trans name
    · rw [name] at cut
      exact absurd cut (plain value)
  · rintro rfl
    decide

section Answer

variable {parser : Parser} {line zeros : Chars}

/-- What the comparison says of a line. -/
theorem typeOf_eq_callExecute_iff (noNul : 0 ∉ line) (plain : ¬ HasCallExecuteValue line) :
    typeOf 0 none (messageFields line) = some (chars "call.execute") ↔ IsCallExecute line := by
  rw [typeOf_messageFields, IsCallExecute]
  split
  case isTrue five =>
      obtain ⟨field, fourth⟩ : ∃ field, (line.splitOn colon)[3]? = some field :=
        ⟨_, List.getElem?_eq_getElem (by omega)⟩
      have text := textOf_of_mem noNul (List.mem_of_getElem? fourth)
      have named := fieldName_eq_callExecute_iff text fun value same =>
        plain ⟨value, fourth.trans (congrArg some same)⟩
      simp only [fourth, Option.map_some, Option.some.injEq, named, five, true_and]
  case isFalse few => exact iff_of_false (by simp) fun call => few call.1

/-- The identifier of a message is its second field. -/
theorem messageIdOf_eq (noNul : 0 ∉ line) {messageId : Chars}
    (second : (line.splitOn colon)[1]? = some messageId) : messageIdOf line = messageId := by
  rw [messageIdOf, List.getD_eq_getElem?_getD, second, Option.getD_some]
  exact textOf_of_mem noNul (List.mem_of_getElem? second)

/-- **Which lines are answered.** A line without NUL stands in the array, followed by a NUL
and zeros, and the searches for its fields end in the array. When the fourth of at least
five fields is `call.execute` the parser returns true and writes one reply, with the
second field as it is. For every other line it returns false and writes nothing. Lines
whose fourth field goes on with an equals sign are left out. -/
theorem call_execute_answered (zero : ∀ ch ∈ zeros, ch = 0)
    (buf : parser.buf = line ++ 0 :: zeros) (noNul : 0 ∉ line)
    (room : line.length + 1 + (line.count colon - 2) ≤ parser.buf.length)
    (plain : ¬ HasCallExecuteValue line) :
    ((yateMessageParseIncoming parser (line.length + 1)).2 = some true ↔ IsCallExecute line) ∧
      (∀ messageId, IsCallExecute line → (line.splitOn colon)[1]? = some messageId →
        (yateMessageParseIncoming parser (line.length + 1)).1.out =
          parser.out ++ (chars "%%<message:" ++ messageId ++ chars ":true:\n")) ∧
      (¬ IsCallExecute line →
        (yateMessageParseIncoming parser (line.length + 1)).2 = some false ∧
          (yateMessageParseIncoming parser (line.length + 1)).1.out = parser.out) := by
  have parsed := parseIncoming_line zero buf
  have result := parsed.result
  rw [if_pos room] at result
  have call := typeOf_eq_callExecute_iff noNul plain
  refine ⟨?_, fun messageId isCall second => ?_, fun other => ?_⟩
  · rw [result, Option.some.injEq, beq_iff_eq]
    exact call
  · have accepted : (yateMessageParseIncoming parser (line.length + 1)).2 = some true := by
      rw [result, call.mpr isCall]
      rfl
    rw [parsed.out, if_pos accepted, messageIdOf_eq noNul second]
    rfl
  · have refused : (yateMessageParseIncoming parser (line.length + 1)).2 = some false := by
      rw [result, beq_eq_false_iff_ne.mpr fun same => other (call.mp same)]
    refine ⟨refused, ?_⟩
    rw [parsed.out, refused, if_neg (by simp), List.append_nil]

end Answer

/-- A message that starts a call. -/
theorem message_answered :
    let line := chars "%%>message:0x7f:16:call.execute:id=sig/2"
    let parser : Parser := ⟨line ++ 0 :: [0, 0], ⟨[], [], []⟩, [], []⟩
    IsCallExecute line ∧ (yateMessageParseIncoming parser (line.length + 1)).2 = some true ∧
      (yateMessageParseIncoming parser (line.length + 1)).1.out =
        [] ++ (chars "%%<message:" ++ chars "0x7f" ++ chars ":true:\n") := by
  intro line parser
  have isCall : IsCallExecute line := by decide +kernel
  have plain : ¬ HasCallExecuteValue line := by
    rintro ⟨value, longer⟩
    have lengths := congrArg List.length (Option.some.inj (isCall.2.symm.trans longer))
    simp at lengths
  have answered := @call_execute_answered parser line [0, 0] (by simp) rfl (by decide +kernel)
    (by decide +kernel) plain
  exact ⟨isCall, answered.1.mpr isCall, answered.2.1 _ isCall (by decide +kernel)⟩

/-- **A confirmation is answered like a message.** The first field is not compared. -/
theorem confirmation_answered :
    let line := chars "%%<message:0x7f:16:call.execute:id=sig/2"
    let parser : Parser := ⟨finishedBuf line, ⟨[], [], []⟩, [], []⟩
    (line.splitOn colon)[0]? ≠ some (chars "%%>message") ∧ 0 ∉ line ∧
      (yateMessageParseIncoming parser (line.length + 1)).2 = some true ∧
      (yateMessageParseIncoming parser (line.length + 1)).1.out =
        chars "%%<message:0x7f:true:\n" :=
  ⟨by decide +kernel, by decide +kernel, by decide +kernel, by decide +kernel⟩

end IsdnRas.Yate
