import Mathlib.Data.List.TakeWhile
import IsdnRas.Yate.Lines

/-!
# The fields of a line

The parser takes one field of a line after the other. Before the next one stand the
fields it has taken, each followed by a NUL; behind it is what is left of the line, the
final NUL, and zeros up to the end of the array. A round takes a field and stores its
parameter (`parseParameter_field`), and the loop is a fold over the fields
(`parseParametersLoop_fields`).

The length that remains is one too large for every separator that has been passed. The
separators of the parameters are still found within the line, but the last search finds
none and goes on behind the line by one byte for each of them. So all accesses stay within
the line exactly when it has at most two colons, those around the identifier of the
message (`accesses_within_iff`).
-/

set_option autoImplicit false

namespace IsdnRas.Yate

/-! ## Searches -/

theorem idxOf?_append_cons {c : UInt8} (tail field : Chars) (free : c ∉ field) :
    (field ++ c :: tail).idxOf? c = some field.length := by
  induction field with
  | nil => simp [List.idxOf?_cons]
  | cons first field ih =>
      obtain ⟨other, free⟩ := List.ne_and_not_mem_of_not_mem_cons free
      rw [List.cons_append, List.idxOf?_cons, ih free]
      simp [Ne.symm other]

/-- A search finds the first byte that it looks for. -/
theorem memchr_found {c : UInt8} {field : Chars} (pre tail : Chars) {n : Nat} (free : c ∉ field)
    (within : field.length < n) :
    memchr (pre ++ (field ++ c :: tail)) pre.length c n = .found (pre.length + field.length) := by
  have window : (field ++ c :: tail).take n =
      field ++ c :: tail.take (n - field.length - 1) := by
    have more : n - field.length = (n - field.length - 1) + 1 := by omega
    rw [List.take_append, List.take_of_length_le (Nat.le_of_lt within), more, List.take_succ_cons,
      Nat.add_sub_cancel]
  rw [memchr, List.drop_left, window, idxOf?_append_cons _ _ free]

/-- A search that finds nothing reads all of its bytes. -/
theorem memchr_nothing {c : UInt8} {bytes : Chars} {n : Nat} (pre : Chars)
    (free : c ∉ bytes.take n) : memchr (pre ++ bytes) pre.length c n =
      if pre.length + n ≤ (pre ++ bytes).length then .absent else .outside := by
  rw [memchr, List.drop_left, List.idxOf?_eq_none_iff.mpr free]

/-! ## Parameters in a field -/

/-- The bytes before the first `stop`. -/
def upTo (stop : UInt8) (bytes : Chars) : Chars := bytes.takeWhile (· ≠ stop)

/-- The string of a field: it ends before the first NUL. -/
def textOf (field : Chars) : Chars := upTo 0 field

theorem length_textOf_le (field : Chars) : (textOf field).length ≤ field.length :=
  (List.takeWhile_sublist _).length_le

/-- The string before the first equals sign. -/
def fieldName (field : Chars) : Chars := upTo equals (textOf field)

/-- The string behind the first equals sign. -/
def fieldValue (field : Chars) : Option Chars :=
  if equals ∈ textOf field then some ((textOf field).drop ((fieldName field).length + 1)) else none

/-- A field with a NUL for its first equals sign. -/
def cutField (field : Chars) : Chars :=
  if equals ∈ textOf field then field.set (fieldName field).length 0 else field

/-- Store the parameter of a field. -/
def storeField (params : Parameters) (field : Chars) : Parameters :=
  match fieldValue field with
  | some value =>
      if (fieldName field).length = 0 then params
      else if value.length > strBufSize - 1 then params
      else params.store (fieldName field) value
  | none => params

section UpTo

variable {stop : UInt8} {bytes : Chars}

theorem upTo_of_free (free : stop ∉ bytes) : upTo stop bytes = bytes := by
  refine List.takeWhile_eq_self_iff.mpr fun ch member => ?_
  rw [decide_eq_true_eq]
  rintro rfl
  exact free member

theorem upTo_append (tail : Chars) (free : stop ∉ bytes) :
    upTo stop (bytes ++ stop :: tail) = bytes := by
  rw [upTo, List.takeWhile_append_of_pos, List.takeWhile_cons_of_neg (by simp), List.append_nil]
  intro ch member
  rw [decide_eq_true_eq]
  rintro rfl
  exact free member

theorem notMem_upTo (stop : UInt8) (bytes : Chars) : stop ∉ upTo stop bytes := by
  intro member
  have other := List.mem_takeWhile_imp member
  simp at other

/-- Bytes end with their first part, or go on with the byte it stops at. -/
theorem upTo_or_cut (stop : UInt8) (bytes : Chars) :
    upTo stop bytes = bytes ∨ ∃ tail, bytes = upTo stop bytes ++ stop :: tail := by
  by_cases member : stop ∈ bytes
  · obtain ⟨first, tail, rfl, free⟩ := List.eq_append_cons_of_mem member
    rw [upTo_append tail free]
    exact .inr ⟨tail, rfl⟩
  · exact .inl (upTo_of_free member)

theorem upTo_append_self (tail : Chars) : upTo stop (bytes ++ stop :: tail) = upTo stop bytes := by
  rcases upTo_or_cut stop bytes with whole | ⟨rest, cut⟩
  · have free := notMem_upTo stop bytes
    rw [whole] at free ⊢
    exact upTo_append tail free
  · conv_lhs => rw [cut, List.append_assoc, List.cons_append]
    exact upTo_append _ (notMem_upTo stop bytes)

end UpTo

/-- A string in the buffer. -/
theorem cString_field (pre field tail : Chars) :
    cString (pre ++ (field ++ 0 :: tail)) pre.length = textOf field := by
  rw [cString, List.drop_left]
  exact upTo_append_self tail

/-- A field whose string has an equals sign. -/
theorem exists_cut {field : Chars} (split : equals ∈ textOf field) :
    ∃ key value after, field = key ++ equals :: (value ++ after) ∧ equals ∉ key ∧
      textOf field = key ++ equals :: value ∧ fieldName field = key ∧
      textOf (value ++ after) = value := by
  obtain ⟨key, value, text, free⟩ := List.eq_append_cons_of_mem split
  have name : fieldName field = key := by
    rw [fieldName, text]
    exact upTo_append value free
  have zero : 0 ∉ value := fun member => by
    have inside : 0 ∈ textOf field := by
      rw [text]
      exact List.mem_append_right _ (List.mem_cons_of_mem _ member)
    exact notMem_upTo 0 field inside
  rcases upTo_or_cut 0 field with whole | ⟨tail, cut⟩
  · refine ⟨key, value, [], ?_, free, text, name, ?_⟩
    · rw [List.append_nil, ← text]
      exact whole.symm
    · rw [List.append_nil]
      exact upTo_of_free zero
  · refine ⟨key, value, 0 :: tail, ?_, free, text, name, upTo_append tail zero⟩
    have cut : field = textOf field ++ 0 :: tail := cut
    rw [cut, text, List.append_assoc, List.cons_append]

/-- The first equals sign of a field is overwritten. -/
theorem cutField_of_cut {field key rest : Chars} (split : equals ∈ textOf field)
    (whole : field = key ++ equals :: rest) (name : fieldName field = key) :
    cutField field = key ++ 0 :: rest := by
  rw [cutField, if_pos split, name, whole, List.set_append_right _ _ (Nat.le_refl _), Nat.sub_self,
    List.set_cons_zero]

theorem set_inside (pre first tail : Chars) (c x : UInt8) :
    (pre ++ (first ++ c :: tail)).set (pre.length + first.length) x =
      pre ++ (first ++ x :: tail) := by
  rw [List.set_append_right _ _ (Nat.le_add_right ..), Nat.add_sub_cancel_left,
    List.set_append_right _ _ (Nat.le_refl _), Nat.sub_self, List.set_cons_zero]

/-- The accesses to a field when its parameter is stored. -/
def fieldAccesses (start : Nat) (field : Chars) : List Access :=
  if equals ∈ textOf field then
    [.examined start (start + (fieldName field).length + 1),
      .cleared (start + (fieldName field).length)]
  else [.examined start (start + (textOf field).length)]

theorem fieldAccesses_within (start : Nat) (field : Chars) :
    ∀ access ∈ fieldAccesses start field, access.Within (start + field.length) := by
  have text_length := length_textOf_le field
  unfold fieldAccesses
  split
  case isTrue split =>
      obtain ⟨key, value, after, -, -, text, name, -⟩ := exists_cut split
      have key_short : key.length < (textOf field).length := by
        rw [text, List.length_append, List.length_cons]
        omega
      rw [name, List.forall_mem_cons, List.forall_mem_singleton]
      refine ⟨?_, ?_⟩
      · change start + key.length + 1 ≤ _
        omega
      · change start + key.length < _
        omega
  case isFalse =>
      rw [List.forall_mem_singleton]
      exact Nat.add_le_add_left text_length start

/-- **The parameter of a field is stored.** -/
theorem parseParameter_field {parser : Parser} {pre field tail : Chars}
    (buf : parser.buf = pre ++ (field ++ 0 :: tail)) :
    yateMessageParseParameter parser pre.length =
      { parser with
        buf := pre ++ (cutField field ++ 0 :: tail)
        params := storeField parser.params field
        accesses := parser.accesses ++ fieldAccesses pre.length field } := by
  have string : cString parser.buf pre.length = textOf field := by rw [buf, cString_field]
  unfold yateMessageParseParameter
  simp only [string, Parser.memchr]
  by_cases split : equals ∈ textOf field
  · obtain ⟨key, value, after, whole, free, text, name, rest⟩ := exists_cut split
    have shape : parser.buf = pre ++ (key ++ equals :: (value ++ after ++ 0 :: tail)) := by
      rw [buf, whole, List.append_assoc, List.cons_append]
    have found : memchr parser.buf pre.length equals (textOf field).length =
        .found (pre.length + key.length) := by
      rw [shape, text]
      exact memchr_found pre _ free (by simp)
    have cut := cutField_of_cut split whole name
    have cleared : parser.buf.set (pre.length + key.length) 0 =
        pre ++ (cutField field ++ 0 :: tail) := by
      rw [shape, cut, set_inside, List.append_assoc key, List.cons_append]
    have key_string : cString (pre ++ (cutField field ++ 0 :: tail)) pre.length = key := by
      rw [cString_field, cut]
      refine upTo_append _ fun member => ?_
      have inside : 0 ∈ textOf field := by
        rw [text]
        exact List.mem_append_left _ member
      exact notMem_upTo 0 field inside
    have value_string : cString (pre ++ (cutField field ++ 0 :: tail))
        (pre.length + key.length + 1) = value := by
      have before : pre ++ (cutField field ++ 0 :: tail) =
          (pre ++ key ++ [0]) ++ (value ++ after ++ 0 :: tail) := by
        rw [cut]
        simp
      have start : pre.length + key.length + 1 = (pre ++ key ++ [0]).length := by
        simp [Nat.add_assoc]
      rw [before, start, cString_field, rest]
    have stored : fieldValue field = some value := by
      rw [fieldValue, if_pos split, name, text, List.drop_append]
      simp
    simp only [found, Parser.clear, cleared, key_string, value_string, storeField, stored,
      fieldAccesses, if_pos split, name, List.append_assoc]
    split
    · rfl
    · split <;> rfl
  · have nothing : memchr parser.buf pre.length equals (textOf field).length = .absent := by
      have start : textOf field <+: field ++ 0 :: tail :=
        (List.takeWhile_prefix _).trans (List.prefix_append ..)
      have window : (field ++ 0 :: tail).take (textOf field).length = textOf field :=
        (List.prefix_iff_eq_take.mp start).symm
      rw [buf, memchr_nothing pre (by rw [window]; exact split), if_pos]
      rw [List.length_append]
      exact Nat.add_le_add_left start.length_le _
    have unstored : fieldValue field = none := if_neg split
    simp only [nothing, storeField, unstored, fieldAccesses, if_neg split, cutField, ← buf]
    rfl

/-! ## The loop over the fields -/

/-- What the loop compares: the name in the second field, once it has been passed. -/
def typeOf : Nat → Option Chars → List Chars → Option Chars
  | argumentCounter, type, field :: next :: rest =>
      typeOf (argumentCounter + 1) (if argumentCounter = 1 then some (fieldName field) else type)
        (next :: rest)
  | _, type, _ => type

/-- The type of the message is a string in the fields that have been taken. -/
def TypeStored (pre : Chars) : Option Nat → Option Chars → Prop
  | some start, some type =>
      ∃ before after, pre = before ++ (type ++ 0 :: after) ∧ start = before.length ∧ 0 ∉ type
  | none, none => True
  | _, _ => False

/-- A field that is passed starts with its name. -/
theorem cutField_name (field : Chars) :
    ∃ after, cutField field ++ [0] = fieldName field ++ 0 :: after := by
  by_cases split : equals ∈ textOf field
  · obtain ⟨key, value, after, whole, -, -, name, -⟩ := exists_cut split
    refine ⟨value ++ after ++ [0], ?_⟩
    rw [cutField_of_cut split whole name, name, List.append_assoc, List.cons_append]
  · have name : fieldName field = textOf field := upTo_of_free split
    rw [cutField, if_neg split, name]
    rcases upTo_or_cut 0 field with whole | ⟨tail, cut⟩
    · exact ⟨[], congrArg (· ++ [0]) whole.symm⟩
    · refine ⟨tail ++ [0], ?_⟩
      have cut : field = textOf field ++ 0 :: tail := cut
      conv_lhs => rw [cut]
      rw [List.append_assoc, List.cons_append]

theorem length_cutField (field : Chars) : (cutField field).length = field.length := by
  unfold cutField
  split
  · exact List.length_set
  · rfl

section TypeStored

variable {pre : Chars} {type : Option Nat} {name : Option Chars}

theorem TypeStored.append (stored : TypeStored pre type name) (more : Chars) :
    TypeStored (pre ++ more) type name := by
  cases type with
  | none =>
      cases name with
      | none => trivial
      | some => exact stored
  | some start =>
      cases name with
      | none => exact stored
      | some type =>
          obtain ⟨before, after, rfl, length, free⟩ := stored
          refine ⟨before, after ++ more, ?_, length, free⟩
          rw [List.append_assoc, List.append_assoc, List.cons_append]

/-- The type of the message is the second field. -/
theorem TypeStored.next (stored : TypeStored pre type name) (field : Chars)
    (argumentCounter : Nat) :
    TypeStored (pre ++ (cutField field ++ [0]))
      (if argumentCounter = 1 then some pre.length else type)
      (if argumentCounter = 1 then some (fieldName field) else name) := by
  split
  case isTrue =>
      obtain ⟨after, cut⟩ := cutField_name field
      refine ⟨pre, after, congrArg (pre ++ ·) cut, rfl, fun member => ?_⟩
      exact notMem_upTo 0 field ((List.takeWhile_sublist _).subset member)
  case isFalse => exact stored.append _

/-- The comparison at the end of the loop. -/
theorem TypeStored.compare {buf tail : Chars} (stored : TypeStored pre type name)
    (whole : buf = pre ++ tail) :
    (type.elim false fun start => cString buf start == chars "call.execute") =
      (name == some (chars "call.execute")) := by
  cases type with
  | none =>
      cases name with
      | none => rfl
      | some => exact stored.elim
  | some start =>
      cases name with
      | none => exact stored.elim
      | some type =>
          obtain ⟨before, after, rfl, rfl, free⟩ := stored
          have string : cString buf before.length = type := by
            rw [whole, List.append_assoc, List.append_assoc, List.cons_append, cString_field]
            exact upTo_of_free free
          rw [Option.elim_some, string]
          rfl

end TypeStored

/-- What the loop does to a line of which `rest` is left. -/
structure FieldsTaken (parser : Parser) (pre rest : Chars) (argumentCounter : Nat)
    (type : Option Chars) (final : Parser × Option Bool) : Prop where
  out : final.1.out = parser.out
  kept : final.1.buf.take pre.length = pre
  result : final.2 =
    if pre.length + rest.length + 1 + (argumentCounter + rest.count colon) ≤ parser.buf.length then
      some (typeOf argumentCounter type (rest.splitOn colon) == some (chars "call.execute"))
    else none
  params : final.2 ≠ none →
    final.1.params = (rest.splitOn colon).foldl storeField parser.params
  accesses : ∃ more, final.1.accesses = parser.accesses ++ more ∧
    ((∀ access ∈ more, access.Within (pre.length + rest.length + 1)) ↔
      argumentCounter + rest.count colon = 0)

section Loop

variable {parser : Parser} {pre field later zeros : Chars} {argumentCounter : Nat}

/-- After a field and its separator. -/
def Parser.pass (parser : Parser) (pre field tail : Chars) : Parser :=
  { parser with
    buf := pre ++ (cutField field ++ 0 :: tail)
    params := storeField parser.params field
    accesses := parser.accesses ++
      ([.examined pre.length (pre.length + field.length + 1),
        .cleared (pre.length + field.length)] ++ fieldAccesses pre.length field) }

/-- A search that finds the next separator. -/
theorem memchr_separator {tail : Chars} {c : UInt8} {n : Nat} (free : c ∉ field)
    (buf : parser.buf = pre ++ (field ++ c :: tail)) (short : field.length < n) :
    parser.memchr pre.length c n = (.found (pre.length + field.length),
      { parser with
        accesses := parser.accesses ++
          [.examined pre.length (pre.length + field.length + 1)] }) := by
  have found : memchr parser.buf pre.length c n = .found (pre.length + field.length) := by
    rw [buf]
    exact memchr_found pre tail free short
  simp only [Parser.memchr, found]
  rfl

/-- A search that finds no separator. -/
theorem memchr_behind {bytes : Chars} {c : UInt8} {n : Nat} (free : c ∉ bytes)
    (buf : parser.buf = pre ++ bytes) :
    parser.memchr pre.length c n =
      (if pre.length + n ≤ parser.buf.length then .absent else .outside,
        { parser with
          accesses := parser.accesses ++ [.examined pre.length (pre.length + n)] }) := by
  have nothing : memchr parser.buf pre.length c n =
      if pre.length + n ≤ parser.buf.length then .absent else .outside := by
    rw [buf]
    exact memchr_nothing pre fun member => free (List.mem_of_mem_take member)
  simp only [Parser.memchr, nothing]
  split <;> rfl

/-- The separator is overwritten and the field taken. -/
theorem parseParameter_pass {tail : Chars}
    (buf : parser.buf = pre ++ (field ++ colon :: tail)) :
    yateMessageParseParameter
        (Parser.clear { parser with
            accesses := parser.accesses ++ [.examined pre.length (pre.length + field.length + 1)] }
          (pre.length + field.length)) pre.length = parser.pass pre field tail := by
  have cleared : parser.buf.set (pre.length + field.length) 0 = pre ++ (field ++ 0 :: tail) := by
    rw [buf, set_inside]
  rw [parseParameter_field cleared]
  simp only [Parser.clear, Parser.pass, List.append_assoc, List.cons_append, List.nil_append]

theorem typeOf_cons (type : Option Chars) (field later : Chars) :
    typeOf argumentCounter type (field :: later.splitOn colon) =
      typeOf (argumentCounter + 1) (if argumentCounter = 1 then some (fieldName field) else type)
        (later.splitOn colon) := by
  obtain ⟨second, rest, fields⟩ := List.exists_cons_of_ne_nil (List.splitOn_ne_nil colon later)
  rw [fields, typeOf]

theorem count_field (later : Chars) (free : colon ∉ field) :
    (field ++ colon :: later).count colon = later.count colon + 1 := by
  rw [List.count_append, List.count_eq_zero_of_not_mem free, List.count_cons_self, Nat.zero_add]

/-- One field before the others. -/
theorem FieldsTaken.cons {type : Option Chars} {final : Parser × Option Bool}
    (free : colon ∉ field) (buf : parser.buf = pre ++ (field ++ colon :: (later ++ 0 :: zeros)))
    (taken : FieldsTaken (parser.pass pre field (later ++ 0 :: zeros))
      (pre ++ (cutField field ++ [0])) later (argumentCounter + 1)
      (if argumentCounter = 1 then some (fieldName field) else type) final) :
    FieldsTaken parser pre (field ++ colon :: later) argumentCounter type final := by
  have size : (parser.pass pre field (later ++ 0 :: zeros)).buf.length = parser.buf.length := by
    rw [buf]
    simp only [Parser.pass, List.length_append, List.length_cons, length_cutField]
  have length : (pre ++ (cutField field ++ [0])).length + later.length =
      pre.length + (field ++ colon :: later).length := by
    simp only [List.length_append, List.length_cons, List.length_nil, length_cutField]
    omega
  have whole : (field ++ colon :: later).length = field.length + (later.length + 1) :=
    List.length_append
  have count := count_field later free
  have fields : (field ++ colon :: later).splitOn colon = field :: later.splitOn colon :=
    List.splitOn_append_cons_self_of_not_mem free later
  obtain ⟨more, accesses, within⟩ := taken.accesses
  constructor
  case out => exact taken.out
  case kept =>
      have kept := congrArg (List.take pre.length) taken.kept
      rwa [List.take_take, List.length_append, Nat.min_eq_left (Nat.le_add_right ..),
        List.take_left] at kept
  case result =>
      have more_count : argumentCounter + (later.count colon + 1) =
          argumentCounter + 1 + later.count colon := by omega
      rw [fields, typeOf_cons, count, more_count, ← length, ← size]
      exact taken.result
  case params =>
      intro finished
      rw [fields, List.foldl_cons]
      exact taken.params finished
  case accesses =>
      refine ⟨_, accesses.trans (List.append_assoc ..), ?_⟩
      rw [length] at within
      rw [List.forall_mem_append, within, count]
      constructor
      · rintro ⟨-, none⟩
        omega
      · intro none
        omega

/-- Behind the line are zeros only. -/
theorem colon_notMem_behind {rest : Chars} (zero : ∀ ch ∈ zeros, ch = 0) (free : colon ∉ rest) :
    colon ∉ rest ++ 0 :: zeros := by
  rw [List.mem_append, List.mem_cons]
  rintro (inside | same | behind)
  · exact free inside
  · exact absurd same (by decide)
  · exact absurd (zero _ behind) (by decide)

/-- The last search stays within the line when no separator has been passed. -/
theorem last_within {rest : Chars} {more : List Access} (free : colon ∉ rest)
    (within : ∀ access ∈ more, access.Within (pre.length + rest.length)) :
    (∀ access ∈ .examined pre.length (pre.length + (rest.length + 1 + argumentCounter)) :: more,
        access.Within (pre.length + rest.length + 1)) ↔
      argumentCounter + rest.count colon = 0 := by
  have last : Access.Within (pre.length + rest.length + 1)
      (.examined pre.length (pre.length + (rest.length + 1 + argumentCounter))) ↔
        pre.length + (rest.length + 1 + argumentCounter) ≤ pre.length + rest.length + 1 := Iff.rfl
  have others : ∀ access ∈ more, access.Within (pre.length + rest.length + 1) := by
    intro access member
    have bound := within access member
    cases access with
    | examined start stop => exact Nat.le_succ_of_le bound
    | cleared index => exact Nat.lt_succ_of_lt bound
  rw [List.forall_mem_cons, last, List.count_eq_zero_of_not_mem free]
  constructor
  · rintro ⟨short, -⟩
    omega
  · intro none
    exact ⟨by omega, others⟩

theorem FieldsTaken.last {rest : Chars} {type : Option Nat} {name : Option Chars} (rounds : Nat)
    (zero : ∀ ch ∈ zeros, ch = 0) (free : colon ∉ rest)
    (buf : parser.buf = pre ++ (rest ++ 0 :: zeros)) (stored : TypeStored pre type name) :
    FieldsTaken parser pre rest argumentCounter name
      (yateMessageParseParametersLoop (rounds + 1) parser pre.length
        (rest.length + 1 + argumentCounter) argumentCounter type) := by
  have nowhere := colon_notMem_behind zero free
  have count : rest.count colon = 0 := List.count_eq_zero_of_not_mem free
  have fields : rest.splitOn colon = [rest] := List.splitOn_eq_singleton free
  have bound : pre.length + (rest.length + 1 + argumentCounter) =
      pre.length + rest.length + 1 + (argumentCounter + rest.count colon) := by omega
  have searched := @memchr_behind parser pre _ colon (rest.length + 1 + argumentCounter) nowhere buf
  rw [bound] at searched
  obtain ⟨looked, looked_eq⟩ : ∃ looked : Parser, looked = { parser with
      accesses := parser.accesses ++ [.examined pre.length
        (pre.length + rest.length + 1 + (argumentCounter + rest.count colon))] } := ⟨_, rfl⟩
  rw [← looked_eq] at searched
  have looked_buf : looked.buf = pre ++ (rest ++ 0 :: zeros) := by rw [looked_eq, buf]
  unfold yateMessageParseParametersLoop
  rw [searched]
  by_cases inside :
      pre.length + rest.length + 1 + (argumentCounter + rest.count colon) ≤ parser.buf.length
  · rw [if_pos inside]
    have taken := parseParameter_field looked_buf
    have outcome : FieldsTaken parser pre rest argumentCounter name
        (yateMessageParseParameter looked pre.length,
          some (name == some (chars "call.execute"))) := by
      rw [taken]
      constructor
      case out => rw [looked_eq]
      case kept => exact List.take_left
      case result =>
          rw [if_pos inside, fields]
          rfl
      case params =>
          rw [fields, looked_eq]
          exact fun _ => rfl
      case accesses =>
          refine ⟨_, (congrArg (Parser.accesses · ++ _) looked_eq).trans (List.append_assoc ..), ?_⟩
          rw [← bound]
          exact last_within free (fieldAccesses_within pre.length rest)
    rw [← stored.compare (congrArg Parser.buf taken)] at outcome
    cases type with
    | none => exact outcome
    | some => exact outcome
  · rw [if_neg inside]
    constructor
    case out => rw [looked_eq]
    case kept => rw [looked_buf, List.take_left]
    case result => rw [if_neg inside]
    case params => exact fun finished => absurd rfl finished
    case accesses =>
        refine ⟨_, congrArg Parser.accesses looked_eq, ?_⟩
        rw [← bound]
        exact last_within free fun access member => by cases member

/-- **The loop takes the fields of the line.** The last search is too long by one byte for
each separator. -/
theorem parseParametersLoop_fields (zero : ∀ ch ∈ zeros, ch = 0) :
    ∀ {rounds argumentCounter : Nat} {parser : Parser} {pre rest : Chars} {type : Option Nat}
      {name : Option Chars}, parser.buf = pre ++ (rest ++ 0 :: zeros) →
      TypeStored pre type name → rest.count colon < rounds →
        FieldsTaken parser pre rest argumentCounter name
          (yateMessageParseParametersLoop rounds parser pre.length
            (rest.length + 1 + argumentCounter) argumentCounter type) := by
  intro rounds
  induction rounds with
  | zero =>
      intro argumentCounter parser pre rest type name _ _ enough
      cases enough
  | succ rounds ih =>
      intro argumentCounter parser pre rest type name buf stored enough
      by_cases more : colon ∈ rest
      · unfold yateMessageParseParametersLoop
        obtain ⟨field, later, rfl, free⟩ := List.eq_append_cons_of_mem more
        rw [List.append_assoc, List.cons_append] at buf
        rw [count_field later free] at enough
        have length : (field ++ colon :: later).length = field.length + (later.length + 1) :=
          List.length_append
        have remaining : (field ++ colon :: later).length + 1 + argumentCounter -
            (pre.length + field.length - pre.length) =
              later.length + 1 + (argumentCounter + 1) := by omega
        have start : pre.length + field.length + 1 = (pre ++ (cutField field ++ [0])).length := by
          simp only [List.length_append, List.length_singleton, length_cutField, Nat.add_assoc]
        have after : (parser.pass pre field (later ++ 0 :: zeros)).buf =
            pre ++ (cutField field ++ [0]) ++ (later ++ 0 :: zeros) := by
          simp only [Parser.pass, List.append_assoc, List.singleton_append]
        have short : field.length < (field ++ colon :: later).length + 1 + argumentCounter := by
          omega
        rw [memchr_separator free buf short]
        simp only [parseParameter_pass buf]
        simp only [remaining, start]
        exact FieldsTaken.cons free buf
          (ih after (stored.next field argumentCounter) (Nat.lt_of_succ_lt_succ enough))
      · exact FieldsTaken.last rounds zero more buf stored

end Loop

/-! ## The line -/

/-- The fields behind the identifier of the message. -/
def messageFields (line : Chars) : List Chars := (line.splitOn colon).drop 2

/-- A field is a part of its line. -/
theorem sublist_of_mem_splitOn (line : Chars) : ∀ {field : Chars},
    field ∈ line.splitOn colon → field.Sublist line := by
  induction line with
  | nil =>
      intro field member
      rw [List.splitOn_nil, List.mem_singleton] at member
      rw [member]
  | cons ch rest ih =>
      intro field member
      rw [List.splitOn_cons_eq_if_modifyHead] at member
      split at member
      · rcases List.mem_cons.mp member with rfl | later
        · exact List.nil_sublist _
        · exact (ih later).cons ch
      · obtain ⟨first, others, fields⟩ :=
          List.exists_cons_of_ne_nil (List.splitOn_ne_nil colon rest)
        rw [fields, List.modifyHead_cons, List.mem_cons] at member
        rw [fields] at ih
        rcases member with rfl | later
        · exact (ih (List.mem_cons_self ..)).cons_cons ch
        · exact (ih (List.mem_cons_of_mem _ later)).cons ch

/-- The identifier of the message. -/
def messageIdOf (line : Chars) : Chars := textOf ((line.splitOn colon).getD 1 [])

/-- The answer to a message. -/
def replyTo (messageId : Chars) : Chars := chars "%%<message:" ++ messageId ++ chars ":true:\n"

/-- What the parser does to a line in the array. -/
structure LineParsed (parser : Parser) (line : Chars) (final : Parser × Option Bool) : Prop where
  out : final.1.out = parser.out ++ if final.2 = some true then replyTo (messageIdOf line) else []
  result : final.2 =
    if line.length + 1 + (line.count colon - 2) ≤ parser.buf.length then
      some (typeOf 0 none (messageFields line) == some (chars "call.execute"))
    else none
  params : final.2 ≠ none →
    final.1.params = (messageFields line).foldl storeField parser.params
  accesses : ∃ more, final.1.accesses = parser.accesses ++ more ∧
    ((∀ access ∈ more, access.Within (line.length + 1)) ↔ line.count colon ≤ 2)

section Line

variable {parser : Parser} {line zeros : Chars}

/-- A line without the identifier of a message is not parsed. -/
theorem LineParsed.of_refused {more : List Access} (fields : messageFields line = [])
    (few : line.count colon ≤ 1) (room : line.length + 1 ≤ parser.buf.length)
    (within : ∀ access ∈ more, access.Within (line.length + 1)) :
    LineParsed parser line ({ parser with accesses := parser.accesses ++ more }, some false) := by
  constructor
  case out => exact (List.append_nil _).symm
  case result =>
      rw [fields, if_pos (by omega)]
      rfl
  case params => exact fun _ => by rw [fields, List.foldl_nil]
  case accesses => exact ⟨more, rfl, iff_of_true within (Nat.le_succ_of_le few)⟩

/-- A line without a colon. -/
theorem parseIncoming_no_colon (zero : ∀ ch ∈ zeros, ch = 0)
    (buf : parser.buf = line ++ 0 :: zeros) (free : colon ∉ line) :
    LineParsed parser line (yateMessageParseIncoming parser (line.length + 1)) := by
  have room : line.length + 1 ≤ parser.buf.length := by
    rw [buf, List.length_append, List.length_cons]
    omega
  have searched := @memchr_behind parser [] _ colon (line.length + 1)
    (colon_notMem_behind zero free) buf
  have inside : ([] : Chars).length + (line.length + 1) ≤ parser.buf.length := by
    rw [List.length_nil]
    omega
  rw [if_pos inside, List.length_nil] at searched
  have fields : messageFields line = [] := by
    rw [messageFields, List.splitOn_eq_singleton free]
    rfl
  unfold yateMessageParseIncoming
  rw [searched]
  refine LineParsed.of_refused fields ?_ room ?_
  · rw [List.count_eq_zero_of_not_mem free]
    omega
  · rw [List.forall_mem_singleton]
    exact Nat.le_of_eq (Nat.zero_add _)

/-- The first colon of a line. -/
theorem memchr_first {head tail : Chars} {n : Nat} (free : colon ∉ head)
    (buf : parser.buf = head ++ colon :: tail) (short : head.length < n) :
    parser.memchr 0 colon n = (.found head.length,
      { parser with accesses := parser.accesses ++ [.examined 0 (head.length + 1)] }) := by
  have searched := @memchr_separator parser [] head tail colon n free buf short
  rwa [List.length_nil, Nat.zero_add] at searched

/-- A line with one colon. -/
theorem parseIncoming_one_colon {head rest : Chars} (zero : ∀ ch ∈ zeros, ch = 0)
    (buf : parser.buf = head ++ colon :: (rest ++ 0 :: zeros)) (free : colon ∉ head)
    (free' : colon ∉ rest) :
    LineParsed parser (head ++ colon :: rest)
      (yateMessageParseIncoming parser ((head ++ colon :: rest).length + 1)) := by
  have length : (head ++ colon :: rest).length = head.length + (rest.length + 1) :=
    List.length_append
  have size : parser.buf.length = head.length + (rest.length + (zeros.length + 1) + 1) := by
    rw [buf, List.length_append, List.length_cons, List.length_append, List.length_cons]
  have shape : parser.buf = (head ++ [colon]) ++ (rest ++ 0 :: zeros) := by
    rw [buf, List.append_cons]
  have start : (head ++ [colon]).length = head.length + 1 := List.length_append
  have left : (head ++ colon :: rest).length + 1 - (head.length + 1) = rest.length + 1 := by omega
  have fields : messageFields (head ++ colon :: rest) = [] := by
    rw [messageFields, List.splitOn_append_cons_self_of_not_mem free,
      List.splitOn_eq_singleton free']
    rfl
  unfold yateMessageParseIncoming
  rw [memchr_first free buf (by omega)]
  obtain ⟨looked, looked_eq⟩ : ∃ looked : Parser, looked = { parser with
      accesses := parser.accesses ++ [.examined 0 (head.length + 1)] } := ⟨_, rfl⟩
  have looked_buf : looked.buf = (head ++ [colon]) ++ (rest ++ 0 :: zeros) := by
    rw [looked_eq, shape]
  have second := @memchr_behind looked (head ++ [colon]) _ colon (rest.length + 1)
    (colon_notMem_behind zero free') looked_buf
  have looked_size : looked.buf.length = parser.buf.length := by rw [looked_eq]
  have inside : head.length + 1 + (rest.length + 1) ≤ looked.buf.length := by omega
  have both : looked.accesses ++
      [.examined (head.length + 1) (head.length + 1 + (rest.length + 1))] =
        parser.accesses ++ [.examined 0 (head.length + 1),
          .examined (head.length + 1) (head.length + 1 + (rest.length + 1))] := by
    rw [looked_eq, List.append_assoc]
    rfl
  rw [start, if_pos inside, both] at second
  rw [← looked_eq]
  simp only [left, second]
  have refused := @LineParsed.of_refused parser (head ++ colon :: rest)
    [.examined 0 (head.length + 1),
      .examined (head.length + 1) (head.length + 1 + (rest.length + 1))] fields
    (by rw [count_field rest free, List.count_eq_zero_of_not_mem free']) (by omega) ?_
  · rw [looked_eq]
    exact refused
  · rw [List.forall_mem_cons, List.forall_mem_singleton]
    refine ⟨?_, ?_⟩
    · change head.length + 1 ≤ _
      omega
    · change head.length + 1 + (rest.length + 1) ≤ _
      omega

/-- The parameters of a message decide about the answer to it. -/
theorem LineParsed.of_fields {head messageId rest : Chars} {passed : List Access}
    {final : Parser} {callExecute : Option Bool} (free : colon ∉ head) (free' : colon ∉ messageId)
    (size : parser.buf.length = (head ++ colon :: (messageId ++ 0 :: (rest ++ 0 :: zeros))).length)
    (within : ∀ access ∈ passed,
      access.Within ((head ++ colon :: (messageId ++ colon :: rest)).length + 1))
    (taken : FieldsTaken
      { parser with
        buf := head ++ [colon] ++ (messageId ++ [0]) ++ (rest ++ 0 :: zeros)
        accesses := parser.accesses ++ passed }
      (head ++ [colon] ++ (messageId ++ [0])) rest 0 none (final, callExecute)) :
    LineParsed parser (head ++ colon :: (messageId ++ colon :: rest))
      (match (final, callExecute) with
        | (final, some true) =>
            ({ final with out := final.out ++ (chars "%%<message:" ++
                cString final.buf (head.length + 1) ++ chars ":true:\n") }, some true)
        | (final, other) => (final, other)) := by
  have length : (head ++ [colon] ++ (messageId ++ [0])).length + rest.length =
      (head ++ colon :: (messageId ++ colon :: rest)).length := by
    simp only [List.length_append, List.length_cons, List.length_nil]
    omega
  have count : (head ++ colon :: (messageId ++ colon :: rest)).count colon =
      rest.count colon + 2 := by
    rw [count_field _ free, count_field _ free']
  have split : (head ++ colon :: (messageId ++ colon :: rest)).splitOn colon =
      head :: messageId :: rest.splitOn colon := by
    rw [List.splitOn_append_cons_self_of_not_mem free,
      List.splitOn_append_cons_self_of_not_mem free']
  have answered : (match (final, callExecute) with
      | (final, some true) =>
          ({ final with out := final.out ++ (chars "%%<message:" ++
              cString final.buf (head.length + 1) ++ chars ":true:\n") }, some true)
      | (final, other) => (final, other)) =
        ({ final with out := final.out ++
            if callExecute = some true then replyTo (cString final.buf (head.length + 1)) else [] },
          callExecute) := by
    rcases callExecute with - | - | -
    · simp
    · simp
    · rfl
  have string : cString final.buf (head.length + 1) =
      messageIdOf (head ++ colon :: (messageId ++ colon :: rest)) := by
    have whole : final.buf = (head ++ [colon]) ++
        (messageId ++ 0 :: final.buf.drop (head ++ [colon] ++ (messageId ++ [0])).length) := by
      conv_lhs =>
        rw [← List.take_append_drop (head ++ [colon] ++ (messageId ++ [0])).length final.buf]
      rw [taken.kept, List.append_assoc (head ++ [colon]), List.append_assoc messageId,
        List.singleton_append]
    have start : (head ++ [colon]).length = head.length + 1 := List.length_append
    rw [whole, ← start, cString_field, messageIdOf, split]
    rfl
  obtain ⟨more, accesses, last⟩ := taken.accesses
  rw [answered]
  constructor
  case out => rw [taken.out, string]
  case result =>
      have result := taken.result
      have size' : (head ++ [colon] ++ (messageId ++ [0]) ++ (rest ++ 0 :: zeros)).length =
          parser.buf.length := by
        rw [size]
        simp
      rw [length, Nat.zero_add, size'] at result
      rw [count, messageFields, split]
      exact result
  case params =>
      intro finished
      rw [messageFields, split]
      exact taken.params finished
  case accesses =>
      refine ⟨passed ++ more, accesses.trans (List.append_assoc ..), ?_⟩
      rw [length] at last
      rw [List.forall_mem_append, last, count]
      constructor
      · rintro ⟨-, none⟩
        omega
      · intro two
        exact ⟨within, by omega⟩

/-- A line with an identifier. -/
theorem parseIncoming_two_colons {head messageId rest : Chars} (zero : ∀ ch ∈ zeros, ch = 0)
    (buf : parser.buf = head ++ colon :: (messageId ++ colon :: (rest ++ 0 :: zeros)))
    (free : colon ∉ head) (free' : colon ∉ messageId) :
    LineParsed parser (head ++ colon :: (messageId ++ colon :: rest))
      (yateMessageParseIncoming parser
        ((head ++ colon :: (messageId ++ colon :: rest)).length + 1)) := by
  have length : (head ++ colon :: (messageId ++ colon :: rest)).length =
      head.length + (messageId.length + (rest.length + 1) + 1) := by
    simp only [List.length_append, List.length_cons]
  unfold yateMessageParseIncoming
  rw [memchr_first free buf (by omega)]
  obtain ⟨looked, looked_eq⟩ : ∃ looked : Parser, looked = { parser with
      accesses := parser.accesses ++ [.examined 0 (head.length + 1)] } := ⟨_, rfl⟩
  have looked_buf : looked.buf =
      (head ++ [colon]) ++ (messageId ++ colon :: (rest ++ 0 :: zeros)) := by
    rw [looked_eq, buf, ← List.append_cons]
  have start : (head ++ [colon]).length = head.length + 1 := List.length_append
  have second := @memchr_separator looked (head ++ [colon]) messageId _ colon
    ((head ++ colon :: (messageId ++ colon :: rest)).length + 1 - (head.length + 1)) free'
    looked_buf (by omega)
  rw [start] at second
  rw [← looked_eq]
  simp only [second]
  have cleared : looked.buf.set (head.length + 1 + messageId.length) 0 =
      head ++ [colon] ++ (messageId ++ [0]) ++ (rest ++ 0 :: zeros) := by
    rw [looked_buf, ← start, set_inside, List.append_assoc _ (messageId ++ [0]),
      List.append_assoc messageId, List.singleton_append]
  have passed : looked.accesses ++ [.examined (head.length + 1)
      (head.length + 1 + messageId.length + 1)] ++ [.cleared (head.length + 1 + messageId.length)] =
        parser.accesses ++ [.examined 0 (head.length + 1),
          .examined (head.length + 1) (head.length + 1 + messageId.length + 1),
          .cleared (head.length + 1 + messageId.length)] := by
    rw [looked_eq]
    simp
  simp only [Parser.clear, cleared, passed]
  have first : head.length + 1 + messageId.length + 1 =
      (head ++ [colon] ++ (messageId ++ [0])).length := by
    simp only [List.length_append, List.length_singleton]
    omega
  have left : (head ++ colon :: (messageId ++ colon :: rest)).length + 1 -
      (head.length + 1 + messageId.length) - 1 = rest.length + 1 + 0 := by omega
  unfold yateMessageParseParameters
  simp only [left, looked_eq]
  have enough : rest.count colon <
      (head ++ [colon] ++ (messageId ++ [0]) ++ (rest ++ 0 :: zeros)).length + 1 := by
    have colons : rest.count colon ≤ rest.length := List.count_le_length
    simp only [List.length_append, List.length_cons]
    omega
  have taken := @parseParametersLoop_fields zeros zero _ 0
    { parser with
      buf := head ++ [colon] ++ (messageId ++ [0]) ++ (rest ++ 0 :: zeros)
      accesses := parser.accesses ++ [.examined 0 (head.length + 1), .examined (head.length + 1)
        (head.length + 1 + messageId.length + 1), .cleared (head.length + 1 + messageId.length)] }
    (head ++ [colon] ++ (messageId ++ [0])) rest none none rfl trivial enough
  rw [← first] at taken
  generalize yateMessageParseParametersLoop _ _ _ _ _ _ = final at taken ⊢
  obtain ⟨final, callExecute⟩ := final
  refine LineParsed.of_fields free free' ?_ ?_ taken
  · rw [buf]
    simp only [List.length_append, List.length_cons]
  · rw [List.forall_mem_cons, List.forall_mem_cons, List.forall_mem_singleton]
    refine ⟨?_, ?_, ?_⟩
    · change head.length + 1 ≤ _
      omega
    · change head.length + 1 + messageId.length + 1 ≤ _
      omega
    · change head.length + 1 + messageId.length < _
      omega

/-- **What the parser does to a line.** -/
theorem parseIncoming_line (zero : ∀ ch ∈ zeros, ch = 0) (buf : parser.buf = line ++ 0 :: zeros) :
    LineParsed parser line (yateMessageParseIncoming parser (line.length + 1)) := by
  by_cases first : colon ∈ line
  · obtain ⟨head, rest, rfl, free⟩ := List.eq_append_cons_of_mem first
    rw [List.append_assoc, List.cons_append] at buf
    by_cases second : colon ∈ rest
    · obtain ⟨messageId, fields, rfl, free'⟩ := List.eq_append_cons_of_mem second
      rw [List.append_assoc, List.cons_append] at buf
      exact parseIncoming_two_colons zero buf free free'
    · exact parseIncoming_one_colon zero buf free second
  · exact parseIncoming_no_colon zero buf first

end Line

/-- What the parser does to a line that the reads have finished. -/
theorem parseIncoming_finished (line : Chars) (params : Parameters) (out : Chars)
    (accesses : List Access) :
    LineParsed ⟨finishedBuf line, params, out, accesses⟩ line
      (yateMessageParseIncoming ⟨finishedBuf line, params, out, accesses⟩ (line.length + 1)) :=
  parseIncoming_line (fun _ member => List.eq_of_mem_replicate member) rfl

/-- What the reads can pass to the parser: a line that fits, its NUL and zeros, and the
length of the line with the NUL. -/
def Passed (buf : Chars) (len : Nat) : Prop :=
  ∃ line, Fits line ∧ buf = finishedBuf line ∧ len = line.length + 1

/-- **The accesses of the parser** stay within the line and its NUL exactly when the line
has at most two colons. -/
theorem accesses_within_iff {buf : Chars} {len : Nat} (passed : Passed buf len)
    (params : Parameters) (out : Chars) :
    (∀ access ∈ (yateMessageParseIncoming ⟨buf, params, out, []⟩ len).1.accesses,
        access.Within len) ↔
      (buf.take len).count colon ≤ 2 := by
  obtain ⟨line, -, rfl, rfl⟩ := passed
  obtain ⟨more, accesses, within⟩ := (parseIncoming_finished line params out []).accesses
  have count : (line ++ [0]).count colon = line.count colon := by
    rw [List.count_append]
    exact Nat.add_zero _
  rw [accesses, finished_take, count]
  exact within

/-- A reply to a message of our own has one colon. -/
theorem reply_accesses_within :
    Passed (finishedBuf (chars "%%<message:1")) 13 ∧
      ∀ access ∈ (yateMessageParseIncoming
          ⟨finishedBuf (chars "%%<message:1"), ⟨[], [], []⟩, [], []⟩ 13).1.accesses,
        access.Within 13 :=
  have passed : Passed (finishedBuf (chars "%%<message:1")) 13 := ⟨_, by decide, rfl, rfl⟩
  ⟨passed, (accesses_within_iff passed ⟨[], [], []⟩ []).mpr (by decide +kernel)⟩

/-- **A third colon is enough to read behind the line.** The last search begins at index 15
of a line of 16 bytes and a NUL, and reads three bytes. -/
theorem third_colon_reads_behind :
    Passed (finishedBuf (chars "%%>message:1:2:x")) 17 ∧
      .examined 15 18 ∈ (yateMessageParseIncoming
        ⟨finishedBuf (chars "%%>message:1:2:x"), ⟨[], [], []⟩, [], []⟩ 17).1.accesses ∧
      ¬ Access.Within 17 (.examined 15 18) :=
  ⟨⟨chars "%%>message:1:2:x", by decide, rfl, rfl⟩, by decide +kernel, by decide⟩

end IsdnRas.Yate
