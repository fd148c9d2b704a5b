import IsdnRas.Yate.Fields

/-!
# The parameters of a call

The strings passed to `call_initialize` are read from globals. Every message stores its
parameters there, whatever its type, and nothing empties them. So a string is the value of
the last parameter of its name in the line of the call, or, when the line has none, in the
messages before it (`recorded_reads`).

It is the value of the line's own parameter, or empty when there is none, exactly when the
line has the parameter or the earlier messages have left the string empty
(`passed_own_iff`).
-/

set_option autoImplicit false

namespace IsdnRas.Yate

/-! ## Named parameters -/

/-- The parameters that are kept. -/
inductive Key where
  | callednr
  | caller
  | format
deriving Repr, DecidableEq

def Key.name : Key → Chars
  | .callednr => chars "callednr"
  | .caller => chars "caller"
  | .format => chars "format"

def Parameters.value (params : Parameters) : Key → Chars
  | .callednr => params.called
  | .caller => params.caller
  | .format => params.format

/-- The value of a field `name=value`. -/
def valueOf (name field : Chars) : Option Chars :=
  if name ++ [equals] <+: textOf field then some ((textOf field).drop (name.length + 1)) else none

/-- The value of the last parameter of a name. -/
def lastValue (key : Key) (fields : List Chars) : Option Chars :=
  (fields.filterMap (valueOf key.name)).getLast?

/-- The value of a parameter of a line, empty when the line has none. -/
def ownValue (key : Key) (line : Chars) : Chars :=
  (lastValue key (messageFields line)).getD []

/-- The line has a parameter of the name. -/
def Carries (key : Key) (line : Chars) : Prop := (lastValue key (messageFields line)).isSome

/-- The value of the last parameter of a name in messages, empty when there is none. -/
def pastValue (key : Key) (messages : List Handed) : Chars :=
  (lastValue key (messages.flatMap fun handed => messageFields handed.line.dropLast)).getD []

theorem Parameters.eq_iff {params others : Parameters} :
    params = others ↔ ∀ key, params.value key = others.value key := by
  constructor
  · rintro rfl key
    rfl
  · intro same
    obtain ⟨called, caller, format⟩ := params
    obtain ⟨called', caller', format'⟩ := others
    have first : called = called' := same .callednr
    have second : caller = caller' := same .caller
    have third : format = format' := same .format
    rw [first, second, third]

/-! ## Storing parameters -/

theorem value_store (params : Parameters) (name value : Chars) (key : Key) :
    (params.store name value).value key = if name = key.name then value else params.value key := by
  unfold Parameters.store
  by_cases callednr : name = chars "callednr"
  · subst callednr
    cases key <;> rfl
  by_cases caller : name = chars "caller"
  · subst caller
    cases key <;> rfl
  by_cases format : name = chars "format"
  · subst format
    cases key <;> rfl
  · cases key <;> simp [Key.name, Parameters.value, callednr, caller, format]

theorem equals_notMem_name (key : Key) : equals ∉ key.name := by
  cases key <;> decide

theorem name_ne_nil (key : Key) : key.name ≠ [] := by
  cases key <;> decide

/-- A field `name=value` is one whose string before the first equals sign is the name. -/
theorem valueOf_name (key : Key) (field : Chars) :
    valueOf key.name field = if fieldName field = key.name then fieldValue field else none := by
  have free := equals_notMem_name key
  unfold valueOf fieldValue
  by_cases split : equals ∈ textOf field
  · obtain ⟨first, value, after, -, first_free, text, name, -⟩ := exists_cut split
    rw [if_pos split, name, text]
    by_cases same : first = key.name
    · subst same
      rw [if_pos rfl, if_pos ⟨value, by rw [List.append_assoc, List.singleton_append]⟩]
    · rw [if_neg same, if_neg]
      rintro ⟨tail, whole⟩
      rw [List.append_assoc, List.singleton_append] at whole
      have names := congrArg (upTo equals) whole
      rw [upTo_append tail free, upTo_append value first_free] at names
      exact same names.symm
  · have unnamed : ¬ key.name ++ [equals] <+: textOf field := fun start =>
      split (start.subset (by simp))
    rw [if_neg unnamed, if_neg split]
    split <;> rfl

theorem length_fieldValue {field value : Chars} (stored : fieldValue field = some value) :
    value.length ≤ field.length := by
  have text_length := length_textOf_le field
  unfold fieldValue at stored
  split at stored
  case isFalse => cases stored
  case isTrue =>
      obtain rfl := Option.some.inj stored
      rw [List.length_drop]
      omega

/-- Storing the parameter of a field. -/
theorem value_storeField (params : Parameters) {field : Chars} (short : field.length < strBufSize)
    (key : Key) :
    (storeField params field).value key = (valueOf key.name field).getD (params.value key) := by
  rw [valueOf_name]
  unfold storeField
  cases stored : fieldValue field with
  | none => rw [ite_self, Option.getD_none]
  | some value =>
      have value_short := length_fieldValue stored
      have size : strBufSize = 4096 := rfl
      simp only
      by_cases unnamed : (fieldName field).length = 0
      · have other : fieldName field ≠ key.name := fun same =>
          name_ne_nil key (List.eq_nil_of_length_eq_zero (same ▸ unnamed))
        rw [if_pos unnamed, if_neg other, Option.getD_none]
      · rw [if_neg unnamed, if_neg (by omega), value_store]
        split <;> rfl

/-- **Storing the parameters of fields** leaves the last value of each name. -/
theorem value_storeFields (fields : List Chars) (key : Key) : ∀ params : Parameters,
    (∀ field ∈ fields, field.length < strBufSize) →
      (fields.foldl storeField params).value key =
        (lastValue key fields).getD (params.value key) := by
  induction fields with
  | nil => exact fun params _ => rfl
  | cons field rest ih =>
      intro params short
      obtain ⟨field_short, short⟩ := List.forall_mem_cons.mp short
      rw [List.foldl_cons, ih _ short, value_storeField params field_short, lastValue, lastValue,
        List.filterMap_cons]
      cases valueOf key.name field with
      | none => rfl
      | some value =>
          rw [List.getLast?_cons]
          rfl

/-! ## The history of a run -/

theorem lastValue_append (key : Key) (fields more : List Chars) :
    lastValue key (fields ++ more) = (lastValue key more).or (lastValue key fields) := by
  rw [lastValue, List.filterMap_append, List.getLast?_append]
  rfl

theorem pastValue_append (key : Key) (messages : List Handed) (line : Chars)
    (passed : Option Parameters) :
    pastValue key (messages ++ [⟨line ++ [0], passed⟩]) =
      (lastValue key (messageFields line)).getD (pastValue key messages) := by
  have last : [(⟨line ++ [0], passed⟩ : Handed)].flatMap
      (fun handed => messageFields handed.line.dropLast) = messageFields line := by
    rw [List.flatMap_singleton, List.dropLast_concat]
  rw [pastValue, List.flatMap_append, last, lastValue_append, pastValue]
  cases lastValue key (messageFields line) <;> rfl

/-- What is known after every message: where the globals and the strings that were passed
come from. -/
structure Recorded (yateMessage : YateMessage) : Prop where
  params : ∀ params, yateMessage.params = some params →
    ∀ key, params.value key = pastValue key yateMessage.handed
  passed : ∀ earlier later line passed, yateMessage.handed =
    earlier ++ ⟨line ++ [0], some passed⟩ :: later →
      ∀ key, passed.value key = (lastValue key (messageFields line)).getD (pastValue key earlier)

/-- What the parser stores for a line, and what is passed. -/
theorem value_handleLine {yateMessage : YateMessage} (recorded : Recorded yateMessage)
    (data : Bool) {line : Chars} (fits : Fits line) :
    ∃ passed, (handleLine data yateMessage line).handed =
        yateMessage.handed ++ [⟨line ++ [0], passed⟩] ∧
      (∀ params, (handleLine data yateMessage line).params = some params → ∀ key,
        params.value key = (lastValue key (messageFields line)).getD
          (pastValue key yateMessage.handed)) ∧
      ∀ strings, passed = some strings → ∀ key,
        strings.value key = (lastValue key (messageFields line)).getD
          (pastValue key yateMessage.handed) := by
  have size : strBufSize = 4096 := rfl
  cases known : yateMessage.params with
  | none =>
      obtain ⟨unknown, handed, -⟩ := handleLine_unknown data line known
      refine ⟨none, handed, fun params same => ?_, fun strings none => by cases none⟩
      rw [unknown] at same
      cases same
  | some params =>
      obtain ⟨parser, callExecute, run⟩ : ∃ parser callExecute, yateMessageParseIncoming
          ⟨finishedBuf line, params, yateMessage.out, []⟩ (line.length + 1) =
            (parser, callExecute) := ⟨_, _, rfl⟩
      obtain ⟨stored, handed, -⟩ := handleLine_parsed data known run
      have parsed := (parseIncoming_finished line params yateMessage.out []).params
      rw [run] at parsed
      have values (finished : callExecute ≠ none) (key : Key) : parser.params.value key =
          (lastValue key (messageFields line)).getD (pastValue key yateMessage.handed) := by
        rw [← recorded.params params known key, parsed finished]
        refine value_storeFields _ key params fun field member => ?_
        have short := (sublist_of_mem_splitOn line (List.mem_of_mem_drop member)).length_le
        have line_short := fits.2
        omega
      refine ⟨_, handed, fun final same => ?_, fun strings same => ?_⟩
      · rw [stored] at same
        obtain ⟨result, finished, rfl⟩ := Option.map_eq_some_iff.mp same
        exact values (by rw [finished]; exact Option.some_ne_none result)
      · split at same
        case isTrue call =>
            obtain rfl := Option.some.inj same
            exact values (by rw [call.1]; exact Option.some_ne_none true)
        case isFalse => cases same

/-- **A message keeps the record.** -/
theorem Recorded.handleLine {yateMessage : YateMessage} (recorded : Recorded yateMessage)
    (data : Bool) {line : Chars} (fits : Fits line) :
    Recorded (handleLine data yateMessage line) := by
  obtain ⟨passed, handed, params, strings⟩ := value_handleLine recorded data fits
  constructor
  case params =>
      intro stored known key
      rw [handed, pastValue_append, params stored known key]
  case passed =>
      intro earlier later line' passed' cut
      rw [handed] at cut
      rcases List.eq_nil_or_concat' later with rfl | ⟨before, last, rfl⟩
      · obtain ⟨rfl, same⟩ := List.append_inj' cut rfl
        obtain ⟨lines, rfl⟩ := Handed.mk.inj (List.cons.inj same).1
        obtain rfl := List.append_cancel_right lines
        exact strings passed' rfl
      · rw [← List.cons_append, ← List.append_assoc] at cut
        exact recorded.passed earlier before line' passed' (List.append_inj' cut rfl).1

theorem recorded_lines (data : Bool) (lines : List Chars) : ∀ {yateMessage : YateMessage},
    (∀ line ∈ lines, Fits line) → Recorded yateMessage →
      Recorded (lines.foldl (handleLine data) yateMessage) := by
  induction lines with
  | nil => exact fun _ recorded => recorded
  | cons line rest ih =>
      intro yateMessage fits recorded
      obtain ⟨line_fits, fits⟩ := List.forall_mem_cons.mp fits
      exact ih fits (recorded.handleLine data line_fits)

/-- **The record of a run.** -/
theorem recorded_reads (data : Bool) {reads : List Chars} (bytes : ∀ read ∈ reads, read ≠ []) :
    Recorded (yateMessageReads data .initial reads) := by
  obtain ⟨last, whole⟩ := reads_holding data reads .initial [] (by decide) bytes
  have start : YateMessage.initial = YateMessage.initial.holding [] := rfl
  have lines := fits_of_mem_takeReads reads List.not_mem_nil (by decide : ([] : Chars).length < _)
  have initial : Recorded .initial := by
    constructor
    case params =>
        intro params known key
        obtain rfl := Option.some.inj known
        cases key <;> rfl
    case passed =>
        intro earlier later line passed cut
        exact absurd cut.symm (List.append_ne_nil_of_right_ne_nil _ (List.cons_ne_nil _ _))
  have recorded : Recorded ((takeReads [] reads).foldl (handleLine data) .initial) :=
    recorded_lines data _ lines initial
  rw [start, whole]
  exact ⟨recorded.params, recorded.passed⟩

theorem getD_eq_getD_iff (own : Option Chars) (past other : Chars) :
    own.getD past = own.getD other ↔ own.isSome ∨ past = other := by
  cases own with
  | none => simp
  | some value => simp

/-- **Whose parameters a call gets.** Of every line of a run that starts a call, the strings
passed are the values of its own last parameters, or empty, exactly when for each name the
line has a parameter or the messages before it have left the string empty. Two runs pass the
same strings for the line exactly when they have left the same string for each name that
the line does not have. -/
theorem passed_own_iff {data : Bool} {reads : List Chars} {earlier later : List Handed}
    {line : Chars} {passed : Parameters} (bytes : ∀ read ∈ reads, read ≠ [])
    (handed : (yateMessageReads data .initial reads).handed =
      earlier ++ ⟨line ++ [0], some passed⟩ :: later) :
    ((∀ key, passed.value key = ownValue key line) ↔
      ∀ key, Carries key line ∨ pastValue key earlier = []) ∧
    ∀ {data' : Bool} {reads' : List Chars} {earlier' later' : List Handed} {passed' : Parameters},
      (∀ read ∈ reads', read ≠ []) →
      (yateMessageReads data' .initial reads').handed =
        earlier' ++ ⟨line ++ [0], some passed'⟩ :: later' →
      (passed = passed' ↔
        ∀ key, Carries key line ∨ pastValue key earlier = pastValue key earlier') := by
  have values := (recorded_reads data bytes).passed earlier later line passed handed
  refine ⟨forall_congr' fun key => ?_, ?_⟩
  · rw [values key]
    exact getD_eq_getD_iff (lastValue key (messageFields line)) (pastValue key earlier) []
  · intro data' reads' earlier' later' passed' bytes' handed'
    have values' := (recorded_reads data' bytes').passed earlier' later' line passed' handed'
    rw [Parameters.eq_iff]
    refine forall_congr' fun key => ?_
    rw [values key, values' key]
    exact getD_eq_getD_iff _ _ _

/-- The first message of a run is a call. -/
theorem first_call_passes_own :
    let call := chars "%%>message:1:2:call.execute:callednr=7:caller=42"
    let passed : Parameters := ⟨chars "7", chars "42", []⟩
    (yateMessageReads true .initial [call ++ [newline]]).handed =
        [] ++ ⟨call ++ [0], some passed⟩ :: [] ∧
      ∀ key, passed.value key = ownValue key call :=
  have bytes : ∀ read ∈ [chars "%%>message:1:2:call.execute:callednr=7:caller=42" ++ [newline]],
      read ≠ [] := by decide
  have handed : (yateMessageReads true .initial
      [chars "%%>message:1:2:call.execute:callednr=7:caller=42" ++ [newline]]).handed =
        [] ++ ⟨chars "%%>message:1:2:call.execute:callednr=7:caller=42" ++ [0],
          some ⟨chars "7", chars "42", []⟩⟩ :: [] := by decide +kernel
  ⟨handed, (passed_own_iff bytes handed).1.mpr fun _ => .inr rfl⟩

/-- **The caller of an earlier message is passed.** The line of the call has no `caller`,
and alone it passes none. -/
theorem earlier_caller_passed :
    let call := chars "%%>message:3:4:call.execute:callednr=7"
    let notify := chars "%%>message:1:2:chan.notify:caller=42"
    (yateMessageReads true .initial [notify ++ [newline], call ++ [newline]]).handed =
        [⟨notify ++ [0], none⟩, ⟨call ++ [0], some ⟨chars "7", chars "42", []⟩⟩] ∧
      ownValue .caller call = [] ∧
      (yateMessageReads true .initial [call ++ [newline]]).handed =
        [⟨call ++ [0], some ⟨chars "7", [], []⟩⟩] :=
  ⟨by decide +kernel, by decide +kernel, by decide +kernel⟩

end IsdnRas.Yate
