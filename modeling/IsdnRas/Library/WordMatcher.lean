import Mathlib.Data.List.Induction

/-!
# Looking for a word with one position

The matcher reads symbols one at a time and keeps how many symbols of a word have been
matched. When a symbol does not continue the match it starts again, and the symbol may
only be the first one of the word. A match is declared when the whole word has been read,
and then the matcher starts again as well.

What is declared is always the word (`declared_fresh`). But a match that has begun too
early may hide the word: when the word begins and the matcher has a position other than
zero at which the first symbol of the word continues the match, the word is passed over,
and it is found in all other cases (`declared_iff`).
-/

set_option autoImplicit false

namespace IsdnRas

universe u

theorem take_append_symbol {α : Type u} {word : List α} {symbol : α} {p : Nat}
    (continues : word[p]? = some symbol) : word.take (p + 1) = word.take p ++ [symbol] := by
  rw [List.take_add_one, continues, Option.toList_some]

variable {α : Type u} [DecidableEq α] (word : List α)

/-- The position after one more symbol. -/
def advance (position : Nat) (symbol : α) : Nat :=
  let position := if word[position]? ≠ some symbol then 0 else position
  if word[position]? = some symbol then position + 1 else position

/-- The position from which the next symbol is matched. -/
def nextPosition (position : Nat) (symbol : α) : Nat :=
  if advance word position symbol = word.length then 0 else advance word position symbol

/-- The position after some symbols. -/
def positionAfter (heard : List α) : Nat := heard.foldl (nextPosition word) 0

/-- A match is declared on the last of some symbols. -/
def Declared (heard : List α) : Prop :=
  ∃ before symbol, heard = before ++ [symbol] ∧
    advance word (positionAfter word before) symbol = word.length

/-- The last symbols are the word, and none of them belongs to a word declared before. -/
def Fresh (heard : List α) : Prop :=
  ∃ before, heard = before ++ word ∧
    ∀ k, 0 < k → k < word.length → ¬ Declared word (before ++ word.take k)

/-- The position at which the word can begin. -/
def Ready (position : Nat) : Prop := position = 0 ∨ word[position]? ≠ word[0]?

section Matcher

variable {word} {position : Nat} {symbol : α} {heard before : List α}

theorem advance_of_match (matched : word[position]? = some symbol) :
    advance word position symbol = position + 1 := by
  simp [advance, matched]

/-- A symbol that does not continue the match may be the first one of the word. -/
theorem advance_of_mismatch (mismatch : word[position]? ≠ some symbol) :
    advance word position symbol = if word[0]? = some symbol then 1 else 0 := by
  simp [advance, mismatch]

/-- A symbol continues the match, or leaves at most one symbol matched. -/
theorem advance_cases (word : List α) (position : Nat) (symbol : α) :
    word[position]? = some symbol ∧ advance word position symbol = position + 1 ∨
      word[position]? ≠ some symbol ∧ advance word position symbol ≤ 1 := by
  by_cases matched : word[position]? = some symbol
  · exact .inl ⟨matched, advance_of_match matched⟩
  · refine .inr ⟨matched, ?_⟩
    rw [advance_of_mismatch matched]
    split <;> omega

theorem positionAfter_append (before : List α) (symbol : α) :
    positionAfter word (before ++ [symbol]) =
      nextPosition word (positionAfter word before) symbol := by
  rw [positionAfter, List.foldl_append]
  rfl

theorem declared_append_iff : Declared word (before ++ [symbol]) ↔
    advance word (positionAfter word before) symbol = word.length := by
  constructor
  · rintro ⟨other, last, same, declared⟩
    obtain ⟨rfl, last_eq⟩ := List.append_inj' same rfl
    rwa [List.singleton_inj.mp last_eq]
  · exact fun declared => ⟨before, symbol, rfl, declared⟩

/-- Without a declared match the position is the one that was reached. -/
theorem positionAfter_of_not_declared (quiet : ¬ Declared word (before ++ [symbol])) :
    positionAfter word (before ++ [symbol]) = advance word (positionAfter word before) symbol := by
  have short := fun declared => quiet (declared_append_iff.mpr declared)
  rw [positionAfter_append, nextPosition, if_neg short]

theorem positionAfter_of_declared (declared : Declared word (before ++ [symbol])) :
    positionAfter word (before ++ [symbol]) = 0 := by
  rw [positionAfter_append, nextPosition, if_pos (declared_append_iff.mp declared)]

/-- The symbols at the end of `heard` are as many of the word as the position says, and no
match has been declared on any of them. -/
def Matched (word heard : List α) : Prop :=
  positionAfter word heard < word.length ∧
    ∃ old, heard = old ++ word.take (positionAfter word heard) ∧
      ∀ k, 0 < k → k ≤ positionAfter word heard → ¬ Declared word (old ++ word.take k)

/-- After a declared match nothing is matched. -/
theorem matched_of_position_zero (nonempty : word ≠ []) (start : positionAfter word heard = 0) :
    Matched word heard := by
  refine ⟨by rw [start]; exact List.length_pos_iff.mpr nonempty, heard, by simp [start], ?_⟩
  intro k positive bound
  omega

/-- A symbol that does not continue the match cannot complete the word. -/
theorem advance_ne_length (mismatch : word[position]? ≠ some symbol)
    (inside : position < word.length) : advance word position symbol ≠ word.length := by
  rw [advance_of_mismatch mismatch]
  split
  case isTrue first =>
    intro short
    obtain rfl : position = 0 := by omega
    exact mismatch first
  case isFalse => omega

theorem matched_append (nonempty : word ≠ []) (symbol : α) (sofar : Matched word heard) :
    Matched word (heard ++ [symbol]) := by
  by_cases declared : Declared word (heard ++ [symbol])
  · exact matched_of_position_zero nonempty (positionAfter_of_declared declared)
  obtain ⟨inside, old, heard_eq, quiet⟩ := sofar
  have position_eq := positionAfter_of_not_declared declared
  have short : advance word (positionAfter word heard) symbol ≠ word.length :=
    fun complete => declared (declared_append_iff.mpr complete)
  by_cases continues : word[positionAfter word heard]? = some symbol
  · -- one more symbol of the same word
    rw [advance_of_match continues] at position_eq short
    have longer : heard ++ [symbol] = old ++ word.take (positionAfter word heard + 1) := by
      rw [take_append_symbol continues, ← List.append_assoc, ← heard_eq]
    refine ⟨by omega, old, by rw [position_eq, longer], fun k positive bound => ?_⟩
    rcases Nat.lt_or_ge (positionAfter word heard) k with last | earlier
    · obtain rfl : k = positionAfter word heard + 1 := by omega
      rwa [← longer]
    · exact quiet k positive earlier
  · rw [advance_of_mismatch continues] at position_eq short
    by_cases first : word[0]? = some symbol
    · -- the symbol begins the word again
      rw [if_pos first] at position_eq short
      have inside_one := List.length_pos_iff.mpr nonempty
      have take_one : word.take 1 = [symbol] := by simpa using take_append_symbol first
      refine ⟨by omega, heard, by rw [position_eq, take_one], fun k positive bound => ?_⟩
      obtain rfl : k = 1 := by omega
      rwa [take_one]
    · rw [if_neg first] at position_eq
      exact matched_of_position_zero nonempty position_eq

theorem matched_of_heard (nonempty : word ≠ []) (heard : List α) : Matched word heard := by
  induction heard using List.reverseRecOn with
  | nil => exact matched_of_position_zero nonempty rfl
  | append_singleton heard symbol sofar => exact matched_append nonempty symbol sofar

/-- **A match is declared only on the last symbol of the word.** -/
theorem declared_fresh (nonempty : word ≠ []) (declared : Declared word heard) :
    Fresh word heard := by
  obtain ⟨before, symbol, rfl, complete⟩ := declared
  obtain ⟨inside, old, before_eq, quiet⟩ := matched_of_heard nonempty before
  have continues : word[positionAfter word before]? = some symbol := by
    by_contra mismatch
    exact advance_ne_length mismatch inside complete
  rw [advance_of_match continues] at complete
  refine ⟨old, ?_, fun k positive bound => quiet k positive (by omega)⟩
  have whole := take_append_symbol continues
  rw [complete, List.take_length] at whole
  rw [whole, ← List.append_assoc, ← before_eq]

theorem advance_first_iff (first : word[0]? = some symbol) :
    advance word position symbol = 1 ↔ Ready word position := by
  rw [Ready, first]
  by_cases continues : word[position]? = some symbol
  · simp [advance_of_match continues, continues]
  · simp [advance_of_mismatch continues, first, continues]

/-- Past its first symbol the word goes on only where it is matched. -/
theorem advance_later_iff {i : Nat} (continues : word[i + 1]? = some symbol) :
    advance word position symbol = i + 2 ↔ position = i + 1 := by
  constructor
  · intro reached
    rcases advance_cases word position symbol with ⟨-, next⟩ | ⟨-, few⟩ <;> omega
  · rintro rfl
    exact advance_of_match continues

/-- **The word is found exactly when it begins at a position that is ready for it.** -/
theorem declared_iff (nonempty : word ≠ []) (fresh : Fresh word (before ++ word)) :
    Declared word (before ++ word) ↔ Ready word (positionAfter word before) := by
  obtain ⟨other, same, quiet⟩ := fresh
  obtain rfl : before = other := List.append_cancel_right same
  -- the induction is on the symbols of the word that have been read
  have reading : ∀ i symbol, word[i]? = some symbol →
      (advance word (positionAfter word (before ++ word.take i)) symbol = i + 1 ↔
        Ready word (positionAfter word before)) := by
    intro i
    induction i with
    | zero =>
      intro symbol first
      simpa using advance_first_iff first
    | succ i sofar =>
      intro symbol continues
      have inside : i + 1 < word.length := (List.getElem?_eq_some_iff.mp continues).1
      have current : word[i]? = some word[i] := List.getElem?_eq_getElem (by omega)
      have taken := take_append_symbol current
      have position_eq : positionAfter word (before ++ word.take (i + 1)) =
          advance word (positionAfter word (before ++ word.take i)) word[i] := by
        have silent := quiet (i + 1) (by omega) inside
        rw [taken, ← List.append_assoc] at silent ⊢
        exact positionAfter_of_not_declared silent
      rw [advance_later_iff continues, position_eq]
      exact sofar _ current
  obtain ⟨front, last, rfl⟩ : ∃ front last, word = front ++ [last] :=
    ⟨_, _, (List.dropLast_concat_getLast nonempty).symm⟩
  have complete := reading front.length last (by simp)
  rw [List.take_left' rfl] at complete
  rw [← complete, ← List.append_assoc, declared_append_iff, List.length_append]
  rfl

/-- **Over a stream, the matches that are declared are the words that can be heard, exactly
when every such word begins at a position that is ready for it.** -/
theorem declared_iff_fresh_iff (nonempty : word ≠ []) (stream : List α) :
    (∀ heard, heard <+: stream → (Declared word heard ↔ Fresh word heard)) ↔
      ∀ before, before ++ word <+: stream → Fresh word (before ++ word) →
        Ready word (positionAfter word before) := by
  constructor
  · intro found before within fresh
    exact (declared_iff nonempty fresh).mp ((found _ within).mpr fresh)
  · intro ready heard within
    refine ⟨declared_fresh nonempty, fun fresh => ?_⟩
    obtain ⟨before, rfl, -⟩ := id fresh
    exact (declared_iff nonempty fresh).mpr (ready before within fresh)

end Matcher

end IsdnRas
