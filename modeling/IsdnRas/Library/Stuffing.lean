import Mathlib.Data.List.Basic

/-!
# Byte stuffing

A stuffing sends a special symbol as an escape followed by its mask, and every other
symbol as itself. The mask of a special symbol is not special, and masking twice gives
the symbol back. The escape is special.

`unstuff` reads the symbols back, one at a time, and remembers an escape. It undoes the
stuffing (`unstuff_stuff`). A special symbol other than the escape does not occur in what
is sent (`mem_stuff`), and an escape is followed by a symbol that is not special
(`stuff_after_escape`).
-/

set_option autoImplicit false

namespace IsdnRas

universe u

/-- The special symbols, the escape, and the mask. -/
structure Stuffing (α : Type u) where
  special : α → Bool
  escape : α
  mask : α → α
  special_escape : special escape = true
  special_mask : ∀ {symbol}, special symbol = true → special (mask symbol) = false
  mask_mask : ∀ symbol, mask (mask symbol) = symbol

namespace Stuffing

variable {α : Type u} (stuffing : Stuffing α)

/-- What is sent for one symbol. -/
def stuffOne (symbol : α) : List α :=
  if stuffing.special symbol then [stuffing.escape, stuffing.mask symbol] else [symbol]

/-- What is sent. -/
def stuff (symbols : List α) : List α := symbols.flatMap stuffing.stuffOne

@[simp] theorem stuff_nil : stuffing.stuff [] = [] := rfl

@[simp] theorem stuff_cons (symbol : α) (rest : List α) :
    stuffing.stuff (symbol :: rest) = stuffing.stuffOne symbol ++ stuffing.stuff rest :=
  List.flatMap_cons

/-- What is sent for symbols, the first of which is special. -/
theorem stuff_cons_of_special {symbol : α} (special : stuffing.special symbol = true)
    (rest : List α) : stuffing.stuff (symbol :: rest) =
      stuffing.escape :: stuffing.mask symbol :: stuffing.stuff rest := by
  rw [stuff_cons, stuffOne, if_pos special, List.cons_append, List.singleton_append]

theorem stuff_cons_of_plain {symbol : α} (plain : stuffing.special symbol = false)
    (rest : List α) : stuffing.stuff (symbol :: rest) = symbol :: stuffing.stuff rest := by
  rw [stuff_cons, stuffOne, plain, if_neg Bool.false_ne_true, List.singleton_append]

/-- A mask of a special symbol is not the escape. -/
theorem mask_ne_escape {symbol : α} (special : stuffing.special symbol = true) :
    stuffing.mask symbol ≠ stuffing.escape := by
  intro same
  have plain := stuffing.special_mask special
  rw [same, stuffing.special_escape] at plain
  cases plain

theorem ne_escape_of_plain {symbol : α} (plain : stuffing.special symbol = false) :
    symbol ≠ stuffing.escape := by
  rintro rfl
  cases plain.symm.trans stuffing.special_escape

/-- What is sent holds no special symbol but the escape. -/
theorem mem_stuff {sent : α} {symbols : List α} (member : sent ∈ stuffing.stuff symbols) :
    sent = stuffing.escape ∨ stuffing.special sent = false := by
  obtain ⟨symbol, -, here⟩ := List.mem_flatMap.mp member
  unfold stuffOne at here
  split at here
  case isTrue special =>
      rcases List.mem_cons.mp here with escape | masked
      · exact .inl escape
      · obtain rfl := List.mem_singleton.mp masked
        exact .inr (stuffing.special_mask special)
  case isFalse plain =>
      obtain rfl := List.mem_singleton.mp here
      exact .inr (Bool.eq_false_iff.mpr plain)

/-- An escape that is sent is followed by a symbol that is not special. -/
theorem stuff_after_escape {symbols : List α} : ∀ {before after : List α},
    stuffing.stuff symbols = before ++ stuffing.escape :: after →
      ∃ next rest, after = next :: rest ∧ stuffing.special next = false := by
  induction symbols with
  | nil =>
      intro before after sent
      simp at sent
  | cons symbol rest ih =>
      intro before after sent
      cases special : stuffing.special symbol with
      | true =>
          rw [stuff_cons_of_special _ special] at sent
          rcases before with - | ⟨first, - | ⟨second, before⟩⟩
          · obtain rfl := (List.cons.inj sent).2
            exact ⟨_, _, rfl, stuffing.special_mask special⟩
          · exact absurd (List.cons.inj (List.cons.inj sent).2).1
              (stuffing.mask_ne_escape special)
          · exact ih (List.cons.inj (List.cons.inj sent).2).2
      | false =>
          rw [stuff_cons_of_plain _ special] at sent
          rcases before with - | ⟨first, before⟩
          · exact absurd (List.cons.inj sent).1 (stuffing.ne_escape_of_plain special)
          · exact ih (List.cons.inj sent).2

variable [DecidableEq α]

/-- Read symbols back. `pending` says that the last one was an escape. -/
def unstuff : Bool → List α → List α
  | _, [] => []
  | pending, symbol :: rest =>
      if symbol = stuffing.escape then unstuff true rest
      else (if pending then stuffing.mask symbol else symbol) :: unstuff false rest

/-- **What was sent is read back.** -/
theorem unstuff_stuff (symbols : List α) :
    stuffing.unstuff false (stuffing.stuff symbols) = symbols := by
  induction symbols with
  | nil => rfl
  | cons symbol rest ih =>
      cases special : stuffing.special symbol with
      | true =>
          rw [stuff_cons_of_special _ special, unstuff, if_pos rfl, unstuff,
            if_neg (stuffing.mask_ne_escape special), if_pos rfl, stuffing.mask_mask, ih]
      | false =>
          rw [stuff_cons_of_plain _ special, unstuff,
            if_neg (stuffing.ne_escape_of_plain special), if_neg Bool.false_ne_true, ih]

/-- As many escapes are sent as there are special symbols. -/
theorem count_escape_stuff (symbols : List α) :
    (stuffing.stuff symbols).count stuffing.escape = symbols.countP stuffing.special := by
  induction symbols with
  | nil => rfl
  | cons symbol rest ih =>
      cases special : stuffing.special symbol with
      | true =>
          rw [stuff_cons_of_special _ special, List.count_cons_self,
            List.count_cons_of_ne (stuffing.mask_ne_escape special), ih,
            List.countP_cons_of_pos special]
      | false =>
          rw [stuff_cons_of_plain _ special,
            List.count_cons_of_ne (stuffing.ne_escape_of_plain special), ih,
            List.countP_cons_of_neg (by simp [special])]

end Stuffing

end IsdnRas
