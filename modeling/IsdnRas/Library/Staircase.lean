import Mathlib.Order.Lattice
import Mathlib.Data.Int.Order.Basic

/-!
# Staircases

A staircase has a threshold for every level but the last. The level of a sample is the number
of thresholds that it has reached (`IsLevel`).

A loop over the samples looks at one threshold in each round: the one of the level it is on.
This is enough as long as no sample reaches two new thresholds at once (`IsLevel.rise`), so
for integers one after the other and increasing thresholds (`levels_isLevel`).
-/

set_option autoImplicit false

namespace IsdnRas

universe u

variable {α : Type u} [LinearOrder α]

/-- The sample has reached the thresholds below the level, and not the one of the level. -/
structure IsLevel (threshold : Nat → α) (last : Nat) (sample : α) (level : Nat) : Prop where
  le_last : level ≤ last
  reached : ∀ index < level, threshold index ≤ sample
  below : level < last → sample < threshold level

/-- The level in the next round. -/
def rise (threshold : Nat → α) (last level : Nat) (sample : α) : Nat :=
  if level < last ∧ threshold level ≤ sample then level + 1 else level

namespace IsLevel

variable {threshold : Nat → α} {last level level' : Nat} {sample sample' : α}

/-- A higher sample is on no lower level. -/
theorem le_of_le (lower : IsLevel threshold last sample level)
    (upper : IsLevel threshold last sample' level') (le : sample ≤ sample') : level ≤ level' := by
  by_contra above
  have less : level' < level := Nat.lt_of_not_le above
  have reached : threshold level' ≤ sample := lower.reached level' less
  have below : sample' < threshold level' := upper.below (Nat.lt_of_lt_of_le less lower.le_last)
  exact absurd (le.trans_lt below) (not_lt.mpr reached)

/-- A sample is on one level. -/
theorem unique (first : IsLevel threshold last sample level)
    (second : IsLevel threshold last sample level') : level = level' :=
  Nat.le_antisymm (first.le_of_le second le_rfl) (second.le_of_le first le_rfl)

/-- **The level follows the samples** when the next one reaches one new threshold at most. -/
theorem rise (isLevel : IsLevel threshold last sample level) (le : sample ≤ sample')
    (next : level + 1 < last → sample' < threshold (level + 1)) :
    IsLevel threshold last sample' (rise threshold last level sample') := by
  unfold IsdnRas.rise
  split
  case isTrue up =>
      refine ⟨up.1, fun index less => ?_, next⟩
      rcases Nat.lt_succ_iff_lt_or_eq.mp less with earlier | rfl
      · exact (isLevel.reached index earlier).trans le
      · exact up.2
  case isFalse stays =>
      refine ⟨isLevel.le_last, fun index less => (isLevel.reached index less).trans le, ?_⟩
      exact fun less => lt_of_not_ge fun reached => stays ⟨less, reached⟩

end IsLevel

/-! ## Integers one after the other -/

/-- The levels of the integers from `sample` on. -/
def levels (threshold : Nat → Int) (last : Nat) : (rounds : Nat) → (sample : Int) →
    (level : Nat) → List Nat
  | 0, _, _ => []
  | rounds + 1, sample, level =>
      let level := rise threshold last level sample
      level :: levels threshold last rounds (sample + 1) level

@[simp] theorem length_levels (threshold : Nat → Int) (last rounds : Nat) :
    ∀ sample level, (levels threshold last rounds sample level).length = rounds := by
  induction rounds with
  | zero => exact fun _ _ => rfl
  | succ rounds ih => exact fun _ _ => congrArg (· + 1) (ih _ _)

/-- **The loop finds the level of each integer.** -/
theorem levels_isLevel {threshold : Nat → Int} {last : Nat}
    (increasing : ∀ index, index + 1 < last → threshold index < threshold (index + 1))
    (rounds : Nat) : ∀ {sample : Int} {level : Nat}, IsLevel threshold last (sample - 1) level →
      ∀ index < rounds, ∃ found, (levels threshold last rounds sample level)[index]? = some found ∧
        IsLevel threshold last (sample + index) found := by
  induction rounds with
  | zero => exact fun _ index less => absurd less (Nat.not_lt_zero index)
  | succ rounds ih =>
      intro sample level isLevel index less
      have next : level + 1 < last → sample < threshold (level + 1) := by
        intro more
        have below := isLevel.below (Nat.lt_of_succ_lt more)
        have above := increasing level more
        omega
      have now := isLevel.rise (Int.le_of_lt (Int.sub_one_lt_iff.mpr le_rfl)) next
      cases index with
      | zero => exact ⟨_, rfl, by simpa using now⟩
      | succ index =>
          have before : IsLevel threshold last (sample + 1 - 1)
              (rise threshold last level sample) := by
            rwa [Int.add_sub_cancel]
          obtain ⟨found, there, found_level⟩ := ih before index (Nat.lt_of_succ_lt_succ less)
          refine ⟨found, there, ?_⟩
          rwa [show sample + ((index + 1 : Nat) : Int) = sample + 1 + index by omega]

end IsdnRas
