import Mathlib.Data.Nat.Basic
import Mathlib.Tactic.Cases

/-!
# Sequence numbers modulo `M`

A sequence number is a remainder by `M`. `seqDist M first last` is the number of
steps from `first` to `last` when counting upwards and wrapping at `M`.

Protocols count without bound and transmit remainders. `mod_inj_of_near` says
when the remainder determines the number: two numbers less than `M` apart with
the same remainder are equal.
-/

set_option autoImplicit false

namespace IsdnRas

/-- The number of steps from `first` up to `last`, modulo `M`. -/
def seqDist (M first last : Nat) : Nat := (last + M - first) % M

/-- Two numbers less than `M` apart with the same remainder are equal. -/
theorem mod_inj_of_near {M first last : Nat} (near : first < last + M) (near' : last < first + M)
    (same : first % M = last % M) : first = last := by
  rcases Nat.le_total first last with below | below
  · have multiple : (last - first) % M = 0 := Nat.sub_mod_eq_zero_of_mod_eq same.symm
    rw [Nat.mod_eq_of_lt (by omega)] at multiple
    omega
  · have multiple : (first - last) % M = 0 := Nat.sub_mod_eq_zero_of_mod_eq same
    rw [Nat.mod_eq_of_lt (by omega)] at multiple
    omega

/-- A remainder below `2 * M` by cases. -/
theorem mod_cases {M n : Nat} (bound : n < 2 * M) : n < M ∧ n % M = n ∨ M ≤ n ∧ n % M = n - M := by
  by_cases below : n < M
  · exact .inl ⟨below, Nat.mod_eq_of_lt below⟩
  · refine .inr ⟨by omega, ?_⟩
    rw [Nat.mod_eq_sub_mod (by omega), Nat.mod_eq_of_lt (by omega)]

section Distance

variable {M first last : Nat}

theorem seqDist_lt (positive : 0 < M) : seqDist M first last < M := Nat.mod_lt _ positive

@[simp] theorem seqDist_self : seqDist M first first = 0 := by
  rw [seqDist, Nat.add_sub_cancel_left, Nat.mod_self]

theorem seqDist_cases (first_lt : first < M) (last_lt : last < M) :
    first ≤ last ∧ seqDist M first last = last - first ∨
      last < first ∧ seqDist M first last = last + M - first := by
  unfold seqDist
  rcases mod_cases (M := M) (n := last + M - first) (by omega) with ⟨bound, value⟩ | ⟨bound, value⟩
  · exact .inr ⟨by omega, value⟩
  · exact .inl ⟨by omega, by omega⟩

theorem seqDist_eq_zero_iff (first_lt : first < M) (last_lt : last < M) :
    seqDist M first last = 0 ↔ first = last := by
  rcases seqDist_cases first_lt last_lt with ⟨order, value⟩ | ⟨order, value⟩ <;> omega

/-- Walking the distance from `first` ends at `last`. -/
theorem add_seqDist (first_lt : first < M) (last_lt : last < M) :
    (first + seqDist M first last) % M = last := by
  rcases seqDist_cases first_lt last_lt with ⟨order, value⟩ | ⟨order, value⟩
  · rw [value, Nat.add_sub_cancel' order, Nat.mod_eq_of_lt last_lt]
  · have sum : first + (last + M - first) = last + M := by omega
    rw [value, sum, Nat.add_mod_right, Nat.mod_eq_of_lt last_lt]

/-- The distance to the number `k` steps further on is `k`. -/
theorem seqDist_add (first_lt : first < M) {k : Nat} (k_lt : k < M) :
    seqDist M first ((first + k) % M) = k := by
  have positive : 0 < M := by omega
  rcases mod_cases (M := M) (n := first + k) (by omega) with ⟨bound, value⟩ | ⟨bound, value⟩ <;>
    rcases seqDist_cases first_lt (Nat.mod_lt (first + k) positive) with
      ⟨order, dist⟩ | ⟨order, dist⟩ <;>
    omega

/-- One step towards `last` shortens the distance by one. -/
theorem seqDist_succ (first_lt : first < M) (last_lt : last < M) (apart : first ≠ last) :
    seqDist M ((first + 1) % M) last + 1 = seqDist M first last := by
  have positive : 0 < M := by omega
  rcases mod_cases (M := M) (n := first + 1) (by omega) with ⟨bound, value⟩ | ⟨bound, value⟩ <;>
    rcases seqDist_cases (Nat.mod_lt (first + 1) positive) last_lt with
      ⟨order, dist⟩ | ⟨order, dist⟩ <;>
    rcases seqDist_cases first_lt last_lt with ⟨order', dist'⟩ | ⟨order', dist'⟩ <;>
    omega

/-- Walking part of the way shortens the distance by as much. -/
theorem seqDist_advance (first_lt : first < M) (last_lt : last < M) {k : Nat}
    (le : k ≤ seqDist M first last) :
    seqDist M ((first + k) % M) last = seqDist M first last - k := by
  have positive : 0 < M := by omega
  have within : seqDist M first last < M := seqDist_lt positive
  have walk : last = ((first + k) % M + (seqDist M first last - k)) % M := by
    rw [Nat.mod_add_mod, Nat.add_assoc, Nat.add_sub_cancel' le, add_seqDist first_lt last_lt]
  calc seqDist M ((first + k) % M) last
      = seqDist M ((first + k) % M) (((first + k) % M + (seqDist M first last - k)) % M) :=
        congrArg (seqDist M ((first + k) % M)) walk
    _ = seqDist M first last - k := seqDist_add (Nat.mod_lt _ positive) (by omega)

/-- The distance of the remainders of two numbers less than `M` apart. -/
theorem seqDist_mod {low high : Nat} (le : low ≤ high) (near : high < low + M) :
    seqDist M (low % M) (high % M) = high - low := by
  have positive : 0 < M := by omega
  have walk : high % M = (low % M + (high - low)) % M := by
    rw [Nat.mod_add_mod, Nat.add_sub_cancel' le]
  rw [walk, seqDist_add (Nat.mod_lt low positive) (by omega)]

end Distance

end IsdnRas
