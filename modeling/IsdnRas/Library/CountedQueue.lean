import Mathlib.Algebra.Group.Nat.Defs
import Mathlib.Data.List.Basic

/-!
# Queues with a counter beside the list

A counted queue is a list of messages together with a 32-bit counter that is
kept by hand. Appending a message increments the counter, taking the head
decrements it only when there is a head, and emptying the list leaves the
counter as it was.

The counter is exact when it is the length of the list. Appending messages keeps
it exact as long as the list stays below `2 ^ 32` messages (`Exact.append`),
dropping messages from the head keeps it exact (`Exact.drop`), and emptying the
list keeps it exact only when the counter was zero (`exact_free_iff`). The
counter is congruent when it is the length modulo `2 ^ 32`, which appending keeps
without a bound. The counter covers the list when it is not below the length, which
emptying the list keeps.
-/

set_option autoImplicit false

namespace IsdnRas

universe u

/-- A list of messages and the counter kept beside it. -/
@[ext] structure CountedQueue (α : Type u) where
  msgs : List α
  count : UInt32
deriving Repr, DecidableEq

namespace CountedQueue

variable {α : Type u}

/-- The empty list with counter zero. -/
def empty : CountedQueue α := ⟨[], 0⟩

/-- Append at the tail and increment. -/
def enqueue (queue : CountedQueue α) (msg : α) : CountedQueue α :=
  ⟨queue.msgs ++ [msg], queue.count + 1⟩

/-- Take the head and decrement, if there is a head. -/
def dequeue (queue : CountedQueue α) : Option α × CountedQueue α :=
  match queue.msgs with
  | [] => (none, queue)
  | msg :: rest => (some msg, ⟨rest, queue.count - 1⟩)

/-- Empty the list. The counter is not touched. -/
def free (queue : CountedQueue α) : CountedQueue α := { queue with msgs := [] }

/-- Take messages from `source` and append each to `target`, until `source` is
empty. -/
def drain : List α → UInt32 → CountedQueue α → CountedQueue α × CountedQueue α
  | [], sourceCount, target => (⟨[], sourceCount⟩, target)
  | msg :: rest, sourceCount, target => drain rest (sourceCount - 1) (target.enqueue msg)

/-- The counter is the length of the list. -/
def Exact (queue : CountedQueue α) : Prop := queue.count.toNat = queue.msgs.length

instance (queue : CountedQueue α) : Decidable queue.Exact :=
  inferInstanceAs (Decidable (_ = _))

@[simp] theorem enqueue_msgs (queue : CountedQueue α) (msg : α) :
    (queue.enqueue msg).msgs = queue.msgs ++ [msg] := rfl

@[simp] theorem enqueue_count (queue : CountedQueue α) (msg : α) :
    (queue.enqueue msg).count = queue.count + 1 := rfl

@[simp] theorem free_msgs (queue : CountedQueue α) : queue.free.msgs = [] := rfl

@[simp] theorem free_count (queue : CountedQueue α) : queue.free.count = queue.count := rfl

/-- Draining moves the whole source list behind the target list. -/
theorem drain_eq (source : List α) : ∀ (sourceCount : UInt32) (target : CountedQueue α),
    drain source sourceCount target =
      (⟨[], sourceCount - UInt32.ofNat source.length⟩,
        ⟨target.msgs ++ source, target.count + UInt32.ofNat source.length⟩) := by
  induction source with
  | nil =>
      intro sourceCount target
      simp [drain]
  | cons msg rest ih =>
      intro sourceCount target
      have length : UInt32.ofNat (msg :: rest).length = UInt32.ofNat rest.length + 1 := by
        rw [List.length_cons, UInt32.ofNat_add]
        rfl
      simp only [drain, ih, enqueue_msgs, enqueue_count, length, List.append_assoc,
        List.singleton_append, Prod.mk.injEq, CountedQueue.mk.injEq, true_and]
      constructor <;> grind

/-! ## Exact counters -/

/-- An exact counter that is not zero has a message behind it. -/
theorem Exact.ne_nil {queue : CountedQueue α} (exact : queue.Exact) (count : queue.count ≠ 0) :
    queue.msgs ≠ [] := by
  intro nil
  apply count
  have zero : queue.count.toNat = 0 := by rw [exact, nil, List.length_nil]
  exact UInt32.toNat_inj.mp zero

theorem Exact.count_eq_zero_iff {queue : CountedQueue α} (exact : queue.Exact) :
    queue.count = 0 ↔ queue.msgs = [] := by
  constructor
  · intro count
    have length : queue.msgs.length = 0 := by rw [← exact, count]; rfl
    exact List.eq_nil_of_length_eq_zero length
  · intro nil
    by_contra count
    exact exact.ne_nil count nil

theorem Exact.count_eq {queue : CountedQueue α} (exact : queue.Exact) :
    queue.count = UInt32.ofNat queue.msgs.length := by
  rw [← exact, UInt32.ofNat_toNat]

theorem exact_of_count_eq {queue : CountedQueue α}
    (count : queue.count = UInt32.ofNat queue.msgs.length)
    (bound : queue.msgs.length < 2 ^ 32) : queue.Exact := by
  rw [Exact, count, UInt32.toNat_ofNat_of_lt' bound]

theorem Exact.length_lt {queue : CountedQueue α} (exact : queue.Exact) :
    queue.msgs.length < 2 ^ 32 := by
  rw [← exact]
  exact queue.count.toNat_lt

/-- Appending messages and adding their number. -/
theorem Exact.append {queue : CountedQueue α} (exact : queue.Exact) (msgs : List α)
    (bound : queue.msgs.length + msgs.length < 2 ^ 32) :
    (CountedQueue.mk (queue.msgs ++ msgs) (queue.count + UInt32.ofNat msgs.length)).Exact := by
  refine exact_of_count_eq ?_ (by simpa using bound)
  rw [exact.count_eq, List.length_append, UInt32.ofNat_add]

theorem Exact.enqueue {queue : CountedQueue α} (exact : queue.Exact) (msg : α)
    (bound : queue.msgs.length + 1 < 2 ^ 32) : (queue.enqueue msg).Exact :=
  exact.append [msg] bound

/-- Dropping messages from the head and subtracting their number. -/
theorem Exact.drop {queue : CountedQueue α} (exact : queue.Exact) {k : Nat}
    (le : k ≤ queue.msgs.length) :
    (CountedQueue.mk (queue.msgs.drop k) (queue.count - UInt32.ofNat k)).Exact := by
  have length : queue.msgs.length = queue.msgs.length - k + k := by omega
  have bound := exact.length_lt
  refine exact_of_count_eq ?_ (by simp only [List.length_drop]; omega)
  rw [exact.count_eq, List.length_drop, length, UInt32.ofNat_add, Nat.add_sub_cancel]
  grind

/-- Emptying the list keeps the counter exact only when the counter is zero. -/
theorem exact_free_iff {queue : CountedQueue α} : queue.free.Exact ↔ queue.count = 0 := by
  rw [Exact, free_msgs, free_count, List.length_nil]
  exact ⟨fun zero => UInt32.toNat_inj.mp zero, fun count => by rw [count]; rfl⟩

/-! ## Congruent counters -/

/-- The counter is the length of the list modulo `2 ^ 32`. -/
def Congruent (queue : CountedQueue α) : Prop := queue.count = UInt32.ofNat queue.msgs.length

namespace Congruent

variable {queue : CountedQueue α}

/-- A congruent counter of a short list is exact. -/
theorem exact (congruent : queue.Congruent) (bound : queue.msgs.length < 2 ^ 32) : queue.Exact :=
  exact_of_count_eq congruent bound

theorem append (congruent : queue.Congruent) (msgs : List α) :
    (CountedQueue.mk (queue.msgs ++ msgs) (queue.count + UInt32.ofNat msgs.length)).Congruent := by
  rw [Congruent, congruent, List.length_append, UInt32.ofNat_add]

theorem drop (congruent : queue.Congruent) {k : Nat} (le : k ≤ queue.msgs.length) :
    (CountedQueue.mk (queue.msgs.drop k) (queue.count - UInt32.ofNat k)).Congruent := by
  have length : queue.msgs.length = queue.msgs.length - k + k := by omega
  rw [Congruent, congruent, List.length_drop, length, UInt32.ofNat_add, Nat.add_sub_cancel]
  grind

end Congruent

/-! ## Covering counters -/

theorem toNat_sub_ofNat {count : UInt32} {k : Nat} (le : k ≤ count.toNat) :
    (count - UInt32.ofNat k).toNat = count.toNat - k := by
  have small : (UInt32.ofNat k).toNat = k :=
    UInt32.toNat_ofNat_of_lt' (Nat.lt_of_le_of_lt le count.toNat_lt)
  rw [UInt32.toNat_sub_of_le, small]
  rw [UInt32.le_iff_toNat_le, small]
  exact le

theorem toNat_add_ofNat {count : UInt32} {k : Nat} (bound : count.toNat + k < 2 ^ 32) :
    (count + UInt32.ofNat k).toNat = count.toNat + k := by
  have small : k < UInt32.size := Nat.lt_of_le_of_lt (Nat.le_add_left k count.toNat) bound
  rw [UInt32.toNat_add, UInt32.toNat_ofNat_of_lt' small, Nat.mod_eq_of_lt bound]

/-- The counter is not below the length of the list. -/
def Covers (queue : CountedQueue α) : Prop := queue.msgs.length ≤ queue.count.toNat

instance (queue : CountedQueue α) : Decidable queue.Covers :=
  inferInstanceAs (Decidable (_ ≤ _))

theorem covers_of_nil {queue : CountedQueue α} (nil : queue.msgs = []) : queue.Covers := by
  rw [Covers, nil]
  exact Nat.zero_le _

/-- A counter that is zero covers the empty list only. -/
theorem Covers.nil_of_count {queue : CountedQueue α} (covers : queue.Covers)
    (zero : queue.count = 0) : queue.msgs = [] := by
  rw [Covers, zero] at covers
  exact List.eq_nil_of_length_eq_zero (Nat.le_zero.mp covers)

theorem Covers.append {queue : CountedQueue α} (covers : queue.Covers) (msgs : List α)
    (bound : queue.count.toNat + msgs.length < 2 ^ 32) :
    (CountedQueue.mk (queue.msgs ++ msgs) (queue.count + UInt32.ofNat msgs.length)).Covers := by
  unfold Covers at covers ⊢
  rw [toNat_add_ofNat bound, List.length_append]
  omega

theorem Covers.drop {queue : CountedQueue α} (covers : queue.Covers) (k : Nat) :
    (CountedQueue.mk (queue.msgs.drop k)
      (queue.count - UInt32.ofNat (min k queue.msgs.length))).Covers := by
  unfold Covers at covers ⊢
  rw [toNat_sub_ofNat (by omega), List.length_drop]
  omega

end CountedQueue

end IsdnRas
