import Mathlib.Logic.Basic

/-!
# Partial transducers

A transducer reads inputs one at a time, changes its state, and emits outputs. A
step may fail, and then the run has failed. `feed_append` says that a run over a
list can be cut anywhere: the second part continues from the state that the first
part has left. `feed_simulates` compares two transducers.
-/

set_option autoImplicit false

namespace IsdnRas

universe u v w

variable {State : Type u} {Input : Type v} {Output : Type w}

/-- Feed a list of inputs and collect the outputs. -/
def feed (step : State → Input → Option (State × List Output)) :
    State → List Input → Option (State × List Output)
  | state, [] => some (state, [])
  | state, input :: rest =>
      (step state input).bind fun next =>
        (feed step next.1 rest).map fun last => (last.1, next.2 ++ last.2)

section Feed

variable {step : State → Input → Option (State × List Output)} {state middle last : State}
  {first second : List Input} {out more : List Output}

@[simp] theorem feed_nil : feed step state [] = some (state, []) := rfl

/-- Feeding the second part after the first. -/
theorem feed_append (fed : feed step state first = some (middle, out)) (second : List Input) :
    feed step state (first ++ second) =
      (feed step middle second).map fun last => (last.1, out ++ last.2) := by
  induction first generalizing state out with
  | nil =>
      obtain ⟨rfl, rfl⟩ := Prod.mk.inj (Option.some.inj fed)
      simp
  | cons input rest ih =>
      obtain ⟨next, stepped, fedRest⟩ := Option.bind_eq_some_iff.mp fed
      obtain ⟨later, fedLater, same⟩ := Option.map_eq_some_iff.mp fedRest
      obtain ⟨rfl, rfl⟩ := Prod.mk.inj same
      have whole := ih fedLater
      simp only [List.cons_append, feed, stepped, Option.bind_some, whole, Option.map_map]
      congr 1
      funext last
      simp

theorem feed_append_some (fed : feed step state first = some (middle, out))
    (fed' : feed step middle second = some (last, more)) :
    feed step state (first ++ second) = some (last, out ++ more) := by
  rw [feed_append fed, fed']
  rfl

/-- A failure in the first part is a failure of the whole. -/
theorem feed_append_none (failed : feed step state first = none) (second : List Input) :
    feed step state (first ++ second) = none := by
  induction first generalizing state with
  | nil => cases failed
  | cons input rest ih =>
      cases stepped : step state input with
      | none => simp [feed, stepped]
      | some next =>
          simp only [feed, stepped, Option.bind_some, Option.map_eq_none_iff] at failed
          simp only [List.cons_append, feed, stepped, Option.bind_some, ih failed, Option.map_none]

/-- **Simulation.** A transducer that follows another one step by step emits the same. -/
theorem feed_simulates {State' : Type u} (step : State → Input → Option (State × List Output))
    (step' : State' → Input → Option (State' × List Output)) (follows : State → State' → Prop)
    (steps : ∀ {state next : State} {state' : State'} {input : Input} {out : List Output},
      follows state state' → step state input = some (next, out) →
        ∃ next', step' state' input = some (next', out) ∧ follows next next')
    (inputs : List Input) : ∀ {state last : State} {state' : State'} {out : List Output},
      follows state state' → feed step state inputs = some (last, out) →
        ∃ last', feed step' state' inputs = some (last', out) ∧ follows last last' := by
  induction inputs with
  | nil =>
      intro state last state' out now fed
      obtain ⟨rfl, rfl⟩ := Prod.mk.inj (Option.some.inj fed)
      exact ⟨state', rfl, now⟩
  | cons input rest ih =>
      intro state last state' out now fed
      obtain ⟨next, stepped, fedRest⟩ := Option.bind_eq_some_iff.mp fed
      obtain ⟨later, fedLater, same⟩ := Option.map_eq_some_iff.mp fedRest
      obtain ⟨rfl, rfl⟩ := Prod.mk.inj same
      obtain ⟨next', stepped', soon⟩ := steps now stepped
      obtain ⟨last', fed', done⟩ := ih soon fedLater
      refine ⟨last', ?_, done⟩
      rw [feed, stepped', Option.bind_some, fed', Option.map_some]

end Feed

end IsdnRas
