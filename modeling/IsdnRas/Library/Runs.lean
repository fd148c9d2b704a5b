import Mathlib.Logic.Basic

/-!
# Runs of a partial step function

A system takes steps on operations, and a step may fail. A state is reached
under a condition when a sequence of operations leads to it, each of them
meeting the condition in the state it was applied to.

`Reached.invariant` is the induction over runs: what holds at the start and is
kept by every step that meets the condition holds in every state reached.
`runOps` runs a given list of operations, and `reached_of_meetsAlong` places the
outcome among the states reached. `holds_along_iff` carries a condition that is
exact for one step over to whole runs.
-/

set_option autoImplicit false

namespace IsdnRas

universe u v

variable {State : Type u} {Op : Type v}

/-- The states reached from `start` by steps that meet `good`. -/
inductive Reached (step : State → Op → Option State) (good : State → Op → Prop)
    (start : State) : State → Prop where
  | refl : Reached step good start start
  | tail {state next : State} (op : Op) : Reached step good start state → good state op →
      step state op = some next → Reached step good start next

namespace Reached

variable {step : State → Op → Option State} {good : State → Op → Prop} {start : State}

/-- **Induction over runs.** -/
theorem invariant (inv : State → Prop) (initial : inv start)
    (preserved : ∀ {state next : State} (op : Op), inv state → good state op →
      step state op = some next → inv next)
    {state : State} (reached : Reached step good start state) : inv state := by
  induction reached with
  | refl => exact initial
  | tail op _ meets taken ih => exact preserved op ih meets taken

/-- A run from a state that is reached. -/
theorem trans {middle state : State} (first : Reached step good start middle)
    (second : Reached step good middle state) : Reached step good start state := by
  induction second with
  | refl => exact first
  | tail op _ meets taken ih => exact ih.tail op meets taken

/-- What is reached under a condition is reached under a weaker one. -/
theorem mono {other : State → Op → Prop} (weaker : ∀ state op, good state op → other state op)
    {state : State} (reached : Reached step good start state) : Reached step other start state := by
  induction reached with
  | refl => exact .refl
  | tail op _ meets taken ih => exact ih.tail op (weaker _ op meets) taken

end Reached

/-- Run a list of operations. -/
def runOps (step : State → Op → Option State) : State → List Op → Option State
  | state, [] => some state
  | state, op :: rest => (step state op).bind fun next => runOps step next rest

@[simp] theorem runOps_singleton (step : State → Op → Option State) (state : State) (op : Op) :
    runOps step state [op] = step state op := Option.bind_fun_some (step state op)

theorem runOps_append (step : State → Op → Option State) (first second : List Op) :
    ∀ state, runOps step state (first ++ second) =
      (runOps step state first).bind fun next => runOps step next second := by
  induction first with
  | nil => exact fun _ => rfl
  | cons op rest ih =>
      intro state
      rw [List.cons_append, runOps, runOps, Option.bind_assoc]
      exact congrArg (step state op).bind (funext ih)

/-- A run may be cut into pieces. -/
theorem runOps_flatten (step : State → Op → Option State) (pieces : List (List Op)) :
    ∀ state, runOps step state pieces.flatten = runOps (runOps step) state pieces := by
  induction pieces with
  | nil => exact fun _ => rfl
  | cons piece rest ih =>
      intro state
      rw [List.flatten_cons, runOps_append, runOps]
      exact congrArg (runOps step state piece).bind (funext ih)

/-- Every completed step of a run meets the condition. -/
def MeetsAlong (step : State → Op → Option State) (good : State → Op → Prop) :
    State → List Op → Prop
  | _, [] => True
  | state, op :: rest => good state op ∧ ∀ next ∈ step state op, MeetsAlong step good next rest

instance decidableMeetsAlong {step : State → Op → Option State} {good : State → Op → Prop}
    [∀ state op, Decidable (good state op)] :
    (state : State) → (ops : List Op) → Decidable (MeetsAlong step good state ops)
  | _, [] => inferInstanceAs (Decidable True)
  | state, op :: rest =>
      have := fun next => @decidableMeetsAlong step good _ next rest
      inferInstanceAs (Decidable (_ ∧ ∀ next ∈ step state op, MeetsAlong step good next rest))

/-- Every run meets the condition that asks nothing. -/
theorem meetsAlong_true {step : State → Op → Option State} (ops : List Op) :
    ∀ state, MeetsAlong step (fun _ _ => True) state ops := by
  induction ops with
  | nil => exact fun _ => trivial
  | cons op rest ih => exact fun _ => ⟨trivial, fun next _ => ih next⟩

/-- A run whose steps all meet the condition reaches its last state. -/
theorem reached_of_meetsAlong {step : State → Op → Option State} {good : State → Op → Prop}
    {start : State} (ops : List Op) : ∀ {state last : State}, Reached step good start state →
      MeetsAlong step good state ops → runOps step state ops = some last →
        Reached step good start last := by
  induction ops with
  | nil =>
      intro state last reached _ ran
      exact Option.some.inj ran ▸ reached
  | cons op rest ih =>
      intro state last reached meets ran
      obtain ⟨next, taken, ran⟩ := Option.bind_eq_some_iff.mp ran
      exact ih (reached.tail op meets.1 taken) (meets.2 next taken) ran

/-- What follows from a condition in every state of a run that meets it. -/
theorem MeetsAlong.imp {step : State → Op → Option State} {good other : State → Op → Prop}
    (inv : State → Prop)
    (kept : ∀ {state next : State} (op : Op), inv state → good state op →
      step state op = some next → inv next)
    (weaker : ∀ {state : State} (op : Op), inv state → good state op → other state op)
    (ops : List Op) : ∀ {state : State}, inv state → MeetsAlong step good state ops →
      MeetsAlong step other state ops := by
  induction ops with
  | nil => exact fun _ _ => trivial
  | cons op rest ih =>
      intro state now meets
      exact ⟨weaker op now meets.1, fun next taken =>
        ih (kept op now meets.1 taken) (meets.2 next taken)⟩

/-- **Exact conditions along runs.** When a step from a state with the property succeeds and
keeps the property exactly under the condition, a run does so exactly when each of its
steps meets the condition. -/
theorem holds_along_iff {step : State → Op → Option State} {good : State → Op → Prop}
    {inv holds : State → Prop}
    (kept : ∀ {state next : State} (op : Op), inv state → step state op = some next → inv next)
    (exact : ∀ (state : State) (op : Op), inv state → holds state →
      ((∃ next, step state op = some next ∧ holds next) ↔ good state op))
    (ops : List Op) : ∀ {state : State}, inv state → holds state →
      ((∀ before, before <+: ops → ∃ last, runOps step state before = some last ∧ holds last) ↔
        MeetsAlong step good state ops) := by
  induction ops with
  | nil =>
      intro state _ now
      refine iff_of_true (fun before within => ?_) trivial
      obtain rfl := List.prefix_nil.mp within
      exact ⟨state, rfl, now⟩
  | cons op rest ih =>
      intro state sound now
      constructor
      · intro along
        obtain ⟨next, run, there⟩ := along [op] ⟨rest, rfl⟩
        rw [runOps_singleton] at run
        refine ⟨(exact state op sound now).mp ⟨next, run, there⟩, fun other taken => ?_⟩
        obtain rfl := Option.some.inj (run.symm.trans taken)
        refine (ih (kept op sound run) there).mp fun before within => ?_
        have longer : op :: before <+: op :: rest := List.cons_prefix_cons.mpr ⟨rfl, within⟩
        obtain ⟨last, runs, holding⟩ := along (op :: before) longer
        rw [runOps, run] at runs
        exact ⟨last, runs, holding⟩
      · rintro ⟨meets, later⟩ before within
        obtain ⟨next, run, there⟩ := (exact state op sound now).mpr meets
        cases before with
        | nil => exact ⟨state, rfl, now⟩
        | cons first before =>
            obtain ⟨rfl, shorter⟩ := List.cons_prefix_cons.mp within
            rw [runOps, run]
            exact (ih (kept first sound run) there).mpr (later next run) before shorter

/-- **Exact conditions on a history.** When a step keeps the property under the condition and
otherwise breaks it, and what is broken remains so, the property holds after a run exactly
when each of its steps meets the condition. -/
theorem holds_last_iff {step : State → Op → Option State} {good : State → Op → Prop}
    {holds broken : State → Prop}
    (kept : ∀ {state next : State} (op : Op), holds state → good state op →
      step state op = some next → holds next)
    (breaks : ∀ {state next : State} (op : Op), holds state → ¬ good state op →
      step state op = some next → broken next)
    (remains : ∀ {state next : State} (op : Op), broken state →
      step state op = some next → broken next)
    (apart : ∀ {state : State}, holds state → ¬ broken state)
    (ops : List Op) : ∀ {state last : State}, holds state → runOps step state ops = some last →
      (holds last ↔ MeetsAlong step good state ops) ∧
        (broken last ↔ ¬ MeetsAlong step good state ops) := by
  have stays : ∀ (ops : List Op) {state last : State}, broken state →
      runOps step state ops = some last → broken last := by
    intro ops
    induction ops with
    | nil => exact fun now ran => Option.some.inj ran ▸ now
    | cons op rest ih =>
        intro state last now ran
        obtain ⟨next, taken, later⟩ := Option.bind_eq_some_iff.mp ran
        exact ih (remains op now taken) later
  induction ops with
  | nil =>
      intro state last now ran
      cases ran
      exact ⟨iff_of_true now trivial, iff_of_false (apart now) fun unmet => unmet trivial⟩
  | cons op rest ih =>
      intro state last now ran
      obtain ⟨next, taken, later⟩ := Option.bind_eq_some_iff.mp ran
      by_cases meets : good state op
      · obtain ⟨holding, breaking⟩ := ih (kept op now meets taken) later
        have along : MeetsAlong step good state (op :: rest) ↔ MeetsAlong step good next rest := by
          refine ⟨fun along => along.2 next taken, fun along => ⟨meets, fun other here => ?_⟩⟩
          exact Option.some.inj (taken.symm.trans here) ▸ along
        rw [along]
        exact ⟨holding, breaking⟩
      · have lost := stays rest (breaks op now meets taken) later
        have unmet : ¬ MeetsAlong step good state (op :: rest) := fun along => meets along.1
        exact ⟨iff_of_false (fun holding => apart holding lost) unmet, iff_of_true lost unmet⟩

/-! ## Simulation -/

section Simulation

universe w x

variable {Abstract : Type w} {AbstractOp : Type x}

/-- Each step of a system is a run of another one, read off an abstraction of the state, in
the states with an invariant. -/
structure Simulates (step : State → Op → Option State) (good : State → Op → Prop)
    (inv : State → Prop) (abstract : State → Abstract) (trace : State → Op → List AbstractOp)
    (step' : Abstract → AbstractOp → Option Abstract) : Prop where
  kept : ∀ {state next : State} (op : Op), inv state → good state op →
    step state op = some next → inv next
  runs : ∀ {state next : State} (op : Op), inv state → good state op →
    step state op = some next → runOps step' (abstract state) (trace state op) =
      some (abstract next)

/-- **Simulation over runs.** What is reached has the invariant, and its abstraction is
reached under any condition that the runs of the other system meet. -/
theorem Simulates.reached {step : State → Op → Option State} {good : State → Op → Prop}
    {inv : State → Prop} {abstract : State → Abstract} {trace : State → Op → List AbstractOp}
    {step' : Abstract → AbstractOp → Option Abstract} {good' : Abstract → AbstractOp → Prop}
    (simulates : Simulates step good inv abstract trace step')
    (meets : ∀ state op, good state op → MeetsAlong step' good' (abstract state) (trace state op))
    {start state : State} (initial : inv start) (reached : Reached step good start state) :
    inv state ∧ Reached step' good' (abstract start) (abstract state) := by
  induction reached with
  | refl => exact ⟨initial, .refl⟩
  | tail op _ condition taken ih =>
      have ran := simulates.runs op ih.1 condition taken
      refine ⟨simulates.kept op ih.1 condition taken, ?_⟩
      exact reached_of_meetsAlong _ ih.2 (meets _ op condition) ran

/-- A simulation under a stronger condition. -/
theorem Simulates.mono {step : State → Op → Option State} {good stronger : State → Op → Prop}
    {inv : State → Prop} {abstract : State → Abstract} {trace : State → Op → List AbstractOp}
    {step' : Abstract → AbstractOp → Option Abstract}
    (simulates : Simulates step good inv abstract trace step')
    (weaker : ∀ state op, stronger state op → good state op) :
    Simulates step stronger inv abstract trace step' where
  kept op now meets taken := simulates.kept op now (weaker _ op meets) taken
  runs op now meets taken := simulates.runs op now (weaker _ op meets) taken

/-- Steps that have another name in another system. -/
theorem runOps_map {step : State → Op → Option State}
    {step' : State → AbstractOp → Option State} {name : AbstractOp → Op}
    (same : ∀ state op, step state (name op) = step' state op) (ops : List AbstractOp) :
    ∀ state, runOps step state (ops.map name) = runOps step' state ops := by
  induction ops with
  | nil => exact fun _ => rfl
  | cons op rest ih =>
      intro state
      rw [List.map_cons, runOps, runOps, same]
      exact congrArg (step' state op).bind (funext ih)

end Simulation

end IsdnRas
