import Mathlib.Data.Option.Basic
import Mathlib.Data.List.Basic

/-!
# Systems of partial labelled steps

A label is one choice of the scheduler or of the environment; a step that is
not enabled returns `none`. Reachability is stated for the runs all of whose
steps meet a condition on the state they start from, so that "every run" and
"every run that keeps clear of a branch" share one induction rule.
-/

namespace LabelledSteps

set_option autoImplicit false

universe u v w x

structure System (State : Type u) (Label : Type v) where
  initial : State → Prop
  step : State → Label → Option State

variable {State : Type u} {Label : Type v}

/-- A guarded step was taken, so its guard held. -/
theorem guarded_some {guard : Prop} [Decidable guard] {value after : State}
    (taken : (if guard then some value else none) = some after) :
    guard ∧ after = value := by
  rw [Option.ite_none_right_eq_some, Option.some.injEq] at taken
  exact ⟨taken.1, taken.2.symm⟩

/-- The states of the runs whose every step is `allowed` where it starts. -/
inductive ReachedUnder (system : System State Label)
    (allowed : State → Label → Prop) : State → Prop
  | start {state : State} (initial : system.initial state) :
      ReachedUnder system allowed state
  | next {state after : State} {label : Label}
      (before : ReachedUnder system allowed state)
      (permitted : allowed state label)
      (taken : system.step state label = some after) :
      ReachedUnder system allowed after

/-- The states of all runs. -/
abbrev Reached (system : System State Label) : State → Prop :=
  ReachedUnder system fun _ _ => True

variable {system : System State Label} {allowed : State → Label → Prop}

theorem reached_of_reached_under {state : State}
    (reached : ReachedUnder system allowed state) : Reached system state := by
  induction reached with
  | start initial => exact .start initial
  | next _ _ taken ih => exact .next ih trivial taken

/-- The step obligation may use that the state is reached, and so every
invariant that has been proved before. -/
theorem invariant_of_step (Invariant : State → Prop)
    (start : ∀ state, system.initial state → Invariant state)
    (preserved : ∀ state label after, ReachedUnder system allowed state →
      Invariant state → allowed state label →
      system.step state label = some after → Invariant after)
    {state : State} (reached : ReachedUnder system allowed state) :
    Invariant state := by
  induction reached with
  | start initial => exact start _ initial
  | next before permitted taken ih =>
      exact preserved _ _ _ before ih permitted taken

/-- Run a schedule. -/
def execute (system : System State Label) : State → List Label → Option State
  | state, [] => some state
  | state, label :: rest => (system.step state label).bind (execute system · rest)

theorem execute_cons (state : State) (label : Label) (rest : List Label) :
    execute system state (label :: rest) =
      (system.step state label).bind (execute system · rest) := rfl

theorem execute_append (first : List Label) {state middle after : State} {rest : List Label}
    (before : execute system state first = some middle)
    (remaining : execute system middle rest = some after) :
    execute system state (first ++ rest) = some after := by
  induction first generalizing state with
  | nil =>
      rw [execute, Option.some.injEq] at before
      rw [before]
      exact remaining
  | cons label first ih =>
      rw [execute_cons, Option.bind_eq_some_iff] at before
      rcases before with ⟨next, taken, ran⟩
      rw [List.cons_append, execute_cons, taken]
      exact ih ran

/-- The steps of a schedule are allowed where they start. -/
def Keeps (system : System State Label) (allowed : State → Label → Prop) :
    State → List Label → Prop
  | _, [] => True
  | state, label :: rest =>
      allowed state label ∧
        ∀ after, system.step state label = some after →
          Keeps system allowed after rest

instance decidableKeeps (system : System State Label)
    (allowed : State → Label → Prop)
    [decide : ∀ state label, Decidable (allowed state label)] :
    ∀ state labels, Decidable (Keeps system allowed state labels)
  | _, [] => .isTrue trivial
  | state, label :: rest =>
      match decide state label with
      | .isFalse refused => .isFalse fun keeps => refused keeps.1
      | .isTrue permitted =>
          match taken : system.step state label with
          | none => .isTrue ⟨permitted, fun _ same => by simp [taken] at same⟩
          | some after =>
              match decidableKeeps system allowed after rest with
              | .isTrue keeps =>
                  .isTrue ⟨permitted, fun _ same => by
                    rw [taken, Option.some.injEq] at same
                    exact same ▸ keeps⟩
              | .isFalse breaks =>
                  .isFalse fun keeps => breaks (keeps.2 after taken)

theorem reached_under_of_execute (labels : List Label) {state after : State}
    (reached : ReachedUnder system allowed state)
    (keeps : Keeps system allowed state labels)
    (ran : execute system state labels = some after) :
    ReachedUnder system allowed after := by
  induction labels generalizing state with
  | nil =>
      simp only [execute, Option.some.injEq] at ran
      exact ran ▸ reached
  | cons label rest ih =>
      rw [execute_cons, Option.bind_eq_some_iff] at ran
      obtain ⟨middle, taken, remaining⟩ := ran
      exact ih (.next reached keeps.1 taken) (keeps.2 middle taken) remaining

theorem reached_of_execute (labels : List Label) {state after : State}
    (reached : Reached system state)
    (ran : execute system state labels = some after) : Reached system after := by
  refine reached_under_of_execute labels reached ?_ ran
  clear ran reached
  induction labels generalizing state with
  | nil => trivial
  | cons label rest ih => exact ⟨trivial, fun _ _ => ih⟩

/-- What a reached state has and no step takes away, every later state has. -/
theorem invariant_of_execute (Invariant : State → Prop)
    (preserved : ∀ state label after, Reached system state → Invariant state →
      system.step state label = some after → Invariant after)
    (labels : List Label) {state after : State} (reached : Reached system state)
    (holds : Invariant state) (ran : execute system state labels = some after) :
    Invariant after := by
  induction labels generalizing state with
  | nil =>
      rw [execute, Option.some.injEq] at ran
      exact ran ▸ holds
  | cons label rest ih =>
      rw [execute_cons, Option.bind_eq_some_iff] at ran
      rcases ran with ⟨next, taken, remaining⟩
      exact ih (.next reached trivial taken) (preserved _ _ _ reached holds taken) remaining

/-- What the steps with permitted labels keep, a schedule of such labels keeps,
wherever it starts. -/
theorem invariant_of_schedule (Invariant : State → Prop) (permitted : Label → Prop)
    (preserved : ∀ state label after, Invariant state → permitted label →
      system.step state label = some after → Invariant after)
    (labels : List Label) {state after : State} (holds : Invariant state)
    (keeps : ∀ label ∈ labels, permitted label)
    (ran : execute system state labels = some after) : Invariant after := by
  induction labels generalizing state with
  | nil =>
      rw [execute, Option.some.injEq] at ran
      exact ran ▸ holds
  | cons label rest ih =>
      rw [execute_cons, Option.bind_eq_some_iff] at ran
      rcases ran with ⟨next, taken, remaining⟩
      have here := preserved state label next holds (keeps label List.mem_cons_self) taken
      exact ih here (fun later member => keeps later (List.mem_cons_of_mem label member)) remaining

/-- Every step of the first system is matched by at most one step of the
second, along the states the first one reaches. -/
structure Simulation {Abstract : Type w} {Event : Type x}
    (system : System State Label) (specification : System Abstract Event) where
  abstraction : State → Abstract
  initial : ∀ state, system.initial state →
    specification.initial (abstraction state)
  step : ∀ state label after, Reached system state →
    system.step state label = some after →
    abstraction after = abstraction state ∨
      ∃ event, specification.step (abstraction state) event =
        some (abstraction after)

theorem reached_abstraction {Abstract : Type w} {Event : Type x}
    {specification : System Abstract Event}
    (simulation : Simulation system specification) {state : State}
    (reached : Reached system state) :
    Reached specification (simulation.abstraction state) := by
  induction reached with
  | start initial => exact .start (simulation.initial _ initial)
  | next before _ taken ih =>
      obtain same | ⟨event, matched⟩ := simulation.step _ _ _ before taken
      · rw [same]
        exact ih
      · exact .next ih trivial matched

end LabelledSteps
