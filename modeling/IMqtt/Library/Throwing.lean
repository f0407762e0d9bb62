import Mathlib.Tactic.Common

/-!
# Programs that may throw

A program changes a state and either returns or throws; what it did to the
state before it threw stays done. `Decides` says exactly when a program
returns, where that depends on its parameters alone, and `Keeps` that some
view of the state comes out as it went in, whichever way the program ends.
`Appends` says which entries a program adds to a record; one that throws has
added the first of them.
-/

namespace Throwing

set_option autoImplicit false

universe u

variable {State Error Value Result View : Type u}

abbrev Program (State Error Value : Type u) := ExceptT Error (StateM State) Value

def outcome (program : Program State Error Value) (state : State) :
    Except Error Value × State :=
  program.run.run state

def require (condition : Prop) [Decidable condition] (error : Error) :
    Program State Error PUnit :=
  if condition then pure ⟨⟩ else throw error

def whenever (guard : Prop) [Decidable guard] (program : Program State Error PUnit) :
    Program State Error PUnit :=
  if guard then program else pure ⟨⟩

theorem outcome_pure (value : Value) (state : State) :
    outcome (pure value : Program State Error Value) state = (.ok value, state) := rfl

theorem outcome_throw (error : Error) (state : State) :
    outcome (throw error : Program State Error Value) state = (.error error, state) := rfl

theorem outcome_modify (change : State → State) (state : State) :
    outcome (modify change : Program State Error PUnit) state =
      (.ok ⟨⟩, change state) := rfl

theorem outcome_get (state : State) :
    outcome (get : Program State Error State) state = (.ok state, state) := rfl

theorem outcome_bind (program : Program State Error Value)
    (next : Value → Program State Error Result) (state : State) :
    outcome (program >>= next) state =
      match outcome program state with
      | (.ok value, after) => outcome (next value) after
      | (.error error, after) => (.error error, after) := by
  simp only [outcome, ExceptT.run_bind, StateT.run_bind]
  cases program.run.run state with
  | mk ended after => cases ended <;> rfl

def Returns (program : Program State Error Value) (state : State) : Prop :=
  ∃ value, (outcome program state).1 = .ok value

theorem returns_bind_iff (program : Program State Error Value)
    (next : Value → Program State Error Result) (state : State) :
    Returns (program >>= next) state ↔
      ∃ value, (outcome program state).1 = .ok value ∧
        Returns (next value) (outcome program state).2 := by
  simp only [Returns, outcome_bind]
  cases outcome program state with
  | mk ended after => cases ended <;> simp

/-- The program returns if and only if the condition holds. -/
def Decides (program : Program State Error Value) (condition : Prop) : Prop :=
  ∀ state, Returns program state ↔ condition

theorem decides_pure (value : Value) :
    Decides (pure value : Program State Error Value) True := by
  intro state
  exact iff_true_intro ⟨value, rfl⟩

theorem decides_modify (change : State → State) :
    Decides (modify change : Program State Error PUnit) True := by
  intro state
  exact iff_true_intro ⟨⟨⟩, rfl⟩

theorem decides_require (condition : Prop) [Decidable condition] (error : Error) :
    Decides (require condition error : Program State Error PUnit) condition := by
  intro state
  by_cases holds : condition
  · simp [Returns, require, holds, outcome_pure]
  · simp [Returns, require, holds, outcome_throw]

theorem decides_of_iff {program : Program State Error Value} {first second : Prop}
    (program_decides : Decides program first) (same : first ↔ second) :
    Decides program second := by
  intro state
  rw [program_decides state, same]

theorem decides_bind {program : Program State Error Value}
    {next : Value → Program State Error Result} {first second : Prop}
    (program_decides : Decides program first)
    (next_decides : ∀ value, Decides (next value) second) :
    Decides (program >>= next) (first ∧ second) := by
  intro state
  rw [returns_bind_iff]
  constructor
  · rintro ⟨value, returned, continues⟩
    exact ⟨(program_decides state).mp ⟨value, returned⟩,
      (next_decides value _).mp continues⟩
  · rintro ⟨holds, later⟩
    rcases (program_decides state).mpr holds with ⟨value, returned⟩
    exact ⟨value, returned, (next_decides value _).mpr later⟩

/-- A step that always returns does not count. -/
theorem decides_bind_of_returns {program : Program State Error Value}
    {next : Value → Program State Error Result} {condition : Prop}
    (returns : Decides program True)
    (next_decides : ∀ value, Decides (next value) condition) :
    Decides (program >>= next) condition := by
  apply decides_of_iff (decides_bind returns next_decides)
  rw [true_and]

theorem decides_when {program : Program State Error PUnit} {condition : Prop}
    (guard : Prop) [Decidable guard] (program_decides : Decides program condition) :
    Decides (whenever guard program) (guard → condition) := by
  by_cases enters : guard
  · simpa [whenever, enters] using program_decides
  · intro state
    simp [whenever, enters, Returns, outcome_pure]

/-- The view of the state is the same afterwards. -/
def Keeps (view : State → View) (program : Program State Error Value) : Prop :=
  ∀ state, view (outcome program state).2 = view state

variable {view : State → View}

theorem keeps_pure (value : Value) :
    Keeps view (pure value : Program State Error Value) := fun _ => rfl

theorem keeps_modify {change : State → State}
    (same : ∀ state, view (change state) = view state) :
    Keeps view (modify change : Program State Error PUnit) := same

theorem keeps_require (condition : Prop) [Decidable condition] (error : Error) :
    Keeps view (require condition error : Program State Error PUnit) := by
  intro state
  rw [require]
  split <;> rfl

theorem keeps_bind {program : Program State Error Value}
    {next : Value → Program State Error Result} (program_keeps : Keeps view program)
    (next_keeps : ∀ value, Keeps view (next value)) :
    Keeps view (program >>= next) := by
  intro state
  have first := program_keeps state
  rw [outcome_bind]
  cases ended : outcome program state with
  | mk result after =>
      rw [ended] at first
      cases result with
      | error error => exact first
      | ok value => exact (next_keeps value after).trans first

theorem keeps_when {program : Program State Error PUnit} (guard : Prop) [Decidable guard]
    (program_keeps : Keeps view program) :
    Keeps view (whenever guard program) := by
  rw [whenever]
  split
  · exact program_keeps
  · exact keeps_pure _

section Records

variable {Entry : Type u} {record : State → List Entry}

def Appends (record : State → List Entry) (program : Program State Error Value)
    (entries : List Entry) : Prop :=
  ∀ state, ∃ added, added <+: entries ∧
    record (outcome program state).2 = record state ++ added ∧
    (Returns program state → added = entries)

theorem appends_of_keeps {program : Program State Error Value}
    (kept : Keeps record program) : Appends record program [] := by
  intro state
  refine ⟨[], List.prefix_refl _, ?_, fun _ => rfl⟩
  rw [kept state, List.append_nil]

theorem appends_modify {change : State → State} {entries : List Entry}
    (added : ∀ state, record (change state) = record state ++ entries) :
    Appends record (modify change : Program State Error PUnit) entries := by
  intro state
  exact ⟨entries, List.prefix_refl _, added state, fun _ => rfl⟩

theorem appends_bind {program : Program State Error Value}
    {next : Value → Program State Error Result} {entries later : List Entry}
    (program_appends : Appends record program entries)
    (next_appends : ∀ value, Appends record (next value) later) :
    Appends record (program >>= next) (entries ++ later) := by
  intro state
  rcases program_appends state with ⟨first, part, shape, whole⟩
  have bound := outcome_bind program next state
  cases ended : outcome program state with
  | mk result middle =>
      rw [ended] at shape bound
      cases result with
      | error error =>
          refine ⟨first, part.trans (List.prefix_append _ _), by rw [bound]; exact shape, ?_⟩
          rintro ⟨value, returned⟩
          rw [bound] at returned
          cases returned
      | ok value =>
          have all := whole ⟨value, by rw [ended]⟩
          rcases next_appends value middle with ⟨second, rest, extended, complete⟩
          refine ⟨first ++ second, ?_, ?_, ?_⟩
          · rw [all]
            exact (List.prefix_append_right_inj entries).mpr rest
          · rw [bound]
            exact extended.trans (by rw [shape, List.append_assoc])
          · rintro ⟨result, returned⟩
            rw [bound] at returned
            rw [all, complete ⟨result, returned⟩]

theorem appends_when {program : Program State Error PUnit} {entries : List Entry}
    (guard : Prop) [Decidable guard] (program_appends : Appends record program entries) :
    Appends record (whenever guard program) (if guard then entries else []) := by
  by_cases enters : guard
  · rw [whenever, if_pos enters, if_pos enters]
    exact program_appends
  · rw [whenever, if_neg enters, if_neg enters]
    exact appends_of_keeps (keeps_pure _)

end Records

end Throwing
