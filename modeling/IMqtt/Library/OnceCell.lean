import Mathlib.Tactic.Common

/-!
# A value that is stored once

A flag for `call_once` whose function stores a value. The first caller runs the
function, callers that come while it runs wait for it, and later ones pass. The
winner is the value of the caller that runs it.
-/

namespace OnceCell

set_option autoImplicit false

universe u

variable {Value : Type u}

inductive Flag (Value : Type u)
  | fresh
  | running (value : Value)
  | done
  deriving DecidableEq, Repr

structure Cell (Value : Type u) where
  flag : Flag Value := .fresh
  value : Value
  winner : Option Value := none
  deriving DecidableEq, Repr

/-- Whether the caller runs the function itself; it waits in the other case. -/
def enter (cell : Cell Value) (value : Value) : Option (Bool × Cell Value) :=
  match cell.flag with
  | .fresh => some (true, { cell with flag := .running value, winner := some value })
  | .running _ => none
  | .done => some (false, cell)

def finish (cell : Cell Value) : Option (Cell Value) :=
  match cell.flag with
  | .running value => some { cell with flag := .done, value := value }
  | _ => none

inductive Sound (unset : Value) : Cell Value → Prop
  | fresh : Sound unset ⟨.fresh, unset, none⟩
  | running (value : Value) : Sound unset ⟨.running value, unset, some value⟩
  | done (value : Value) : Sound unset ⟨.done, value, some value⟩

/-- The caller passes a finished cell, or it is the first one. -/
theorem enter_cases {cell after : Cell Value} {value : Value} {runs : Bool}
    (entered : enter cell value = some (runs, after)) :
    (runs = true ∧ cell.flag = .fresh ∧
      after = { cell with flag := .running value, winner := some value }) ∨
    (runs = false ∧ cell.flag = .done ∧ after = cell) := by
  cases flag : cell.flag with
  | fresh =>
      simp only [enter, flag, Option.some.injEq, Prod.mk.injEq] at entered
      exact .inl ⟨entered.1.symm, rfl, entered.2.symm⟩
  | running other => simp [enter, flag] at entered
  | done =>
      simp only [enter, flag, Option.some.injEq, Prod.mk.injEq] at entered
      exact .inr ⟨entered.1.symm, rfl, entered.2.symm⟩

theorem finish_some {cell after : Cell Value} (finished : finish cell = some after) :
    ∃ value, cell.flag = .running value ∧
      after = { cell with flag := .done, value := value } := by
  cases flag : cell.flag with
  | running value =>
      simp only [finish, flag, Option.some.injEq] at finished
      exact ⟨value, rfl, finished.symm⟩
  | _ => simp [finish, flag] at finished

theorem sound_enter {unset value : Value} {cell after : Cell Value} {runs : Bool}
    (sound : Sound unset cell) (entered : enter cell value = some (runs, after)) :
    Sound unset after := by
  rcases enter_cases entered with ⟨-, flag, rfl⟩ | ⟨-, -, rfl⟩
  · cases sound with
    | fresh => exact .running value
    | running other => cases flag
    | done other => cases flag
  · exact sound

theorem sound_finish {unset : Value} {cell after : Cell Value} (sound : Sound unset cell)
    (finished : finish cell = some after) : Sound unset after := by
  rcases finish_some finished with ⟨value, flag, rfl⟩
  cases sound with
  | fresh => cases flag
  | running other =>
      cases flag
      exact .done value
  | done other => cases flag

/-- From then on every reader sees the winner's value. -/
theorem winner_of_done {unset : Value} {cell : Cell Value} (sound : Sound unset cell)
    (done : cell.flag = .done) : cell.winner = some cell.value := by
  cases sound with
  | fresh => cases done
  | running value => cases done
  | done value => rfl

theorem enter_keeps_winner {unset value chosen : Value} {cell after : Cell Value} {runs : Bool}
    (sound : Sound unset cell) (winner : cell.winner = some chosen)
    (entered : enter cell value = some (runs, after)) : after.winner = some chosen := by
  rcases enter_cases entered with ⟨-, fresh, -⟩ | ⟨-, -, rfl⟩
  · cases sound with
    | fresh => cases winner
    | running other => cases fresh
    | done other => cases fresh
  · exact winner

theorem finish_keeps_winner {chosen : Value} {cell after : Cell Value}
    (winner : cell.winner = some chosen) (finished : finish cell = some after) :
    after.winner = some chosen := by
  rcases finish_some finished with ⟨value, -, rfl⟩
  exact winner

theorem enter_keeps_done {value : Value} {cell after : Cell Value} {runs : Bool}
    (done : cell.flag = .done) (entered : enter cell value = some (runs, after)) :
    runs = false ∧ after = cell := by
  rcases enter_cases entered with ⟨-, fresh, -⟩ | ⟨passes, -, same⟩
  · rw [done] at fresh
    cases fresh
  · exact ⟨passes, same⟩

theorem finish_of_done {cell : Cell Value} (done : cell.flag = .done) :
    finish cell = none := by
  simp [finish, done]

theorem finish_sets_done {cell after : Cell Value} (finished : finish cell = some after) :
    after.flag = .done := by
  rcases finish_some finished with ⟨value, -, rfl⟩
  rfl

end OnceCell
