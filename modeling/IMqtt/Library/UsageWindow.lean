import Mathlib.Data.List.Basic
import Mathlib.Tactic.Common

/-!
# A resource that is opened, used and closed

A trace is bracketed when opening and closing take turns, opening comes first,
and every use falls into an open window. A scan of the trace decides it and
says whether the window is open at the end.
-/

namespace UsageWindow

set_option autoImplicit false

universe u

variable {User : Type u}

inductive Event (User : Type u)
  | opened
  | closed
  | used (user : User)
  deriving DecidableEq, Repr

def scanStep : Bool → Event User → Option Bool
  | false, .opened => some true
  | true, .closed => some false
  | true, .used _ => some true
  | _, _ => none

def scan : Bool → List (Event User) → Option Bool
  | isOpen, [] => some isOpen
  | isOpen, event :: rest => (scanStep isOpen event).bind (scan · rest)

theorem scan_append (isOpen : Bool) (before after : List (Event User)) :
    scan isOpen (before ++ after) = (scan isOpen before).bind (scan · after) := by
  induction before generalizing isOpen with
  | nil => rfl
  | cons event rest ih =>
      rw [List.cons_append, scan, scan]
      cases scanStep isOpen event with
      | none => rfl
      | some next => exact ih next

theorem scan_last {trace : List (Event User)} {isOpen : Bool}
    (scanned : scan false trace = some isOpen) (event : Event User) :
    scan false (trace ++ [event]) = scanStep isOpen event := by
  rw [scan_append, scanned]
  simp [scan]

/-- The openings and closings of a trace, `true` for an opening. -/
def marks (trace : List (Event User)) : List Bool :=
  trace.filterMap fun event =>
    match event with
    | .opened => some true
    | .closed => some false
    | .used _ => none

/-- Openings and closings in turn, starting from `next`. -/
def alternating : Bool → Nat → List Bool
  | _, 0 => []
  | next, count + 1 => next :: alternating (!next) count

theorem marks_opened (rest : List (Event User)) :
    marks (.opened :: rest) = true :: marks rest := rfl

theorem marks_closed (rest : List (Event User)) :
    marks (.closed :: rest) = false :: marks rest := rfl

theorem marks_alternate {isOpen ends : Bool} {trace : List (Event User)}
    (scanned : scan isOpen trace = some ends) :
    marks trace = alternating (!isOpen) (marks trace).length := by
  induction trace generalizing isOpen with
  | nil => rfl
  | cons event rest ih =>
      cases event with
      | opened =>
          cases isOpen with
          | false =>
              have later : marks rest = alternating false (marks rest).length := ih scanned
              rw [marks_opened, List.length_cons, Bool.not_false, alternating, Bool.not_true,
                ← later]
          | true => cases scanned
      | closed =>
          cases isOpen with
          | false => cases scanned
          | true =>
              have later : marks rest = alternating true (marks rest).length := ih scanned
              rw [marks_closed, List.length_cons, Bool.not_true, alternating, Bool.not_false,
                ← later]
      | used user =>
          cases isOpen with
          | false => cases scanned
          | true => exact ih scanned

theorem last_mark {isOpen ends : Bool} {trace : List (Event User)}
    (scanned : scan isOpen trace = some ends) :
    (marks trace).getLast?.getD isOpen = ends := by
  induction trace generalizing isOpen with
  | nil => simpa [marks, scan] using scanned
  | cons event rest ih =>
      cases event with
      | opened =>
          cases isOpen with
          | false =>
              rw [marks_opened, List.getLast?_cons, Option.getD_some]
              exact ih scanned
          | true => cases scanned
      | closed =>
          cases isOpen with
          | false => cases scanned
          | true =>
              rw [marks_closed, List.getLast?_cons, Option.getD_some]
              exact ih scanned
      | used user =>
          cases isOpen with
          | false => cases scanned
          | true => exact ih scanned

theorem last_mark_of_open {trace : List (Event User)}
    (scanned : scan false trace = some true) : (marks trace).getLast? = some true := by
  have last := last_mark scanned
  cases found : (marks trace).getLast? with
  | none =>
      rw [found] at last
      cases last
  | some mark =>
      rw [found] at last
      exact congrArg some last

/-- Every use stands behind an opening that has not been closed. -/
theorem use_inside_window {before after : List (Event User)} {user : User} {ends : Bool}
    (scanned : scan false (before ++ .used user :: after) = some ends) :
    (marks before).getLast? = some true := by
  rw [scan_append, Option.bind_eq_some_iff] at scanned
  rcases scanned with ⟨isOpen, earlier, later⟩
  cases isOpen with
  | false => cases later
  | true => exact last_mark_of_open earlier

end UsageWindow
