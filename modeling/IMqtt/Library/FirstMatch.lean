import Mathlib.Tactic.Common

/-!
# Searching a linked list from a cursor

A cursor is the list from some node on, and the empty list is the null
cursor. A search returns the cursor at the first wanted node; a search that
skips its first match goes on behind it. Repeating the second kind of search
from where the previous one stopped visits the wanted nodes in their order,
each of them once.
-/

namespace FirstMatch

set_option autoImplicit false

universe u v

variable {Node : Type u} {State : Type v}

def firstMatch (wanted : Node → Bool) (cursor : List Node) : List Node :=
  cursor.dropWhile fun node => !wanted node

def nextMatch (wanted : Node → Bool) (skipFirst : Bool) (cursor : List Node) :
    List Node :=
  if skipFirst then firstMatch wanted (firstMatch wanted cursor).tail
  else firstMatch wanted cursor

variable {wanted : Node → Bool}

theorem filter_of_first_match_nil {cursor : List Node}
    (none_left : firstMatch wanted cursor = []) : cursor.filter wanted = [] := by
  induction cursor with
  | nil => rfl
  | cons head tail ih =>
      by_cases hit : wanted head = true
      · simp [firstMatch, hit] at none_left
      · rw [List.filter_cons_of_neg hit]
        apply ih
        simpa [firstMatch, hit] using none_left

theorem wanted_of_first_match {cursor rest : List Node} {node : Node}
    (found : firstMatch wanted cursor = node :: rest) : wanted node = true := by
  have head := List.head?_dropWhile_not (fun node => !wanted node) cursor
  rw [firstMatch] at found
  rw [found] at head
  simpa using head

theorem filter_of_first_match_cons {cursor rest : List Node} {node : Node}
    (found : firstMatch wanted cursor = node :: rest) :
    cursor.filter wanted = node :: rest.filter wanted := by
  have accepted := wanted_of_first_match found
  induction cursor with
  | nil => simp [firstMatch] at found
  | cons head tail ih =>
      by_cases hit : wanted head = true
      · have here : head :: tail = node :: rest := by
          simpa [firstMatch, hit] using found
        rw [here, List.filter_cons_of_pos accepted]
      · have later : firstMatch wanted tail = node :: rest := by
          simpa [firstMatch, hit] using found
        rw [List.filter_cons_of_neg hit]
        exact ih later

theorem head_first_match (wanted : Node → Bool) (cursor : List Node) :
    (firstMatch wanted cursor).head? = cursor.find? wanted := by
  rw [← List.head?_filter]
  cases found : firstMatch wanted cursor with
  | nil => rw [filter_of_first_match_nil found]
  | cons node rest => rw [filter_of_first_match_cons found, List.head?_cons, List.head?_cons]

/-- The wanted nodes that the next searches still have to visit. -/
def pending (wanted : Node → Bool) (skipFirst : Bool) (cursor : List Node) :
    List Node :=
  if skipFirst then (cursor.filter wanted).tail else cursor.filter wanted

theorem pending_of_next_match_nil {skipFirst : Bool} {cursor : List Node}
    (ended : nextMatch wanted skipFirst cursor = []) :
    pending wanted skipFirst cursor = [] := by
  cases skipFirst with
  | false => exact filter_of_first_match_nil ended
  | true =>
      cases found : firstMatch wanted cursor with
      | nil => simp [pending, filter_of_first_match_nil found]
      | cons node rest =>
          have behind : firstMatch wanted rest = [] := by
            simpa [nextMatch, found] using ended
          simp [pending, filter_of_first_match_cons found,
            filter_of_first_match_nil behind]

theorem pending_of_next_match_cons {skipFirst : Bool} {cursor rest : List Node}
    {node : Node} (found : nextMatch wanted skipFirst cursor = node :: rest) :
    pending wanted skipFirst cursor = node :: pending wanted true (node :: rest) := by
  have first : firstMatch wanted
      (if skipFirst then (firstMatch wanted cursor).tail else cursor) = node :: rest := by
    cases skipFirst <;> exact found
  have accepted := wanted_of_first_match first
  have visited := filter_of_first_match_cons first
  have remaining : pending wanted true (node :: rest) = rest.filter wanted := by
    simp [pending, accepted]
  rw [remaining, ← visited]
  cases skipFirst with
  | false => rfl
  | true =>
      cases skipped : firstMatch wanted cursor with
      | nil =>
          rw [nextMatch, skipped] at found
          simp [firstMatch] at found
      | cons head tail => simp [pending, filter_of_first_match_cons skipped]

/-- Search, handle what was found, search on behind it; `none` when the fuel
does not reach to the end. -/
def walk (wanted : Node → Bool) (body : State → Node → State) :
    Nat → Bool → List Node → State → Option State
  | 0, _, _, _ => none
  | fuel + 1, skipFirst, cursor, state =>
      match nextMatch wanted skipFirst cursor with
      | [] => some state
      | node :: rest => walk wanted body fuel true (node :: rest) (body state node)

theorem walk_eq_foldl (body : State → Node → State) {fuel : Nat} {skipFirst : Bool}
    {cursor : List Node} (state : State)
    (enough : (pending wanted skipFirst cursor).length < fuel) :
    walk wanted body fuel skipFirst cursor state =
      some ((pending wanted skipFirst cursor).foldl body state) := by
  induction fuel generalizing skipFirst cursor state with
  | zero => omega
  | succ fuel ih =>
      cases found : nextMatch wanted skipFirst cursor with
      | nil =>
          rw [pending_of_next_match_nil found]
          simp [walk, found]
      | cons node rest =>
          have visits := pending_of_next_match_cons found
          rw [visits, List.length_cons] at enough
          have remaining := @ih true (node :: rest) (body state node)
            (Nat.lt_of_succ_lt_succ enough)
          rw [visits, List.foldl_cons, ← remaining]
          simp [walk, found]

end FirstMatch
