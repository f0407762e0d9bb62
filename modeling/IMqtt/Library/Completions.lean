import IMqtt.Library.LabelledSteps
import Mathlib.Data.List.Nodup

/-!
# Orders that are completed once

A desk takes orders; those it has accepted it completes later, in any order and
each at most once. The ledger of a run numbers the orders as they are placed
and lists the outcomes as they come.
-/

namespace Completions

open LabelledSteps

set_option autoImplicit false

universe u v

/-- Which orders can be placed, which of those are accepted, and which outcomes
an accepted order can have. -/
structure Desk (Order : Type u) (Outcome : Type v) where
  possible : Order → Bool
  accepted : Order → Bool
  completes : Order → Outcome → Bool

structure Ledger (Order : Type u) (Outcome : Type v) where
  placed : List Order := []
  done : List (Nat × Outcome) := []

inductive Event (Order : Type u) (Outcome : Type v)
  | place (order : Order)
  | complete (number : Nat) (outcome : Outcome)

variable {Order : Type u} {Outcome : Type v}

def Ledger.numbers (ledger : Ledger Order Outcome) : List Nat := ledger.done.map Prod.fst

/-- What an order has been completed with, once it has been. -/
def Ledger.outcomes (ledger : Ledger Order Outcome) (number : Nat) : List Outcome :=
  (ledger.done.filter fun entry => entry.1 == number).map Prod.snd

def step (desk : Desk Order Outcome) (ledger : Ledger Order Outcome) :
    Event Order Outcome → Option (Ledger Order Outcome)
  | .place order =>
      if desk.possible order = true then
        some { ledger with placed := ledger.placed ++ [order] }
      else none
  | .complete number outcome =>
      match ledger.placed[number]? with
      | some order =>
          if desk.accepted order = true ∧ desk.completes order outcome = true ∧
              number ∉ ledger.numbers then
            some { ledger with done := ledger.done ++ [(number, outcome)] }
          else none
      | none => none

def system (desk : Desk Order Outcome) : System (Ledger Order Outcome) (Event Order Outcome) where
  initial ledger := ledger = {}
  step := step desk

/-- What one step can do. -/
inductive Transition (desk : Desk Order Outcome) (ledger : Ledger Order Outcome) :
    Event Order Outcome → Ledger Order Outcome → Prop
  | place {order : Order} (possible : desk.possible order = true) :
      Transition desk ledger (.place order)
        { ledger with placed := ledger.placed ++ [order] }
  | complete {number : Nat} {outcome : Outcome} {order : Order}
      (open_order : ledger.placed[number]? = some order)
      (accepted : desk.accepted order = true)
      (completes : desk.completes order outcome = true)
      (first : number ∉ ledger.numbers) :
      Transition desk ledger (.complete number outcome)
        { ledger with done := ledger.done ++ [(number, outcome)] }

theorem step_transition {desk : Desk Order Outcome} {ledger after : Ledger Order Outcome}
    {event : Event Order Outcome} (taken : step desk ledger event = some after) :
    Transition desk ledger event after := by
  cases event with
  | place order =>
      rcases guarded_some taken with ⟨possible, rfl⟩
      exact .place possible
  | complete number outcome =>
      cases here : ledger.placed[number]? with
      | none => simp only [step, here, reduceCtorEq] at taken
      | some order =>
          simp only [step, here] at taken
          rcases guarded_some taken with ⟨⟨accepted, completes, first⟩, rfl⟩
          exact .complete here accepted completes first

/-- Every order placed is good, every outcome is fine for an order that was
placed and accepted, and no order has two outcomes. -/
structure Kept (desk : Desk Order Outcome) (good : Order → Prop)
    (fine : Order → Outcome → Prop) (ledger : Ledger Order Outcome) : Prop where
  placed : ∀ order ∈ ledger.placed, desk.possible order = true ∧ good order
  done : ∀ number outcome, (number, outcome) ∈ ledger.done →
    ∃ order, ledger.placed[number]? = some order ∧ desk.accepted order = true ∧
      desk.completes order outcome = true ∧ fine order outcome
  once : ledger.numbers.Nodup

section Run

variable {desk : Desk Order Outcome} {good : Order → Prop} {fine : Order → Outcome → Prop}
  {ledger after : Ledger Order Outcome}

/-- A condition on steps that asks for good orders and fine outcomes. -/
def Asks (good : Order → Prop) (fine : Order → Outcome → Prop)
    (ledger : Ledger Order Outcome) : Event Order Outcome → Prop
  | .place order => good order
  | .complete number outcome =>
      ∀ order, ledger.placed[number]? = some order → fine order outcome

theorem getElem_append_of_some {orders : List Order} {number : Nat} {order : Order}
    (here : orders[number]? = some order) (last : Order) :
    (orders ++ [last])[number]? = some order := by
  have bound : number < orders.length := by
    by_contra beyond
    rw [List.getElem?_eq_none (by omega)] at here
    cases here
  rw [List.getElem?_append_left bound]
  exact here

theorem kept_step {event : Event Order Outcome} (kept : Kept desk good fine ledger)
    (asked : Asks good fine ledger event) (transition : Transition desk ledger event after) :
    Kept desk good fine after := by
  cases transition with
  | @place order possible =>
      constructor
      · intro other member
        rw [List.mem_append, List.mem_singleton] at member
        rcases member with earlier | rfl
        · exact kept.placed other earlier
        · exact ⟨possible, asked⟩
      · intro number outcome member
        rcases kept.done number outcome member with ⟨known, here, rest⟩
        exact ⟨known, getElem_append_of_some here order, rest⟩
      · exact kept.once
  | @complete number outcome order here accepted completes first =>
      constructor
      · exact kept.placed
      · intro other result member
        rw [List.mem_append, List.mem_singleton, Prod.mk.injEq] at member
        rcases member with earlier | ⟨rfl, rfl⟩
        · exact kept.done other result earlier
        · exact ⟨order, here, accepted, completes, asked order here⟩
      · have numbers : ({ ledger with
            done := ledger.done ++ [(number, outcome)] } : Ledger Order Outcome).numbers =
              ledger.numbers ++ [number] := List.map_append
        rw [numbers]
        exact List.Nodup.append kept.once (List.nodup_singleton number)
          (by simpa using first)

/-- The induction over runs. -/
theorem reached_kept {allowed : Ledger Order Outcome → Event Order Outcome → Prop}
    (asks : ∀ ledger event, allowed ledger event → Asks good fine ledger event)
    (reached : ReachedUnder (system desk) allowed ledger) : Kept desk good fine ledger := by
  apply invariant_of_step (Kept desk good fine) _ _ reached
  · intro start begins
    have empty : start = {} := begins
    rw [empty]
    constructor
    · intro order member
      cases member
    · intro number outcome member
      cases member
    · exact List.nodup_nil
  · intro before event next _ kept permitted taken
    exact kept_step kept (asks before event permitted) (step_transition taken)

theorem mem_outcomes {number : Nat} {outcome : Outcome} :
    outcome ∈ ledger.outcomes number ↔ (number, outcome) ∈ ledger.done := by
  rw [Ledger.outcomes, List.mem_map]
  constructor
  · rintro ⟨⟨other, result⟩, member, rfl⟩
    rw [List.mem_filter, beq_iff_eq] at member
    rcases member with ⟨listed, rfl⟩
    exact listed
  · intro listed
    exact ⟨(number, outcome), List.mem_filter.mpr ⟨listed, beq_self_eq_true number⟩, rfl⟩

/-- An order has been completed once or not at all. -/
theorem outcomes_cases (kept : Kept desk good fine ledger) (number : Nat) :
    ledger.outcomes number = [] ∨
      ∃ outcome, ledger.outcomes number = [outcome] ∧ (number, outcome) ∈ ledger.done := by
  have short : (ledger.outcomes number).length ≤ 1 := by
    have counted := List.nodup_iff_count_le_one.mp kept.once number
    rw [Ledger.outcomes, List.length_map, ← List.countP_eq_length_filter]
    rw [Ledger.numbers, List.count, List.countP_map] at counted
    exact counted
  cases listed : ledger.outcomes number with
  | nil => exact .inl rfl
  | cons outcome rest =>
      rw [listed, List.length_cons] at short
      have none_left : rest = [] := List.eq_nil_of_length_eq_zero (by omega)
      have member : outcome ∈ ledger.outcomes number := by
        rw [listed]
        exact List.mem_cons_self
      rw [none_left]
      exact .inr ⟨outcome, rfl, mem_outcomes.mp member⟩

end Run

end Completions
