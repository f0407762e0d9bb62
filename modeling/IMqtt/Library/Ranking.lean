import IMqtt.Library.LabelledSteps
import Mathlib.Algebra.BigOperators.Group.Finset.Basic
import Mathlib.Algebra.Ring.Nat

/-!
# Ranked systems

A rank that every step lowers, but for what its label pays in, bounds the length
of a run. Steps whose labels pay nothing cannot go on for ever, so what holds
wherever they stop is inevitable, whatever the scheduler picks.
-/

namespace LabelledSteps

set_option autoImplicit false

universe u v

variable {State : Type u} {Label : Type v} {system : System State Label}
  {allowed : State → Label → Prop}

structure Ranking (system : System State Label) where
  rank : State → Nat
  paid : Label → Nat
  lowers : ∀ state label after, Reached system state →
    system.step state label = some after → rank after + 1 ≤ rank state + paid label

/-- Every step of a run is paid for by the rank it started with or by a label. -/
theorem run_length_le (ranking : Ranking system) (labels : List Label) {state after : State}
    (reached : Reached system state) (ran : execute system state labels = some after) :
    labels.length + ranking.rank after ≤
      ranking.rank state + (labels.map ranking.paid).sum := by
  induction labels generalizing state with
  | nil =>
      rw [execute, Option.some.injEq] at ran
      subst ran
      simp
  | cons label rest ih =>
      rw [execute_cons, Option.bind_eq_some_iff] at ran
      rcases ran with ⟨middle, taken, remaining⟩
      have lower := ranking.lowers state label middle reached taken
      have later := ih (.next reached trivial taken) remaining
      simp only [List.length_cons, List.map_cons, List.sum_cons]
      omega

/-- The allowed steps reach the goal, whichever of them are taken. -/
inductive Inevitable (system : System State Label) (allowed : State → Label → Prop)
    (Goal : State → Prop) : State → Prop
  | here {state : State} (holds : Goal state) : Inevitable system allowed Goal state
  | ahead {state : State}
      (moves : ∃ label after, allowed state label ∧ system.step state label = some after)
      (every : ∀ label after, allowed state label →
        system.step state label = some after → Inevitable system allowed Goal after) :
      Inevitable system allowed Goal state

theorem inevitable_of_ranking (ranking : Ranking system) (Invariant Goal : State → Prop)
    (reaches : ∀ state, Invariant state → Reached system state)
    (preserved : ∀ state label after, Invariant state → allowed state label →
      system.step state label = some after → Invariant after)
    (unpaid : ∀ state label, allowed state label → ranking.paid label = 0)
    (moves : ∀ state, Invariant state → ¬ Goal state →
      ∃ label after, allowed state label ∧ system.step state label = some after)
    {state : State} (holds : Invariant state) : Inevitable system allowed Goal state := by
  induction bound : ranking.rank state using Nat.strongRecOn generalizing state with
  | ind rank ih =>
      by_cases done : Goal state
      · exact .here done
      · refine .ahead (moves state holds done) ?_
        intro label after permitted taken
        have lower := ranking.lowers state label after (reaches state holds) taken
        have free := unpaid state label permitted
        have smaller : ranking.rank after < rank := by omega
        exact ih _ smaller (preserved state label after holds permitted taken) rfl

/-- A schedule that keeps away from the goal for as long as it can go on. -/
theorem not_inevitable_of_trap (Trapped Goal : State → Prop)
    (apart : ∀ state, Trapped state → ¬ Goal state)
    (stays : ∀ state, Trapped state →
      (∃ label after, allowed state label ∧ system.step state label = some after) →
      ∃ label after, allowed state label ∧ system.step state label = some after ∧ Trapped after)
    {state : State} (trapped : Trapped state) : ¬ Inevitable system allowed Goal state := by
  intro inevitable
  induction inevitable with
  | here holds => exact apart _ trapped holds
  | ahead moves every ih =>
      obtain ⟨label, after, permitted, taken, still⟩ := stays _ trapped moves
      exact ih label after permitted taken still

section Parties

variable {Party : Type u} {Position : Type v} [DecidableEq Party]

/-- A party that moves changes its own share of the rank. -/
theorem sum_rank_update (rank : Position → Nat) (positions : Party → Position)
    {party : Party} {parties : Finset Party} (member : party ∈ parties) (moved : Position) :
    (parties.sum fun other => rank (Function.update positions party moved other)) +
        rank (positions party) =
      (parties.sum fun other => rank (positions other)) + rank moved := by
  have others : ((parties.erase party).sum fun other =>
      rank (Function.update positions party moved other)) =
        (parties.erase party).sum fun other => rank (positions other) := by
    apply Finset.sum_congr rfl
    intro other distinct
    rw [Function.update_of_ne (Finset.ne_of_mem_erase distinct)]
  have before := Finset.add_sum_erase parties (fun other => rank (positions other)) member
  have after := Finset.add_sum_erase parties
    (fun other => rank (Function.update positions party moved other)) member
  simp only [Function.update_self] at after
  omega

/-- A party that had no share comes in with the one of its new position. -/
theorem sum_rank_join (rank : Position → Nat) {positions : Party → Position} {party : Party}
    (nothing : rank (positions party) = 0) (parties : Finset Party) (moved : Position) :
    ((insert party parties).sum fun other => rank (Function.update positions party moved other)) =
      (parties.sum fun other => rank (positions other)) + rank moved := by
  have joined := sum_rank_update rank positions (Finset.mem_insert_self party parties) moved
  have unchanged : ((insert party parties).sum fun other => rank (positions other)) =
      parties.sum fun other => rank (positions other) :=
    Finset.sum_insert_of_eq_zero_if_notMem fun _ => nothing
  rw [nothing, Nat.add_zero, unchanged] at joined
  exact joined

end Parties

end LabelledSteps
