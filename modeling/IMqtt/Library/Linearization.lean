import Mathlib.Data.List.Basic
import Mathlib.Tactic.Common

/-!
# Operations that overlap

An operation takes effect at one point between its invocation and its response,
or it is refused and returns without effect. Then the order of the effects
contradicts no order that the callers could see: an operation that had returned
before another one was invoked comes first.
-/

namespace Linearization

set_option autoImplicit false

universe u

variable {Operation : Type u}

inductive Event (Operation : Type u)
  | invoked (operation : Operation)
  | effected (operation : Operation)
  | responded (operation : Operation)
  | refused (operation : Operation)
  deriving DecidableEq, Repr

def Event.operation : Event Operation → Operation
  | .invoked operation | .effected operation | .responded operation | .refused operation =>
      operation

/-- The operation has returned, with its effect or without. -/
def Returned (trace : List (Event Operation)) (operation : Operation) : Prop :=
  .responded operation ∈ trace ∨ .refused operation ∈ trace

/-- Every operation is invoked once and then takes effect once and returns, or is
refused. -/
inductive WellFormed : List (Event Operation) → Prop
  | nil : WellFormed []
  | invoke {trace : List (Event Operation)} {operation : Operation} (before : WellFormed trace)
      (fresh : ∀ event ∈ trace, event.operation ≠ operation) :
      WellFormed (trace ++ [.invoked operation])
  | effect {trace : List (Event Operation)} {operation : Operation} (before : WellFormed trace)
      (pending : .invoked operation ∈ trace) (first : .effected operation ∉ trace)
      (running : ¬ Returned trace operation) : WellFormed (trace ++ [.effected operation])
  | respond {trace : List (Event Operation)} {operation : Operation} (before : WellFormed trace)
      (took : .effected operation ∈ trace) (running : ¬ Returned trace operation) :
      WellFormed (trace ++ [.responded operation])
  | refuse {trace : List (Event Operation)} {operation : Operation} (before : WellFormed trace)
      (pending : .invoked operation ∈ trace) (idle : .effected operation ∉ trace)
      (running : ¬ Returned trace operation) : WellFormed (trace ++ [.refused operation])

def Event.effect? : Event Operation → Option Operation
  | .effected operation => some operation
  | _ => none

def Event.refusal? : Event Operation → Option Operation
  | .refused operation => some operation
  | _ => none

/-- The operations in the order of their effects. -/
def effects (trace : List (Event Operation)) : List Operation :=
  trace.filterMap Event.effect?

def refusals (trace : List (Event Operation)) : List Operation :=
  trace.filterMap Event.refusal?

/-- One operation had returned when the other one was invoked. -/
def Precedes (trace : List (Event Operation)) (earlier later : Operation) : Prop :=
  ∃ before after, trace = before ++ after ∧
    Returned before earlier ∧ .invoked later ∈ after

@[simp]
theorem effects_invoked (trace : List (Event Operation)) (operation : Operation) :
    effects (trace ++ [.invoked operation]) = effects trace := by
  simp [effects, Event.effect?]

@[simp]
theorem effects_effected (trace : List (Event Operation)) (operation : Operation) :
    effects (trace ++ [.effected operation]) = effects trace ++ [operation] := by
  simp [effects, Event.effect?]

@[simp]
theorem effects_responded (trace : List (Event Operation)) (operation : Operation) :
    effects (trace ++ [.responded operation]) = effects trace := by
  simp [effects, Event.effect?]

@[simp]
theorem effects_refused (trace : List (Event Operation)) (operation : Operation) :
    effects (trace ++ [.refused operation]) = effects trace := by
  simp [effects, Event.effect?]

@[simp]
theorem refusals_invoked (trace : List (Event Operation)) (operation : Operation) :
    refusals (trace ++ [.invoked operation]) = refusals trace := by
  simp [refusals, Event.refusal?]

@[simp]
theorem refusals_effected (trace : List (Event Operation)) (operation : Operation) :
    refusals (trace ++ [.effected operation]) = refusals trace := by
  simp [refusals, Event.refusal?]

@[simp]
theorem refusals_responded (trace : List (Event Operation)) (operation : Operation) :
    refusals (trace ++ [.responded operation]) = refusals trace := by
  simp [refusals, Event.refusal?]

@[simp]
theorem refusals_refused (trace : List (Event Operation)) (operation : Operation) :
    refusals (trace ++ [.refused operation]) = refusals trace ++ [operation] := by
  simp [refusals, Event.refusal?]

theorem returned_append {trace : List (Event Operation)} {operation : Operation}
    (rest : List (Event Operation)) (returned : Returned trace operation) :
    Returned (trace ++ rest) operation :=
  returned.imp (List.mem_append_left _) (List.mem_append_left _)

theorem mem_effects {trace : List (Event Operation)} {operation : Operation} :
    operation ∈ effects trace ↔ .effected operation ∈ trace := by
  simp only [effects, List.mem_filterMap]
  constructor
  · rintro ⟨event, member, taken⟩
    cases event with
    | effected other =>
        rw [Event.effect?, Option.some.injEq] at taken
        exact taken ▸ member
    | _ => cases taken
  · intro member
    exact ⟨.effected operation, member, rfl⟩

theorem mem_refusals {trace : List (Event Operation)} {operation : Operation} :
    operation ∈ refusals trace ↔ .refused operation ∈ trace := by
  simp only [refusals, List.mem_filterMap]
  constructor
  · rintro ⟨event, member, taken⟩
    cases event with
    | refused other =>
        rw [Event.refusal?, Option.some.injEq] at taken
        exact taken ▸ member
    | _ => cases taken
  · intro member
    exact ⟨.refused operation, member, rfl⟩

theorem precedes_last {trace : List (Event Operation)} {event : Event Operation}
    {earlier later : Operation} (precedes : Precedes (trace ++ [event]) earlier later) :
    Precedes trace earlier later ∨ (event = .invoked later ∧ Returned trace earlier) := by
  obtain ⟨before, after, split, returned, invoked⟩ := precedes
  rcases List.eq_nil_or_concat after with nothing | ⟨front, last, joined⟩
  · rw [nothing] at invoked
    cases invoked
  · rw [List.concat_eq_append] at joined
    rw [joined, ← List.append_assoc] at split
    obtain ⟨same, ended⟩ := List.append_inj' split rfl
    rw [List.cons.injEq] at ended
    rw [joined, List.mem_append, List.mem_singleton] at invoked
    obtain inside | own := invoked
    · exact .inl ⟨before, front, same, returned, inside⟩
    · right
      refine ⟨ended.1.trans own.symm, ?_⟩
      rw [same]
      exact returned_append front returned

theorem precedes_returned {trace : List (Event Operation)} {earlier later : Operation}
    (precedes : Precedes trace earlier later) : Returned trace earlier := by
  obtain ⟨before, after, split, returned, -⟩ := precedes
  rw [split]
  exact returned_append after returned

/-- An operation that returns has taken effect, or it was refused and never does. -/
theorem responded_took {trace : List (Event Operation)} (wellFormed : WellFormed trace)
    {operation : Operation} (responded : .responded operation ∈ trace) :
    operation ∈ effects trace := by
  induction wellFormed with
  | nil => cases responded
  | invoke _ _ ih =>
      rw [effects_invoked]
      exact ih (by simpa using responded)
  | effect _ _ _ _ ih =>
      rw [effects_effected]
      exact List.mem_append_left _ (ih (by simpa using responded))
  | respond _ took _ ih =>
      rw [effects_responded]
      simp only [List.mem_append, List.mem_singleton, Event.responded.injEq] at responded
      obtain inside | last := responded
      · exact ih inside
      · rw [last]
        exact mem_effects.mpr took
  | refuse _ _ _ _ ih =>
      rw [effects_refused]
      exact ih (by simpa using responded)

theorem refused_idle {trace : List (Event Operation)} (wellFormed : WellFormed trace)
    {operation : Operation} (refused : .refused operation ∈ trace) :
    operation ∉ effects trace := by
  induction wellFormed with
  | nil => cases refused
  | invoke _ _ ih =>
      rw [effects_invoked]
      exact ih (by simpa using refused)
  | @effect trace other _ _ _ running ih =>
      have inside : .refused operation ∈ trace := by simpa using refused
      rw [effects_effected, List.mem_append, List.mem_singleton]
      rintro (took | same)
      · exact ih inside took
      · exact running (.inr (same ▸ inside))
  | respond _ _ _ ih =>
      rw [effects_responded]
      exact ih (by simpa using refused)
  | refuse _ _ idle _ ih =>
      rw [effects_refused]
      simp only [List.mem_append, List.mem_singleton, Event.refused.injEq] at refused
      obtain inside | last := refused
      · exact ih inside
      · rw [last]
        exact fun took => idle (mem_effects.mp took)

theorem effects_nodup {trace : List (Event Operation)} (wellFormed : WellFormed trace) :
    (effects trace).Nodup := by
  induction wellFormed with
  | nil => exact List.nodup_nil
  | invoke _ _ ih =>
      rw [effects_invoked]
      exact ih
  | respond _ _ _ ih =>
      rw [effects_responded]
      exact ih
  | refuse _ _ _ _ ih =>
      rw [effects_refused]
      exact ih
  | @effect trace operation _ _ first _ ih =>
      have apart : operation ∉ effects trace := fun member => first (mem_effects.mp member)
      rw [effects_effected]
      exact List.nodup_append.mpr ⟨ih, by simp, fun other member same own => by
        rw [List.mem_singleton] at own
        rw [own]
        exact fun equal => apart (equal ▸ member)⟩

/-- The effects follow each other as the operations do. -/
theorem effects_extend_precedence {trace : List (Event Operation)}
    (wellFormed : WellFormed trace) {earlier later : Operation}
    (precedes : Precedes trace earlier later) (first : earlier ∈ effects trace)
    (second : later ∈ effects trace) : [earlier, later].Sublist (effects trace) := by
  induction wellFormed with
  | nil => cases first
  | @invoke trace operation _ fresh ih =>
      rw [effects_invoked] at first second ⊢
      obtain before | ⟨invoked, -⟩ := precedes_last precedes
      · exact ih before first second
      · rw [Event.invoked.injEq] at invoked
        exact absurd invoked.symm (fresh _ (mem_effects.mp second))
  | @effect trace operation _ _ _ running ih =>
      have before : Precedes trace earlier later :=
        (precedes_last precedes).resolve_right fun last => by cases last.1
      have returned := precedes_returned before
      have other : earlier ≠ operation := fun same => running (same ▸ returned)
      rw [effects_effected] at first second ⊢
      have took : earlier ∈ effects trace := by
        simpa [other] using first
      rw [List.mem_append, List.mem_singleton] at second
      obtain inside | last := second
      · exact (ih before took inside).trans (List.sublist_append_left _ _)
      · rw [last]
        exact (List.singleton_sublist.mpr took).append (List.Sublist.refl [operation])
  | @respond trace operation _ _ _ ih =>
      have before : Precedes trace earlier later :=
        (precedes_last precedes).resolve_right fun last => by cases last.1
      rw [effects_responded] at first second ⊢
      exact ih before first second
  | @refuse trace operation _ _ _ _ ih =>
      have before : Precedes trace earlier later :=
        (precedes_last precedes).resolve_right fun last => by cases last.1
      rw [effects_refused] at first second ⊢
      exact ih before first second

/-- What comes first of two is in every initial part that the second one is in. -/
theorem pair_in_prefix {items front : List Operation} (distinct : items.Nodup)
    (begins : front <+: items) {earlier later : Operation}
    (pair : [earlier, later].Sublist items) (member : later ∈ front) :
    [earlier, later].Sublist front := by
  obtain ⟨rest, rfl⟩ := begins
  have apart : later ∉ rest := fun behind =>
    (List.nodup_append.mp distinct).2.2 later member later behind rfl
  obtain ⟨before, after, split, first, second⟩ := List.sublist_append_iff.mp pair
  rcases List.eq_nil_or_concat after with nothing | ⟨others, last, joined⟩
  · rw [split, nothing, List.append_nil]
    exact first
  · rw [joined, List.concat_eq_append, ← List.append_assoc] at split
    have last_two : [earlier] ++ [later] = (before ++ others) ++ [last] := split
    have ended := (List.append_inj' last_two rfl).2
    rw [List.cons.injEq] at ended
    rw [joined, List.concat_eq_append] at second
    exact absurd (second.subset (by simp [ended.1])) apart

end Linearization
