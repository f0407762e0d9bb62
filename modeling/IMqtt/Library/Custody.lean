import Mathlib.Data.List.Basic
import Mathlib.Tactic.Common

/-!
# Resources that are used and given back

The trace of a call that owes the return of some resources. It is in order when
each of them is released once and nothing is used behind a release.
-/

namespace Custody

set_option autoImplicit false

universe u v

variable {Use : Type u} {Resource : Type v}

inductive Event (Use : Type u) (Resource : Type v)
  | used (use : Use)
  | released (resource : Resource)
  deriving DecidableEq, Repr

def uses (trace : List (Event Use Resource)) : List Use :=
  trace.filterMap fun event =>
    match event with
    | .used use => some use
    | .released _ => none

def releases (trace : List (Event Use Resource)) : List Resource :=
  trace.filterMap fun event =>
    match event with
    | .used _ => none
    | .released resource => some resource

structure ReleasedOnce (resources : List Resource) (trace : List (Event Use Resource)) :
    Prop where
  each : (releases trace).Perm resources
  behind : ∀ before resource after, trace = before ++ .released resource :: after →
    uses after = []

theorem uses_append (before after : List (Event Use Resource)) :
    uses (before ++ after) = uses before ++ uses after := List.filterMap_append

theorem releases_append (before after : List (Event Use Resource)) :
    releases (before ++ after) = releases before ++ releases after := List.filterMap_append

theorem uses_of_used (given : List Use) :
    uses (given.map .used : List (Event Use Resource)) = given := by
  induction given with
  | nil => rfl
  | cons use rest ih =>
      have head : uses ((use :: rest).map .used : List (Event Use Resource)) =
          use :: uses (rest.map .used : List (Event Use Resource)) := rfl
      rw [head, ih]

theorem uses_of_released (resources : List Resource) :
    uses (resources.map .released : List (Event Use Resource)) = [] := by
  induction resources with
  | nil => rfl
  | cons resource rest ih => exact ih

theorem releases_of_used (given : List Use) :
    releases (given.map .used : List (Event Use Resource)) = [] := by
  induction given with
  | nil => rfl
  | cons use rest ih => exact ih

theorem releases_of_released (resources : List Resource) :
    releases (resources.map .released : List (Event Use Resource)) = resources := by
  induction resources with
  | nil => rfl
  | cons resource rest ih =>
      have head : releases ((resource :: rest).map .released : List (Event Use Resource)) =
          resource :: releases (rest.map .released : List (Event Use Resource)) := rfl
      rw [head, ih]

theorem no_use_behind_release (given : List Use) (resources : List Resource)
    {before after : List (Event Use Resource)} {resource : Resource}
    (same : given.map .used ++ resources.map .released =
      before ++ .released resource :: after) : uses after = [] := by
  induction given generalizing before with
  | nil =>
      have nothing := @uses_of_released Use _ resources
      rw [List.map_nil, List.nil_append] at same
      rw [same, uses_append] at nothing
      exact (List.append_eq_nil_iff.mp nothing).2
  | cons use rest ih =>
      cases before with
      | nil => cases same
      | cons first others =>
          have tails := (List.cons.inj same).2
          exact ih tails

/-- First every use, then every release. -/
theorem released_once_behind_uses (given : List Use) (resources : List Resource) :
    ReleasedOnce resources (given.map .used ++ resources.map .released) := by
  constructor
  · rw [releases_append, releases_of_used, releases_of_released]
    exact List.Perm.refl _
  · intro before resource after same
    exact no_use_behind_release given resources same

end Custody
