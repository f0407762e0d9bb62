import Mathlib.Data.List.Basic
import Mathlib.Data.List.Perm.Basic

/-!
# Folds seen through one field

A fold over items of several kinds, of which one kind alone changes a field of
the state. The field is then a fold over the items of that kind, so it does not
depend on where the other items stand. With one such item at most it does not
depend on the order at all.
-/

namespace FieldFold

set_option autoImplicit false

universe u v w

variable {Item : Type u} {State : Type v} {Field : Type w} {step : State → Item → State}
  {field : State → Field} {relevant : Item → Bool} {change : Field → Item → Field}

/-- Only relevant items change the field, and by the item and the field alone. -/
def Governed (step : State → Item → State) (field : State → Field)
    (relevant : Item → Bool) (change : Field → Item → Field) : Prop :=
  ∀ state item, field (step state item) =
    if relevant item then change (field state) item else field state

theorem field_foldl (governed : Governed step field relevant change) (items : List Item)
    (state : State) :
    field (items.foldl step state) = (items.filter relevant).foldl change (field state) := by
  induction items generalizing state with
  | nil => rfl
  | cons item rest ih =>
      rw [List.foldl_cons, ih, governed state item]
      by_cases counts : relevant item = true
      · rw [if_pos counts, List.filter_cons_of_pos counts, List.foldl_cons]
      · rw [if_neg counts, List.filter_cons_of_neg counts]

theorem filter_of_at_most_one {items : List Item}
    (single : (items.filter relevant).length ≤ 1) :
    items.filter relevant = (items.find? relevant).toList := by
  rw [← List.head?_filter]
  cases found : items.filter relevant with
  | nil => rfl
  | cons item rest =>
      rw [found, List.length_cons] at single
      have nothing : rest = [] := List.length_eq_zero_iff.mp (by omega)
      rw [nothing]
      rfl

/-- The item decides, or the field is as before. -/
theorem field_of_at_most_one (governed : Governed step field relevant change)
    {items : List Item} (single : (items.filter relevant).length ≤ 1) (state : State) :
    field (items.foldl step state) =
      (items.find? relevant).elim (field state) (change (field state)) := by
  rw [field_foldl governed, filter_of_at_most_one single]
  cases items.find? relevant <;> rfl

theorem field_of_reordered (governed : Governed step field relevant change)
    {items others : List Item} (single : (items.filter relevant).length ≤ 1)
    (reordered : items.Perm others) (state : State) :
    field (others.foldl step state) = field (items.foldl step state) := by
  have selected : (items.filter relevant).Perm (others.filter relevant) :=
    reordered.filter relevant
  have same : items.filter relevant = others.filter relevant := by
    rw [filter_of_at_most_one single] at selected ⊢
    cases found : items.find? relevant with
    | none =>
        rw [found] at selected
        exact selected.nil_eq
    | some item =>
        rw [found] at selected
        exact (List.perm_singleton.mp selected.symm).symm
  rw [field_foldl governed, field_foldl governed, same]

end FieldFold
