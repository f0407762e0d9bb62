import Mathlib.Tactic.Common

/-!
# Maps built from a list of entries in which the first entry of a key wins

`insertIfNew` leaves a key that is present as it is. Inserting a whole list
this way binds every key to the value of its first occurrence, and listing a
map and inserting the list into an empty map gives the map back.
-/

namespace FirstWins

set_option autoImplicit false

universe u v

variable {Key : Type u} {Value : Type v} {cmp : Key → Key → Ordering}
  [Std.TransCmp cmp] [Std.LawfulEqCmp cmp]

def insertAll (map : Std.ExtTreeMap Key Value cmp) (entries : List (Key × Value)) :
    Std.ExtTreeMap Key Value cmp :=
  entries.foldl (fun map entry => map.insertIfNew entry.1 entry.2) map

/-- The value of the first entry with the key. -/
def firstValue (cmp : Key → Key → Ordering) (key : Key) (entries : List (Key × Value)) :
    Option Value :=
  (entries.find? fun entry => cmp entry.1 key == .eq).map (·.2)

omit [Std.TransCmp cmp] in
theorem first_value_eq_find [BEq Key] [LawfulBEq Key] (key : Key)
    (entries : List (Key × Value)) :
    firstValue cmp key entries = (entries.find? fun entry => entry.1 == key).map (·.2) := by
  have matches_key : (fun entry : Key × Value => cmp entry.1 key == .eq) =
      fun entry => entry.1 == key := by
    funext entry
    rw [Bool.eq_iff_iff]
    simp
  rw [firstValue, matches_key]

omit [Std.LawfulEqCmp cmp] in
theorem get_insert_all (map : Std.ExtTreeMap Key Value cmp)
    (entries : List (Key × Value)) (key : Key) :
    (insertAll map entries)[key]? = map[key]?.or (firstValue cmp key entries) := by
  induction entries generalizing map with
  | nil => simp [insertAll, firstValue]
  | cons entry rest ih =>
      have unfolded : insertAll map (entry :: rest) =
          insertAll (map.insertIfNew entry.1 entry.2) rest := rfl
      rw [unfolded, ih, Std.ExtTreeMap.getElem?_insertIfNew]
      by_cases same : cmp entry.1 key = .eq
      · by_cases bound : entry.1 ∈ map
        · have present : key ∈ map := (Std.ExtTreeMap.mem_congr same).mp bound
          have value := Std.ExtTreeMap.getElem?_eq_some_getElem present
          rw [if_neg (fun both => both.2 bound), value]
          rfl
        · have absent : ¬ key ∈ map := fun present =>
            bound ((Std.ExtTreeMap.mem_congr same).mpr present)
          rw [if_pos ⟨same, bound⟩, Std.ExtTreeMap.getElem?_eq_none absent]
          simp [firstValue, same]
      · rw [if_neg (fun both => same both.1)]
        simp [firstValue, same]

theorem first_value_to_list (map : Std.ExtTreeMap Key Value cmp) (key : Key) :
    firstValue cmp key map.toList = map[key]? := by
  rw [firstValue]
  cases found : map.toList.find? fun entry => cmp entry.1 key == .eq with
  | none =>
      cases bound : map[key]? with
      | none => rfl
      | some value =>
          have member := Std.ExtTreeMap.mem_toList_iff_getElem?_eq_some.mpr bound
          have differs := List.find?_eq_none.mp found (key, value) member
          simp [Std.ReflCmp.compare_self] at differs
  | some entry =>
      have hit := List.find?_some found
      have same : entry.1 = key := by simpa using hit
      have member := List.mem_of_find?_eq_some found
      have bound := Std.ExtTreeMap.mem_toList_iff_getElem?_eq_some.mp member
      rw [← same, bound]
      rfl

theorem insert_all_to_list (map : Std.ExtTreeMap Key Value cmp) :
    insertAll ∅ map.toList = map := by
  apply Std.ExtTreeMap.ext_getElem?
  intro key
  rw [get_insert_all, first_value_to_list, Std.ExtTreeMap.getElem?_empty]
  rfl

end FirstWins
