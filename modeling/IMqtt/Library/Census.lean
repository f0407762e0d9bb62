import Mathlib.Data.Finset.Card

/-!
# Counting the parties in some phases

The parties of a finite set that are flagged. When one party moves, the set
stays the same, gains that party or loses it.
-/

namespace Census

set_option autoImplicit false

universe u

variable {Party : Type u} [DecidableEq Party]

def census (members : Finset Party) (flag : Party → Bool) : Finset Party :=
  members.filter fun party => flag party = true

variable {members : Finset Party} {flag after : Party → Bool} {party : Party}

omit [DecidableEq Party] in
theorem mem_census : party ∈ census members flag ↔ party ∈ members ∧ flag party = true :=
  Finset.mem_filter

omit [DecidableEq Party] in
theorem census_frame (same : ∀ other, after other = flag other) :
    census members after = census members flag := by
  have equal : after = flag := funext same
  rw [equal]

theorem census_enter (member : party ∈ members) (enters : after party = true)
    (same : ∀ other, other ≠ party → after other = flag other) :
    census members after = insert party (census members flag) := by
  ext other
  rw [Finset.mem_insert, mem_census, mem_census]
  by_cases own : other = party
  · subst own
    exact iff_of_true ⟨member, enters⟩ (.inl rfl)
  · rw [same other own]
    exact (or_iff_right own).symm

theorem census_leave (leaves : after party = false)
    (same : ∀ other, other ≠ party → after other = flag other) :
    census members after = (census members flag).erase party := by
  ext other
  rw [Finset.mem_erase, mem_census, mem_census]
  by_cases own : other = party
  · subst own
    apply iff_of_false
    · intro stays
      rw [leaves] at stays
      exact Bool.false_ne_true stays.2
    · intro stays
      exact stays.1 rfl
  · rw [same other own]
    exact (and_iff_right own).symm

theorem census_join (unflagged : flag party = false) :
    census (insert party members) flag = census members flag := by
  ext other
  rw [mem_census, mem_census, Finset.mem_insert]
  constructor
  · intro listed
    rcases listed.1 with same | member
    · rw [same, unflagged] at listed
      exact absurd listed.2 Bool.false_ne_true
    · exact ⟨member, listed.2⟩
  · intro listed
    exact ⟨.inr listed.1, listed.2⟩

end Census
