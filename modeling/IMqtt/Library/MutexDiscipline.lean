import Mathlib.Init

/-!
# Lock owners and critical sections

A mutex records who owns it; a party is inside when it stands at a statement
that its lock covers. The discipline is that the two say the same. Each
operation on the mutex keeps it, provided the parties' positions change as
the operation says.
-/

namespace MutexDiscipline

set_option autoImplicit false

universe u

variable {Party : Type u}

def Exclusive (owner : Option Party) (inside : Party → Prop) : Prop :=
  ∀ party, owner = some party ↔ inside party

variable {owner : Option Party} {inside after : Party → Prop}

theorem inside_unique (held : Exclusive owner inside) (one other : Party)
    (first : inside one) (second : inside other) : one = other := by
  have owns := (held one).mpr first
  rw [(held other).mpr second] at owns
  exact (Option.some.inj owns).symm

theorem free_iff (held : Exclusive owner inside) :
    owner = none ↔ ∀ party, ¬ inside party := by
  constructor
  · intro free party within
    rw [(held party).mpr within] at free
    exact Option.some_ne_none _ free
  · intro outside
    cases found : owner with
    | none => rfl
    | some party => exact absurd ((held party).mp found) (outside party)

theorem exclusive_frame (held : Exclusive owner inside)
    (same : ∀ party, after party ↔ inside party) : Exclusive owner after := by
  intro party
  rw [same party]
  exact held party

theorem exclusive_acquire (held : Exclusive owner inside) (free : owner = none)
    {party : Party}
    (enters : ∀ other, after other ↔ other = party ∨ inside other) :
    Exclusive (some party) after := by
  intro other
  have outside := (free_iff held).mp free other
  rw [enters other, Option.some.injEq]
  constructor
  · intro same
    exact .inl same.symm
  · rintro (same | within)
    · exact same.symm
    · exact absurd within outside

theorem exclusive_release (held : Exclusive owner inside) (party : Party)
    (was : inside party)
    (leaves : ∀ other, after other ↔ inside other ∧ other ≠ party) :
    Exclusive none after := by
  intro other
  rw [leaves other]
  constructor
  · intro impossible
    exact absurd impossible.symm (Option.some_ne_none _)
  · rintro ⟨within, different⟩
    exact absurd (inside_unique held other party within was) different

end MutexDiscipline
