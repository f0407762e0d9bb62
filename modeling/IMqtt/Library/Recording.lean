import IMqtt.Library.LabelledSteps

/-!
# Runs with a record

A record is written along a run and read by no step, so the runs with it are
the runs of the system. What a state does not say about its past is stated of
the record instead.
-/

namespace LabelledSteps

set_option autoImplicit false

universe u v w

variable {State : Type u} {Label : Type v} {Record : Type w}

/-- `note` writes the record from the state a step starts in. -/
def recording (system : System State Label) (blank : Record)
    (note : State → Label → Record → Record) : System (State × Record) Label where
  initial pair := system.initial pair.1 ∧ pair.2 = blank
  step pair label :=
    (system.step pair.1 label).map fun after => (after, note pair.1 label pair.2)

variable {system : System State Label} {blank : Record}
  {note : State → Label → Record → Record} {allowed : State → Label → Prop}

theorem recording_some {pair after : State × Record} {label : Label}
    (taken : (recording system blank note).step pair label = some after) :
    system.step pair.1 label = some after.1 ∧ after.2 = note pair.1 label pair.2 := by
  rcases Option.map_eq_some_iff.mp taken with ⟨next, ran, same⟩
  rw [← same]
  exact ⟨ran, rfl⟩

theorem reached_under_of_recording {pair : State × Record}
    (reached : ReachedUnder (recording system blank note)
      (fun pair label => allowed pair.1 label) pair) :
    ReachedUnder system allowed pair.1 := by
  induction reached with
  | start initial => exact .start initial.1
  | next _ permitted taken ih => exact .next ih permitted (recording_some taken).1

theorem reached_of_recording {pair : State × Record}
    (reached : Reached (recording system blank note) pair) : Reached system pair.1 :=
  @reached_under_of_recording _ _ _ _ _ _ (fun _ _ => True) _ reached

/-- Every run has its record. -/
theorem recording_of_reached {state : State} (reached : ReachedUnder system allowed state) :
    ∃ record, ReachedUnder (recording system blank note)
      (fun pair label => allowed pair.1 label) (state, record) := by
  induction reached with
  | start initial => exact ⟨blank, .start ⟨initial, rfl⟩⟩
  | @next state after label _ permitted taken ih =>
      rcases ih with ⟨record, recorded⟩
      refine ⟨note state label record, .next recorded permitted ?_⟩
      exact Option.map_eq_some_iff.mpr ⟨after, taken, rfl⟩

end LabelledSteps
