import IMqtt.Mosquitto.Construct
import IMqtt.Paho.Construct

/-!
# What a failed construction leaves behind

A constructor that throws never runs its destructor, so what it did to the
static counter and to the library stays done. The Mosquitto constructor adds
to the counter before anything can throw; the Paho constructor has a handle to
lose once it has made one.
-/

namespace IMqtt.FailedConstruction

open IMqtt.Client Throwing

set_option autoImplicit false

/-- The Mosquitto constructor keeps the library state exactly when nothing in
it throws, the Paho constructor exactly when nothing throws behind the creation
of the handle. The once flag of the Paho library is used up by the first
construction, so a failed one keeps it only when an earlier one used it. -/
theorem library_restored_iff {Handle : Type} [DecidableEq Handle] :
    (∀ withTls params (results : Mosquitto.Construct.Results Handle) before,
      (∀ handle, results.new = some handle → handle ∉ before.live) →
        (Mosquitto.Construct.ClientOrRestored before
            (outcome (Mosquitto.Construct.construct withTls params results) before) ↔
          Mosquitto.Construct.LibraryReady results before ∧
            Mosquitto.Construct.Configures withTls params results ∧
              results.new ≠ none)) ∧
      ∀ params (results : Paho.Construct.Results Handle) before,
        results.pClient ∉ before.live →
          (Paho.Construct.ClientOrHandlesRestored before
              (outcome (Paho.Construct.construct params results) before) ↔
            (Paho.Construct.Creates params results →
              Paho.Construct.SetsCallbacks results)) ∧
          (Paho.Construct.ClientOrRestored before
              (outcome (Paho.Construct.construct params results) before) ↔
            (Paho.Construct.Creates params results →
                Paho.Construct.SetsCallbacks results) ∧
              (Paho.Construct.Creates params results ∨ before.initFlag = true)) := by
  constructor
  · intro withTls params results before fresh
    exact Mosquitto.Construct.client_or_restored_iff withTls params results before fresh
  · intro params results before fresh
    exact ⟨Paho.Construct.client_or_handles_restored_iff params results before fresh,
      Paho.Construct.client_or_restored_iff params results before fresh⟩

/-- A process in which no client was made yet. -/
def freshMosquitto : Mosquitto.Construct.World Nat where
  counter := 0
  initialised := false
  live := ∅

def freshPaho : Paho.Construct.World Nat where
  initFlag := false
  live := ∅

theorem first_construction_restores_iff :
    (Mosquitto.Construct.ClientOrRestored freshMosquitto
        (outcome (Mosquitto.Construct.construct true {} { new := some 7 })
          freshMosquitto) ↔
      Mosquitto.Construct.LibraryReady { new := some 7 } freshMosquitto ∧
        Mosquitto.Construct.Configures true {} { new := some 7 } ∧ some 7 ≠ none) ∧
    (Paho.Construct.ClientOrHandlesRestored freshPaho
        (outcome (Paho.Construct.construct {} { pClient := 7, setConnected := -1 })
          freshPaho) ↔
      (Paho.Construct.Creates {} { pClient := 7, setConnected := -1 } →
        Paho.Construct.SetsCallbacks { pClient := 7, setConnected := -1 })) :=
  ⟨library_restored_iff.1 true {} { new := some 7 } freshMosquitto
      (fun handle _ => Finset.notMem_empty handle),
    (library_restored_iff.2 {} { pClient := 7, setConnected := -1 } freshPaho
      (Finset.notMem_empty 7)).1⟩

/-- The library cannot be initialised, the constructor throws and the counter
stays at one: the next client, for which everything succeeds, is built without
the library ever being initialised. -/
theorem failed_lib_init_leaves_counter :
    let failed := outcome
      (Mosquitto.Construct.construct false {} { new := some 7, libInit := 1 })
      freshMosquitto
    let next := outcome
      (Mosquitto.Construct.construct false {} { new := some 7 }) failed.2
    ¬ Mosquitto.Construct.ClientOrRestored freshMosquitto failed ∧
      failed.2.counter = 1 ∧ failed.2.initialised = false ∧
      (∃ client, next.1 = .ok client) ∧ next.2.initialised = false ∧
      next.2.calls.count .libInit = 1 := by
  intro failed next
  refine ⟨?_, by decide, by decide, ⟨_, rfl⟩, by decide, by decide⟩
  intro restored
  have same : failed.2.counter = freshMosquitto.counter := congrArg Prod.fst restored
  exact absurd same (by decide)

end IMqtt.FailedConstruction
