import IMqtt.DispatchQueue.Locking

/-!
# Who writes `messageDispatcherExit`

Its initialiser writes `false`, the destructor `true`. The class declares
`messageDispatcherThread` before `messageDispatcherExit`, so the worker can
test the flag while the storage still holds what the memory held before.
-/

namespace IMqtt.DispatchQueue.ExitFlag

open IMqtt.DispatchQueue.Model IMqtt.DispatchQueue.Transitions
open IMqtt.DispatchQueue.Locking LabelledSteps

set_option autoImplicit false

universe u v

variable {Producer : Type u} {Message : Type v}

/-- The destructor is past `messageDispatcherExit = true`. -/
def stored : DestructorPc → Bool
  | .notStarted | .storeExit => false
  | _ => true

/-- The worker is past its `while` loop. -/
def leftLoop : WorkerPc Message → Bool
  | .log .exiting | .inLog .exiting | .unlockExit | .finished => true
  | _ => false

structure FlagWrites (s : State Producer Message) : Prop where
  ofStored : stored s.destructor = true → s.messageDispatcherExit = true
  ofSet : s.messageDispatcherExit = true →
    stored s.destructor = true ∨ .messageDispatcherExit ∈ s.uninitialised

theorem flag_writes_initialiser {s : State Producer Message}
    {member : Member} {rest : List Member} (building : Constructing s)
    (before : FlagWrites s) (next : s.uninitialised = member :: rest) :
    FlagWrites (initialise member { s with uninitialised := rest }) := by
  have waiting := building.destructorWaits (by simp [next])
  have ofSet := before.ofSet
  cases member <;> constructor <;> simp_all [initialise, stored]

variable [DecidableEq Producer]

theorem flag_writes_step {s t : State Producer Message}
    {action : Choice Producer Message} (building : Constructing s)
    (before : FlagWrites s) (transition : Transition s action t) :
    FlagWrites t := by
  have ofStored := before.ofStored
  have ofSet := before.ofSet
  cases transition with
  | construct next => exact flag_writes_initialiser building before next
  | storeExit here => exact ⟨fun _ => rfl, fun _ => .inl rfl⟩
  | destructorStart here | notifyAllWakes here | notifyAllLost here
  | join here | destructorLock here | countNone here | countLost here
  | lostLog here | lostLogged here | destructorUnlock here =>
      constructor <;> simp_all [stored]
  | _ => exact ⟨ofStored, ofSet⟩

theorem reached_flag_writes {s : State Producer Message}
    (reached : Reached (system Producer Message) s) : FlagWrites s := by
  refine invariant_of_step FlagWrites ?_ ?_ reached
  · rintro _ ⟨logCb, priorExit, rfl⟩
    exact ⟨fun done => by simp [initial, stored] at done,
      fun _ => .inr (by simp [initial, declarationOrder])⟩
  · intro s action t reached before _ taken
    exact flag_writes_step (reached_constructing reached) before
      (step_transition taken)

/-- The worker does not test a flag that is still to be initialised and whose
storage happens to read `true`. -/
def TestsSettledFlag (s : State Producer Message)
    (action : Choice Producer Message) : Prop :=
  action = .worker → s.worker = .loopTest →
    .messageDispatcherExit ∈ s.uninitialised → s.messageDispatcherExit = false

instance [DecidableEq Message]
    (s : State Producer Message) (action : Choice Producer Message) :
    Decidable (TestsSettledFlag s action) :=
  inferInstanceAs (Decidable (_ → _ → _ → _))

def LivesUntilDestruction (s : State Producer Message) : Prop :=
  leftLoop s.worker = true → stored s.destructor = true

theorem lives_until_destruction_step {s t : State Producer Message}
    {action : Choice Producer Message} (flag : FlagWrites s)
    (before : LivesUntilDestruction s) (allowed : TestsSettledFlag s action)
    (transition : Transition s action t) : LivesUntilDestruction t := by
  cases transition with
  | @construct member rest next =>
      cases member
      case messageDispatcherThread =>
        intro left
        simp [initialise, leftLoop] at left
      all_goals exact before
  | loopLeave here exit =>
      intro _
      obtain done | pending := flag.ofSet exit
      · exact done
      · have initialised := allowed rfl here pending
        rw [exit] at initialised
        cases initialised
  | @workerLog site here =>
      have same : leftLoop (.inLog site : WorkerPc Message) =
          leftLoop (.log site : WorkerPc Message) := by cases site <;> rfl
      exact fun left => before (by rw [here, ← same]; exact left)
  | @workerLogged site here =>
      have same : leftLoop (site.next : WorkerPc Message) =
          leftLoop (.inLog site : WorkerPc Message) := by cases site <;> rfl
      exact fun left => before (by rw [here, ← same]; exact left)
  | unlockExit here => exact fun _ => before (by rw [here]; rfl)
  | workerLock here | loopBody here | waitReady here | waitFalse here
  | block here | relockWait here | ifTake here | ifSkip here | pop here
  | unlock here | handOver here | handlerReturned here | relock here
  | spurious here | notifyOneWakes _ here | notifyAllWakes _ here =>
      intro left
      simp [leftLoop] at left
  | destructorStart here | storeExit here | notifyAllLost here | join here
  | destructorLock here | countNone here | countLost here | lostLog here
  | lostLogged here | destructorUnlock here =>
      intro left
      have done := before left
      rw [here] at done
      simp_all [stored]
  | _ => exact before

/-- Testing the uninitialised flag ends the loop of a queue whose destructor
cannot have begun. -/
theorem early_test_ends_worker {s t : State Producer Message}
    {action : Choice Producer Message}
    (reached : Reached (system Producer Message) s)
    (taken : step s action = some t) (early : ¬ TestsSettledFlag s action) :
    leftLoop t.worker = true ∧ stored t.destructor = false := by
  simp only [TestsSettledFlag, Classical.not_imp, Bool.not_eq_false] at early
  obtain ⟨rfl, here, pending, exit⟩ := early
  have building := reached_constructing reached
  have waiting := building.destructorWaits (List.ne_nil_of_mem pending)
  have next : t = { s with worker := .log .exiting } := by
    simpa [step, workerStep, here, exit] using taken.symm
  rw [next]
  exact ⟨rfl, by rw [waiting]; rfl⟩

/-- In a run that never tests the flag before its initialiser unless the
storage reads `false`, the worker outlives the queue; a step that does so
breaks this at once. -/
theorem worker_lives_until_destruction :
    (∀ s : State Producer Message,
      ReachedUnder (system Producer Message) TestsSettledFlag s →
        leftLoop s.worker = true → stored s.destructor = true) ∧
    ∀ (s t : State Producer Message) (action : Choice Producer Message),
      Reached (system Producer Message) s → step s action = some t →
        ¬ TestsSettledFlag s action →
        leftLoop t.worker = true ∧ stored t.destructor = false := by
  constructor
  · intro s reached
    refine invariant_of_step LivesUntilDestruction ?_ ?_ reached
    · rintro _ ⟨logCb, priorExit, rfl⟩ left
      simp [initial, leftLoop] at left
    · intro s action t reached before allowed taken
      exact lives_until_destruction_step
        (reached_flag_writes (reached_of_reached_under reached)) before
        allowed (step_transition taken)
  · intro s t action reached taken early
    exact early_test_ends_worker reached taken early

def destroyedSchedule : List (Choice Nat Nat) :=
  List.replicate 7 .construct ++ List.replicate 3 .worker ++
    List.replicate 2 .destructor ++ [.worker]

theorem destroyed_worker_lived_until_destruction :
    ∃ s : State Nat Nat,
      execute (system Nat Nat) (initial true false) destroyedSchedule = some s ∧
      leftLoop s.worker = true ∧ stored s.destructor = true :=
  ⟨_, rfl, rfl, worker_lives_until_destruction.1 _
    (reached_under_of_execute destroyedSchedule (.start ⟨true, false, rfl⟩)
      (by decide) rfl) rfl⟩

/-- The memory held `true`: the worker ends before the constructor returns,
and a message pushed afterwards stays in the queue. -/
def earlyTestSchedule : List (Choice Nat Nat) :=
  List.replicate 6 .construct ++ List.replicate 4 .worker ++
    .construct :: List.replicate 3 .worker ++
    .enter (.producer 0) 5 :: List.replicate 5 (.call (.producer 0))

theorem worker_may_end_during_construction :
    ∃ s : State Nat Nat,
      execute (system Nat Nat) (initial true true) earlyTestSchedule = some s ∧
      s.uninitialised = [] ∧ leftLoop s.worker = true ∧
      stored s.destructor = false ∧ s.messageDispatcherQueue = [5] :=
  ⟨_, rfl, rfl, rfl, rfl, rfl⟩

end IMqtt.DispatchQueue.ExitFlag
