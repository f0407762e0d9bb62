import IMqtt.DispatchQueue.Shutdown
import IMqtt.DispatchQueue.UserCode
import IMqtt.DispatchQueue.Wakeup

/-!
# Where the threads come to rest

With the mutex free, every thread but a blocked worker and the destructor's
`join` can execute its next statement. Who holds the mutex can go on as well,
unless it waits for the mutex itself from inside the log callback.
-/

namespace IMqtt.DispatchQueue.Progress

open IMqtt.DispatchQueue.Model IMqtt.DispatchQueue.Transitions
open IMqtt.DispatchQueue.Locking IMqtt.DispatchQueue.ExitFlag IMqtt.DispatchQueue.Wakeup
open IMqtt.DispatchQueue.Shutdown IMqtt.DispatchQueue.UserCode
open LabelledSteps

set_option autoImplicit false

universe u v

variable {Producer : Type u} {Message : Type v}

/-- A statement of a thread that is there already. -/
def internal : Choice Producer Message → Bool
  | .enter _ _ | .spuriousWakeup => false
  | _ => true

/-- The thread of the worker has been started. -/
def WorkerStarted (s : State Producer Message) : Prop :=
  s.worker = .notStarted → .messageDispatcherThread ∈ s.uninitialised

/-- The destructor's own calls come when the flag is set. -/
def DestructorRefused (s : State Producer Message) : Prop :=
  s.calls .destructor = .idle ∨ ∃ msg, s.calls .destructor = .exitTest msg

variable [DecidableEq Producer]

theorem worker_started_step {s t : State Producer Message} {action : Choice Producer Message}
    (before : WorkerStarted s) (transition : Transition s action t) : WorkerStarted t := by
  cases transition with
  | @construct member rest next =>
      intro here
      cases member
      case messageDispatcherThread => cases here
      all_goals
        have pending := before here
        have later : .messageDispatcherThread ∈ rest := by simpa [next] using pending
        exact later
  | @workerLogged site here =>
      intro started
      cases site <;> cases started
  | workerLog here | workerLock here | loopLeave here | loopBody here | waitReady here
  | waitFalse here | block here | relockWait here | ifTake here | ifSkip here | pop here
  | unlock here | handOver here | handlerReturned here | relock here | unlockExit here
  | spurious here | notifyOneWakes _ here | notifyAllWakes _ here =>
      intro started
      cases started
  | _ => exact before

theorem reached_worker_started {s : State Producer Message}
    (reached : Reached (system Producer Message) s) : WorkerStarted s := by
  refine invariant_of_step WorkerStarted ?_ ?_ reached
  · rintro _ ⟨logCb, priorExit, rfl⟩ _
    simp [initial, declarationOrder]
  · intro s action t _ before _ taken
    exact worker_started_step before (step_transition taken)

theorem destructor_refused_move {s t : State Producer Message} {caller : Caller Producer}
    {pc : CallPc Message} (before : DestructorRefused s)
    (own : caller = .destructor → pc = .idle ∨ ∃ msg, pc = .exitTest msg)
    (calls : t.calls = Function.update s.calls caller pc) : DestructorRefused t := by
  unfold DestructorRefused
  rw [calls]
  by_cases same : .destructor = caller
  · rw [← same, Function.update_self]
    exact own same.symm
  · rw [Function.update_of_ne same]
    exact before

theorem destructor_refused_step {s t : State Producer Message}
    {action : Choice Producer Message} (flag : FlagWrites s) (nested : CallsNested s)
    (before : DestructorRefused s) (transition : Transition s action t) :
    DestructorRefused t := by
  -- What a call of the destructor has come to is past its test of the flag.
  have refused : ∀ {caller : Caller Producer} {pc : CallPc Message}, s.calls caller = pc →
      pc ≠ .idle → (∀ msg, pc ≠ .exitTest msg) → caller ≠ .destructor := by
    intro caller pc here busy past same
    rw [same] at here
    obtain idle | ⟨msg, testing⟩ := before
    · exact busy (here.symm.trans idle)
    · exact past msg (here.symm.trans testing)
  cases transition with
  | @construct member rest next => cases member <;> exact before
  | enter here => exact destructor_refused_move before (fun _ => .inr ⟨_, rfl⟩) rfl
  | exitSeen here | notifyOneWakes here | notifyOneLost here =>
      exact destructor_refused_move before (fun _ => .inl rfl) rfl
  | @exitUnseen caller msg here exit =>
      refine destructor_refused_move before (fun same => ?_) rfl
      have inside := nested.destructor (by rw [← same, here]; simp)
      have set : s.messageDispatcherExit = true := by
        apply flag.ofStored
        cases position : s.destructor with
        | inLog num => rfl
        | _ =>
            rw [position] at inside
            cases inside
      rw [exit] at set
      cases set
  | callLock here | push here | callUnlock here =>
      exact destructor_refused_move before
        (fun same => absurd same (refused here (by simp) (by simp))) rfl
  | _ => exact before

theorem reached_destructor_refused {s : State Producer Message}
    (reached : Reached (system Producer Message) s) : DestructorRefused s := by
  refine invariant_of_step DestructorRefused ?_ ?_ reached
  · rintro _ ⟨logCb, priorExit, rfl⟩
    exact .inl rfl
  · intro s action t reached before _ taken
    exact destructor_refused_step (reached_flag_writes reached) (reached_calls_nested reached)
      before (step_transition taken)

section Rests

variable {s : State Producer Message}

theorem worker_rests (nested : CallsNested s) (free : s.messageDispatcherMutex = none)
    (returned : s.calls .worker = .idle) (rests : step s .worker = none) :
    s.worker = .notStarted ∨ s.worker = .blocked ∨ s.worker = .finished := by
  simp only [step, workerStep] at rests
  cases here : s.worker with
  | notStarted => exact .inl rfl
  | blocked => exact .inr (.inl rfl)
  | finished => exact .inr (.inr rfl)
  | pop =>
      cases queue : s.messageDispatcherQueue with
      | nil => exact absurd queue (nested.filled here)
      | cons msg rest => simp [here, queue] at rests
  | _ => simp [here, returned, State.acquire, free] at rests

theorem call_rests {caller : Caller Producer} (rests : step s (.call caller) = none) :
    s.calls caller = .idle ∨
      ∃ msg, s.calls caller = .lock msg ∧ s.messageDispatcherMutex ≠ none := by
  simp only [step, callStep] at rests
  cases here : s.calls caller with
  | idle => exact .inl rfl
  | lock msg =>
      refine .inr ⟨msg, rfl, fun free => ?_⟩
      simp [here, State.acquire, free] at rests
  | exitTest msg => cases exit : s.messageDispatcherExit <;> simp [here, exit] at rests
  | _ => simp [here] at rests

theorem construct_rests (rests : step s .construct = none) : s.uninitialised = [] := by
  simp only [step, constructorStep] at rests
  cases remaining : s.uninitialised with
  | nil => rfl
  | cons member rest => simp [remaining] at rests

/-- The worker holds the mutex and cannot go on. -/
theorem worker_holder_rests (nested : CallsNested s)
    (holds : WorkerPc.holdsLock s.worker = true) (rests : step s .worker = none)
    (own : step s (.call .worker) = none) :
    ∃ site msg, s.worker = .inLog site ∧ s.calls .worker = .lock msg := by
  simp only [step, workerStep] at rests
  cases here : s.worker with
  | inLog site =>
      obtain idle | ⟨msg, waiting, -⟩ := call_rests own
      · simp [here, idle] at rests
      · exact ⟨site, msg, rfl, waiting⟩
  | pop =>
      cases queue : s.messageDispatcherQueue with
      | nil => exact absurd queue (nested.filled here)
      | cons msg rest => simp [here, queue] at rests
  | notStarted | lock | blocked | relockWait | relock | finished | call | inHandler =>
      rw [here] at holds
      cases holds
  | _ => simp [here] at rests

theorem destructor_rests (constructed : s.uninitialised = [])
    (returned : s.calls .destructor = .idle) (rests : step s .destructor = none) :
    s.destructor = .finished ∨ (s.destructor = .join ∧ s.worker ≠ .finished) ∨
      (s.destructor = .lock ∧ s.messageDispatcherMutex ≠ none) := by
  simp only [step, destructorStep] at rests
  cases here : s.destructor with
  | finished => exact .inl rfl
  | join =>
      refine .inr (.inl ⟨rfl, fun ended => ?_⟩)
      simp [here, ended] at rests
  | lock =>
      refine .inr (.inr ⟨rfl, fun free => ?_⟩)
      simp [here, State.acquire, free] at rests
  | _ => simp [here, returned, constructed] at rests

end Rests

/-- No thread can execute its next statement. -/
def Stopped (s : State Producer Message) : Prop :=
  ∀ action, internal action = true → step s action = none

omit [DecidableEq Producer] in
theorem constructed_of_destructor {s : State Producer Message} (building : Constructing s)
    (begun : s.destructor ≠ .notStarted) : s.uninitialised = [] := by
  by_contra remaining
  exact begun (building.destructorWaits remaining)

theorem step_of_not_stopped {s : State Producer Message} (moving : ¬ Stopped s) :
    ∃ action after, internal action = true ∧ step s action = some after := by
  simp only [Stopped, not_forall] at moving
  obtain ⟨action, inside, moves⟩ := moving
  obtain ⟨after, taken⟩ := Option.ne_none_iff_exists'.mp moves
  exact ⟨action, after, inside, taken⟩

/-- The destructor waits for a worker that was not notified, and no call is left
that might do it. -/
structure Forgotten (s : State Producer Message) : Prop where
  missed : MissedWakeup s
  idle : ∀ caller, s.calls caller = .idle

/-- The worker waits for itself, every call for the worker's lock, and the
destructor for the worker. -/
structure Wedged (s : State Producer Message) : Prop where
  stuck : SelfDeadlock s
  joining : s.destructor = .join
  waiting : ∀ caller, s.calls caller = .idle ∨ ∃ msg, s.calls caller = .lock msg

section Stopped

variable {s : State Producer Message}

theorem stopped_destructor_idle (refused : DestructorRefused s) (stopped : Stopped s) :
    s.calls .destructor = .idle := by
  obtain idle | ⟨msg, testing⟩ := refused
  · exact idle
  · obtain idle | ⟨other, waiting, -⟩ := call_rests (stopped (.call .destructor) rfl)
    · exact idle
    · rw [testing] at waiting
      cases waiting

theorem stopped_free (reached : Reached (system Producer Message) s) (stopped : Stopped s)
    (free : s.messageDispatcherMutex = none) : Final s ∨ Forgotten s := by
  have constructed := construct_rests (stopped .construct rfl)
  have idle : ∀ caller, s.calls caller = .idle := by
    intro caller
    obtain idle | ⟨msg, -, held⟩ := call_rests (stopped (.call caller) rfl)
    · exact idle
    · exact absurd free held
  obtain ended | ⟨joining, running⟩ | ⟨-, held⟩ :=
    destructor_rests constructed (idle .destructor) (stopped .destructor rfl)
  · exact .inl ⟨ended, idle⟩
  · right
    obtain unstarted | asleep | ended :=
      worker_rests (reached_calls_nested reached) free (idle .worker) (stopped .worker rfl)
    · have pending := reached_worker_started reached unstarted
      rw [constructed] at pending
      cases pending
    · have exit := (reached_flag_writes reached).ofStored (by rw [joining]; rfl)
      refine ⟨⟨joining, exit, asleep, fun caller => ?_⟩, idle⟩
      rw [idle caller]
      rfl
    · exact absurd ended running
  · exact absurd free held

theorem stopped_held (reached : Reached (system Producer Message) s) (stopped : Stopped s)
    {owner : Owner Producer} (held : s.messageDispatcherMutex = some owner) : Wedged s := by
  have holds := (reached_exclusive reached owner).mp held
  have constructed := construct_rests (stopped .construct rfl)
  have idle := stopped_destructor_idle (reached_destructor_refused reached) stopped
  have destructor := destructor_rests constructed idle (stopped .destructor rfl)
  cases owner with
  | worker =>
      obtain ⟨site, msg, here, waiting⟩ :=
        worker_holder_rests (reached_calls_nested reached) holds (stopped .worker rfl)
          (stopped (.call .worker) rfl)
      have running : joined s.destructor ≠ true := by
        intro behind
        have ended := reached_worker_joined reached behind
        rw [here] at ended
        cases ended
      refine ⟨⟨site, msg, here, waiting, held⟩, ?_, fun caller => ?_⟩
      · obtain ended | ⟨joining, -⟩ | ⟨locking, -⟩ := destructor
        · exact absurd (by rw [ended]; rfl) running
        · exact joining
        · exact absurd (by rw [locking]; rfl) running
      · obtain idle | ⟨msg, waiting, -⟩ := call_rests (stopped (.call caller) rfl)
        · exact .inl idle
        · exact .inr ⟨msg, waiting⟩
  | caller caller =>
      obtain ⟨after, taken⟩ := call_holder_moves holds
      rw [stopped (.call caller) rfl] at taken
      cases taken
  | destructor =>
      obtain ended | ⟨joining, -⟩ | ⟨locking, -⟩ := destructor
      · simp only [Holds, ended] at holds
        cases holds
      · simp only [Holds, joining] at holds
        cases holds
      · simp only [Holds, locking] at holds
        cases holds

/-- A queue behind its constructor whose threads cannot move. -/
theorem stopped_of_parts (building : Constructing s) (begun : s.destructor ≠ .notStarted)
    (worker : step s .worker = none) (calls : ∀ caller, step s (.call caller) = none)
    (destructor : step s .destructor = none) : Stopped s := by
  intro action inside
  cases action with
  | construct =>
      simp only [step, constructorStep, constructed_of_destructor building begun]
  | worker => exact worker
  | call caller => exact calls caller
  | destructor => exact destructor
  | enter | spuriousWakeup => cases inside

theorem idle_call_stops {caller : Caller Producer} (idle : s.calls caller = .idle) :
    step s (.call caller) = none := by
  simp [step, callStep, idle]

theorem final_stopped (reached : Reached (system Producer Message) s) (final : Final s) :
    Stopped s := by
  have ended := reached_worker_joined reached (by rw [final.1]; rfl)
  apply stopped_of_parts (reached_constructing reached)
  · rw [final.1]
    simp
  · simp [step, workerStep, ended]
  · exact fun caller => idle_call_stops (final.2 caller)
  · simp [step, destructorStep, final.1]

theorem forgotten_stopped (building : Constructing s) (forgotten : Forgotten s) :
    Stopped s := by
  have joining := forgotten.missed.joining
  have asleep := forgotten.missed.asleep
  apply stopped_of_parts building
  · rw [joining]
    simp
  · simp [step, workerStep, asleep]
  · exact fun caller => idle_call_stops (forgotten.idle caller)
  · simp [step, destructorStep, joining, asleep]

theorem wedged_stopped (building : Constructing s) (wedged : Wedged s) : Stopped s := by
  obtain ⟨⟨site, msg, here, calling, held⟩, joining, waiting⟩ := wedged
  apply stopped_of_parts building
  · rw [joining]
    simp
  · simp [step, workerStep, here, calling]
  · intro caller
    obtain idle | ⟨other, locking⟩ := waiting caller
    · exact idle_call_stops idle
    · simp [step, callStep, locking, State.acquire, held]
  · simp [step, destructorStep, joining, here]

end Stopped

theorem stopped_cases {s : State Producer Message}
    (reached : Reached (system Producer Message) s) (stopped : Stopped s) :
    Final s ∨ Forgotten s ∨ Wedged s := by
  cases mutex : s.messageDispatcherMutex with
  | none =>
      obtain final | forgotten := stopped_free reached stopped mutex
      · exact .inl final
      · exact .inr (.inl forgotten)
  | some owner => exact .inr (.inr (stopped_held reached stopped mutex))

/-- The threads come to rest when all of them have finished, when the wake-up of
the destructor was missed, or when the log callback waits for its own thread. In
every other state that a run reaches, some thread can go on. -/
theorem stopped_iff {s : State Producer Message}
    (reached : Reached (system Producer Message) s) :
    Stopped s ↔ Final s ∨ Forgotten s ∨ Wedged s := by
  constructor
  · exact stopped_cases reached
  · rintro (final | forgotten | wedged)
    · exact final_stopped reached final
    · exact forgotten_stopped (reached_constructing reached) forgotten
    · exact wedged_stopped (reached_constructing reached) wedged

/-- The notification falls into the window, and the destructor waits for ever. -/
theorem missed_wakeup_stops :
    ∃ s : State Nat Nat,
      execute (system Nat Nat) (initial true false) notifyInWindowSchedule = some s ∧
      Forgotten s ∧ (Stopped s ↔ Final s ∨ Forgotten s ∨ Wedged s) := by
  refine ⟨_, rfl, ⟨⟨rfl, rfl, rfl, fun _ => rfl⟩, fun _ => rfl⟩, ?_⟩
  apply stopped_iff
  exact reached_of_execute notifyInWindowSchedule (.start ⟨true, false, rfl⟩) rfl

end IMqtt.DispatchQueue.Progress
