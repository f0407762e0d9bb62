import IMqtt.DispatchQueue.Transitions
import IMqtt.Library.MutexDiscipline

/-!
# Who holds `messageDispatcherMutex`

The constructor runs its initialisers before anybody can call the queue, and
the recorded owner of the mutex is always the one lock object in whose scope
a thread stands.
-/

namespace IMqtt.DispatchQueue.Locking

open IMqtt.DispatchQueue.Model IMqtt.DispatchQueue.Transitions
open LabelledSteps

set_option autoImplicit false

universe u v

variable {Producer : Type u} {Message : Type v}

def WorkerLog.locked : WorkerLog → Bool
  | .starting => false
  | .number | .exiting => true

def WorkerPc.holdsLock : WorkerPc Message → Bool
  | .log site | .inLog site => WorkerLog.locked site
  | .loopTest | .waitTest | .block | .ifTest | .pop | .unlock _ | .unlockExit =>
      true
  | _ => false

def CallPc.holdsLock : CallPc Message → Bool
  | .push _ | .unlock => true
  | _ => false

def DestructorPc.holdsLock : DestructorPc → Bool
  | .count | .log _ | .inLog _ | .unlock => true
  | _ => false

/-- The lock object `owner` is in scope, with its mutex locked. -/
def Holds (worker : WorkerPc Message)
    (calls : Caller Producer → CallPc Message) (destructor : DestructorPc) :
    Owner Producer → Prop
  | .worker => WorkerPc.holdsLock worker = true
  | .caller caller => CallPc.holdsLock (calls caller) = true
  | .destructor => DestructorPc.holdsLock destructor = true

def Exclusive (s : State Producer Message) : Prop :=
  MutexDiscipline.Exclusive s.messageDispatcherMutex
    (Holds s.worker s.calls s.destructor)

section Moves

variable {owner : Option (Owner Producer)} {worker worker' : WorkerPc Message}
  {calls : Caller Producer → CallPc Message}
  {destructor destructor' : DestructorPc}

theorem worker_move
    (held : MutexDiscipline.Exclusive owner (Holds worker calls destructor))
    (same : WorkerPc.holdsLock worker' = WorkerPc.holdsLock worker) :
    MutexDiscipline.Exclusive owner (Holds worker' calls destructor) := by
  refine MutexDiscipline.exclusive_frame held fun party => ?_
  cases party <;> simp [Holds, same]

theorem worker_acquire
    (held : MutexDiscipline.Exclusive owner (Holds worker calls destructor))
    (free : owner = none) (enters : WorkerPc.holdsLock worker' = true) :
    MutexDiscipline.Exclusive (some .worker) (Holds worker' calls destructor) := by
  refine MutexDiscipline.exclusive_acquire held free fun party => ?_
  cases party <;> simp [Holds, enters]

theorem worker_release
    (held : MutexDiscipline.Exclusive owner (Holds worker calls destructor))
    (was : WorkerPc.holdsLock worker = true)
    (leaves : WorkerPc.holdsLock worker' = false) :
    MutexDiscipline.Exclusive none (Holds worker' calls destructor) := by
  refine MutexDiscipline.exclusive_release held .worker was
    fun party => ?_
  cases party <;> simp [Holds, leaves]

theorem destructor_move
    (held : MutexDiscipline.Exclusive owner (Holds worker calls destructor))
    (same : DestructorPc.holdsLock destructor' =
      DestructorPc.holdsLock destructor) :
    MutexDiscipline.Exclusive owner (Holds worker calls destructor') := by
  refine MutexDiscipline.exclusive_frame held fun party => ?_
  cases party <;> simp [Holds, same]

theorem destructor_acquire
    (held : MutexDiscipline.Exclusive owner (Holds worker calls destructor))
    (free : owner = none)
    (enters : DestructorPc.holdsLock destructor' = true) :
    MutexDiscipline.Exclusive (some .destructor)
      (Holds worker calls destructor') := by
  refine MutexDiscipline.exclusive_acquire held free fun party => ?_
  cases party <;> simp [Holds, enters]

theorem destructor_release
    (held : MutexDiscipline.Exclusive owner (Holds worker calls destructor))
    (was : DestructorPc.holdsLock destructor = true)
    (leaves : DestructorPc.holdsLock destructor' = false) :
    MutexDiscipline.Exclusive none (Holds worker calls destructor') := by
  refine MutexDiscipline.exclusive_release held .destructor was
    fun party => ?_
  cases party <;> simp [Holds, leaves]

variable [DecidableEq Producer] {caller : Caller Producer} {pc : CallPc Message}

theorem call_move
    (held : MutexDiscipline.Exclusive owner (Holds worker calls destructor))
    (same : CallPc.holdsLock pc = CallPc.holdsLock (calls caller)) :
    MutexDiscipline.Exclusive owner
      (Holds worker (Function.update calls caller pc) destructor) := by
  refine MutexDiscipline.exclusive_frame held fun party => ?_
  rcases party with _ | other | _
  · rfl
  · by_cases own : other = caller
    · subst own
      simp [Holds, same]
    · simp [Holds, own]
  · rfl

theorem call_acquire
    (held : MutexDiscipline.Exclusive owner (Holds worker calls destructor))
    (free : owner = none) (enters : CallPc.holdsLock pc = true) :
    MutexDiscipline.Exclusive (some (.caller caller))
      (Holds worker (Function.update calls caller pc) destructor) := by
  refine MutexDiscipline.exclusive_acquire held free fun party => ?_
  rcases party with _ | other | _
  · simp [Holds]
  · by_cases own : other = caller
    · subst own
      simp [Holds, enters]
    · simp [Holds, own]
  · simp [Holds]

theorem call_release
    (held : MutexDiscipline.Exclusive owner (Holds worker calls destructor))
    (was : CallPc.holdsLock (calls caller) = true)
    (leaves : CallPc.holdsLock pc = false) :
    MutexDiscipline.Exclusive none
      (Holds worker (Function.update calls caller pc) destructor) := by
  refine MutexDiscipline.exclusive_release held (.caller caller) was
    fun party => ?_
  rcases party with _ | other | _
  · simp [Holds]
  · by_cases own : other = caller
    · subst own
      simp [Holds, leaves]
    · simp [Holds, own]
  · simp [Holds]

end Moves

/-- While initialisers remain, the object is still private to its constructor
and the worker, and the worker exists only after its own initialiser. -/
structure Constructing (s : State Producer Message) : Prop where
  order : s.uninitialised <:+ declarationOrder
  threadPending : .messageDispatcherThread ∈ s.uninitialised →
    s.worker = .notStarted
  callersWait : s.uninitialised ≠ [] → ∀ caller, s.calls caller = .idle
  destructorWaits : s.uninitialised ≠ [] → s.destructor = .notStarted
  nothingPushed : s.uninitialised ≠ [] → s.pushed = []

theorem initial_constructing (logCb priorExit : Bool) :
    Constructing (initial logCb priorExit : State Producer Message) where
  order := List.suffix_rfl
  threadPending := fun _ => rfl
  callersWait := fun _ _ => rfl
  destructorWaits := fun _ => rfl
  nothingPushed := fun _ => rfl

/-- The worker's initialiser comes after the mutex and the queue. -/
theorem thread_after_mutex {rest : List Member}
    (order : .messageDispatcherMutex :: rest <:+ declarationOrder) :
    .messageDispatcherThread ∈ rest := by
  simp only [declarationOrder, List.suffix_cons_iff, List.suffix_nil] at order
  simp_all

/-- No member is initialised twice. -/
theorem initialised_once {member : Member} {rest : List Member}
    (order : member :: rest <:+ declarationOrder) : member ∉ rest := by
  have distinct : declarationOrder.Nodup := by decide
  exact (List.nodup_cons.mp (distinct.sublist order.sublist)).1

theorem may_enter_constructed {s : State Producer Message}
    {caller : Caller Producer} (may : mayEnter s caller = true) :
    s.uninitialised = [] := by
  simp only [mayEnter, Bool.and_eq_true, List.isEmpty_iff] at may
  exact may.1

theorem constructing_initialiser {s : State Producer Message}
    {member : Member} {rest : List Member} (before : Constructing s)
    (next : s.uninitialised = member :: rest) :
    Constructing (initialise member { s with uninitialised := rest }) := by
  have order : member :: rest <:+ declarationOrder := next ▸ before.order
  have remaining : s.uninitialised ≠ [] := by simp [next]
  have callers := before.callersWait remaining
  have destructor := before.destructorWaits remaining
  have pushed := before.nothingPushed remaining
  have later : rest <:+ declarationOrder := (List.suffix_cons _ _).trans order
  have pending : .messageDispatcherThread ∈ rest →
      (initialise member { s with uninitialised := rest }).worker =
        .notStarted := by
    intro found
    have waiting := before.threadPending (by simp [next, found])
    cases member
    case messageDispatcherThread => exact absurd found (initialised_once order)
    all_goals exact waiting
  cases member <;>
    exact ⟨later, pending, fun _ => callers, fun _ => destructor,
      fun _ => pushed⟩

theorem initial_exclusive (logCb priorExit : Bool) :
    Exclusive (initial logCb priorExit : State Producer Message) := by
  intro party
  cases party <;> simp [initial, Holds, WorkerPc.holdsLock, CallPc.holdsLock,
    DestructorPc.holdsLock]

variable [DecidableEq Producer]

theorem constructing_step {s t : State Producer Message}
    {action : Choice Producer Message} (before : Constructing s)
    (transition : Transition s action t) : Constructing t := by
  have busy : ∀ {caller pc}, s.calls caller = pc → pc ≠ .idle →
      s.uninitialised = [] := by
    intro caller pc here working
    by_contra remaining
    exact working (here.symm.trans (before.callersWait remaining caller))
  have order := before.order
  have threadPending := before.threadPending
  have callersWait := before.callersWait
  have destructorWaits := before.destructorWaits
  have nothingPushed := before.nothingPushed
  cases transition with
  | construct next => exact constructing_initialiser before next
  | enter here may =>
      have constructed := may_enter_constructed may
      constructor <;> simp [constructed, List.nil_suffix]
  | exitSeen here | exitUnseen here | callLock here | push here
  | callUnlock here | notifyOneWakes here | notifyOneLost here =>
      have constructed := busy here (by simp)
      constructor <;> simp [constructed, List.nil_suffix]
  | _ => constructor <;> simp_all

theorem reached_constructing {s : State Producer Message}
    (reached : Reached (system Producer Message) s) : Constructing s := by
  refine invariant_of_step Constructing ?_ ?_ reached
  · rintro _ ⟨logCb, priorExit, rfl⟩
    exact initial_constructing logCb priorExit
  · intro s action t _ before _ taken
    exact constructing_step before (step_transition taken)

omit [DecidableEq Producer] in
theorem exclusive_initialiser {s : State Producer Message}
    {member : Member} {rest : List Member} (building : Constructing s)
    (before : Exclusive s) (next : s.uninitialised = member :: rest) :
    Exclusive (initialise member { s with uninitialised := rest }) := by
  have order : member :: rest <:+ declarationOrder := next ▸ building.order
  cases member
  case messageDispatcherMutex =>
    have waiting := building.threadPending
      (by simp [next, thread_after_mutex order])
    have remaining : s.uninitialised ≠ [] := by simp [next]
    intro party
    cases party <;>
      simp [initialise, Holds, waiting, building.callersWait remaining,
        building.destructorWaits remaining, WorkerPc.holdsLock,
        CallPc.holdsLock, DestructorPc.holdsLock]
  case messageDispatcherThread =>
    have waiting := building.threadPending (by simp [next])
    exact worker_move before (by rw [waiting]; rfl)
  all_goals exact before

theorem exclusive_step {s t : State Producer Message}
    {action : Choice Producer Message} (building : Constructing s)
    (before : Exclusive s) (transition : Transition s action t) :
    Exclusive t := by
  cases transition with
  | construct next => exact exclusive_initialiser building before next
  | workerLog here => exact worker_move before (by rw [here]; rfl)
  | @workerLogged site here =>
      exact worker_move before (by rw [here]; cases site <;> rfl)
  | workerLock _ free | relockWait _ free | relock _ free =>
      exact worker_acquire before free rfl
  | loopLeave here | loopBody here | waitReady here | waitFalse here
  | ifTake here | ifSkip here | pop here | handOver here
  | handlerReturned here | spurious here =>
      exact worker_move before (by rw [here]; rfl)
  | block here | unlock here | unlockExit here =>
      exact worker_release before (by rw [here]; rfl) rfl
  | enter here | exitSeen here | exitUnseen here | push here =>
      exact call_move before (by rw [here]; rfl)
  | callLock _ free => exact call_acquire before free rfl
  | callUnlock here => exact call_release before (by rw [here]; rfl) rfl
  | notifyOneWakes here waiting =>
      exact call_move (worker_move before (by rw [waiting]; rfl))
        (by rw [here]; rfl)
  | notifyOneLost here => exact call_move before (by rw [here]; rfl)
  | notifyAllWakes here waiting =>
      exact destructor_move (worker_move before (by rw [waiting]; rfl))
        (by rw [here]; rfl)
  | destructorStart here | storeExit here | notifyAllLost here | join here
  | countNone here | countLost here | lostLog here | lostLogged here =>
      exact destructor_move before (by rw [here]; rfl)
  | destructorLock _ free => exact destructor_acquire before free rfl
  | destructorUnlock here =>
      exact destructor_release before (by rw [here]; rfl) rfl

theorem reached_exclusive {s : State Producer Message}
    (reached : Reached (system Producer Message) s) : Exclusive s := by
  refine invariant_of_step Exclusive ?_ ?_ reached
  · rintro _ ⟨logCb, priorExit, rfl⟩
    exact initial_exclusive logCb priorExit
  · intro s action t reached before _ taken
    exact exclusive_step (reached_constructing reached) before
      (step_transition taken)

end IMqtt.DispatchQueue.Locking
