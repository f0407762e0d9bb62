import IMqtt.DispatchQueue.Locking

/-!
# User code and `messageDispatcherMutex`

The worker releases the mutex around `msgCb.OnMqttMessage`, but not around its
calls of `log` inside the loop; the destructor logs in the scope of its lock
as well. With a log callback user code runs under the mutex, and a callback
that calls `OnMqttMessage` there waits for itself.
-/

namespace IMqtt.DispatchQueue.UserCode

open IMqtt.DispatchQueue.Model IMqtt.DispatchQueue.Transitions
open IMqtt.DispatchQueue.Locking LabelledSteps

set_option autoImplicit false

universe u v

variable {Producer : Type u} {Message : Type v}

/-- The thread that a lock object lives on. -/
def Owner.thread : Owner Producer → Caller Producer
  | .worker => .worker
  | .caller caller => caller
  | .destructor => .destructor

/-- The thread whose statement a step executes. -/
def Choice.thread : Choice Producer Message → Option (Caller Producer)
  | .worker => some .worker
  | .call caller => some caller
  | .destructor => some .destructor
  | .construct | .spuriousWakeup | .enter _ _ => none

/-- The thread is in a user callback that the queue has called, and not in a
call of `OnMqttMessage` that the callback makes. -/
def RunsUserCode (s : State Producer Message) : Caller Producer → Prop
  | .producer _ => False
  | .worker => s.worker.inCallback s.logCb = true ∧ s.calls .worker = .idle
  | .destructor => s.destructor.inCallback s.logCb = true ∧ s.calls .destructor = .idle

def UserCodeUnlocked (s : State Producer Message) : Prop :=
  ∀ owner, s.messageDispatcherMutex = some owner → ¬ RunsUserCode s (Owner.thread owner)

/-- The worker and the destructor call `OnMqttMessage` from callbacks only, and
the worker pops from a queue that is not empty. -/
structure CallsNested (s : State Producer Message) : Prop where
  worker : s.calls .worker ≠ .idle → s.worker.inCallback s.logCb = true
  destructor : s.calls .destructor ≠ .idle → s.destructor.inCallback s.logCb = true
  filled : s.worker = .pop → s.messageDispatcherQueue ≠ []

section Nested

/-- The worker's initialiser comes after the queue's. -/
theorem thread_after_queue {rest : List Member}
    (order : .messageDispatcherQueue :: rest <:+ declarationOrder) :
    .messageDispatcherThread ∈ rest := by
  simp only [declarationOrder, List.suffix_cons_iff, List.suffix_nil] at order
  simp_all

variable {s t : State Producer Message} {caller : Caller Producer} {pc : CallPc Message}

/-- A thread that is not in a callback makes no call. -/
theorem worker_idle (nested : CallsNested s) (outside : s.worker.inCallback s.logCb = false) :
    s.calls .worker = .idle := by
  by_contra busy
  have inside := nested.worker busy
  rw [outside] at inside
  cases inside

theorem destructor_idle (nested : CallsNested s)
    (outside : s.destructor.inCallback s.logCb = false) : s.calls .destructor = .idle := by
  by_contra busy
  have inside := nested.destructor busy
  rw [outside] at inside
  cases inside

theorem nested_worker (nested : CallsNested s) (idle : s.calls .worker = .idle)
    (calls : t.calls = s.calls) (logCb : t.logCb = s.logCb)
    (destructor : t.destructor = s.destructor)
    (filled : t.worker = .pop → t.messageDispatcherQueue ≠ []) : CallsNested t := by
  constructor
  · intro busy
    rw [calls] at busy
    exact absurd idle busy
  · rw [calls, logCb, destructor]
    exact nested.destructor
  · exact filled

theorem nested_destructor (nested : CallsNested s) (idle : s.calls .destructor = .idle)
    (calls : t.calls = s.calls) (logCb : t.logCb = s.logCb) (worker : t.worker = s.worker)
    (queue : t.messageDispatcherQueue = s.messageDispatcherQueue) : CallsNested t := by
  constructor
  · rw [calls, logCb, worker]
    exact nested.worker
  · intro busy
    rw [calls] at busy
    exact absurd idle busy
  · rw [worker, queue]
    exact nested.filled

variable [DecidableEq Producer]

/-- A step of a call that goes on changes neither thread's callback. -/
theorem nested_call (nested : CallsNested s)
    (may : s.calls caller ≠ .idle ∨ mayEnter s caller = true)
    (calls : t.calls = Function.update s.calls caller pc) (logCb : t.logCb = s.logCb)
    (worker : t.worker = s.worker) (destructor : t.destructor = s.destructor)
    (queue : s.messageDispatcherQueue ≠ [] → t.messageDispatcherQueue ≠ []) :
    CallsNested t := by
  constructor
  · intro busy
    rw [logCb, worker]
    by_cases own : .worker = caller
    · rcases may with calling | enters
      · rw [← own] at calling
        exact nested.worker calling
      · rw [← own] at enters
        simp only [mayEnter, Bool.and_eq_true] at enters
        exact enters.2
    · rw [calls, Function.update_of_ne own] at busy
      exact nested.worker busy
  · intro busy
    rw [logCb, destructor]
    by_cases own : .destructor = caller
    · rcases may with calling | enters
      · rw [← own] at calling
        exact nested.destructor calling
      · rw [← own] at enters
        simp only [mayEnter, Bool.and_eq_true] at enters
        exact enters.2
    · rw [calls, Function.update_of_ne own] at busy
      exact nested.destructor busy
  · intro popping
    rw [worker] at popping
    exact queue (nested.filled popping)

end Nested

variable [DecidableEq Producer]

omit [DecidableEq Producer] in
theorem calls_nested_initialiser {s : State Producer Message} {member : Member}
    {rest : List Member} (building : Constructing s) (nested : CallsNested s)
    (next : s.uninitialised = member :: rest) :
    CallsNested (initialise member { s with uninitialised := rest }) := by
  have idle := building.callersWait (by simp [next])
  have calls : (initialise member { s with uninitialised := rest }).calls = s.calls := by
    cases member <;> rfl
  constructor
  · intro busy
    rw [calls] at busy
    exact absurd (idle .worker) busy
  · intro busy
    rw [calls] at busy
    exact absurd (idle .destructor) busy
  · intro popping
    cases member
    case messageDispatcherQueue =>
      have order : .messageDispatcherQueue :: rest <:+ declarationOrder := next ▸ building.order
      have waiting := building.threadPending (by simp [next, thread_after_queue order])
      have started : s.worker = .pop := popping
      rw [waiting] at started
      cases started
    case messageDispatcherThread => cases popping
    all_goals exact nested.filled popping

theorem calls_nested_step {s t : State Producer Message} {action : Choice Producer Message}
    (building : Constructing s) (nested : CallsNested s) (transition : Transition s action t) :
    CallsNested t := by
  cases transition with
  | construct next => exact calls_nested_initialiser building nested next
  | @workerLogged site here returned =>
      refine nested_worker nested returned rfl rfl rfl ?_
      intro popping
      cases site <;> cases popping
  | handlerReturned here returned =>
      refine nested_worker nested returned rfl rfl rfl ?_
      intro popping
      cases popping
  | ifTake here _ filled =>
      have idle := worker_idle nested (by rw [here]; rfl)
      exact nested_worker nested idle rfl rfl rfl fun _ => filled
  | workerLog here | workerLock here | loopLeave here | loopBody here | waitReady here
  | waitFalse here | block here | relockWait here | ifSkip here | pop here | unlock here
  | handOver here | relock here | unlockExit here | spurious here =>
      have idle := worker_idle nested (by rw [here]; rfl)
      refine nested_worker nested idle rfl rfl rfl ?_
      intro popping
      cases popping
  | enter here may => exact nested_call nested (.inr may) rfl rfl rfl rfl id
  | push here =>
      exact nested_call nested (.inl (by rw [here]; simp)) rfl rfl rfl rfl fun _ => by simp
  | exitSeen here | exitUnseen here | callLock here | callUnlock here | notifyOneLost here =>
      exact nested_call nested (.inl (by rw [here]; simp)) rfl rfl rfl rfl id
  | @notifyOneWakes caller here waiting =>
      have called : CallsNested { s with calls := Function.update s.calls caller .idle } :=
        nested_call nested (.inl (by rw [here]; simp)) rfl rfl rfl rfl id
      have idle := worker_idle called (by rw [waiting]; rfl)
      refine nested_worker called idle rfl rfl rfl ?_
      intro popping
      cases popping
  | notifyAllWakes here waiting =>
      have moved : CallsNested { s with destructor := .join } :=
        nested_destructor nested (destructor_idle nested (by rw [here]; rfl)) rfl rfl rfl rfl
      have idle := worker_idle moved (by rw [waiting]; rfl)
      refine nested_worker moved idle rfl rfl rfl ?_
      intro popping
      cases popping
  | lostLogged here returned => exact nested_destructor nested returned rfl rfl rfl rfl
  | destructorStart here | storeExit here | notifyAllLost here | join here
  | destructorLock here | countNone here | countLost here | lostLog here
  | destructorUnlock here =>
      have idle := destructor_idle nested (by rw [here]; rfl)
      exact nested_destructor nested idle rfl rfl rfl rfl

theorem reached_calls_nested {s : State Producer Message}
    (reached : Reached (system Producer Message) s) : CallsNested s := by
  apply invariant_of_step CallsNested _ _ reached
  · intro state start
    rcases start with ⟨logCb, priorExit, rfl⟩
    constructor
    · exact fun busy => absurd rfl busy
    · exact fun busy => absurd rfl busy
    · intro popping
      cases popping
  · intro s action t reached nested _ taken
    exact calls_nested_step (reached_constructing reached) nested (step_transition taken)

/-- Whoever holds the mutex can execute its next statement. -/
def HolderMoves (s : State Producer Message) : Prop :=
  ∀ owner, s.messageDispatcherMutex = some owner →
    ∃ action after, step s action = some after ∧
      Choice.thread action = some (Owner.thread owner)

theorem worker_holder_moves {s : State Producer Message} (nested : CallsNested s)
    (silent : s.logCb = false) (holds : WorkerPc.holdsLock s.worker = true) :
    ∃ after, step s .worker = some after := by
  rw [← Option.isSome_iff_exists]
  have idle : ∀ site, s.worker = .inLog site → s.calls .worker = .idle := by
    intro site here
    apply worker_idle nested
    rw [here, silent]
    rfl
  simp only [step, workerStep]
  cases here : s.worker with
  | inLog site => simp [idle site here]
  | pop =>
      cases queue : s.messageDispatcherQueue with
      | nil => exact absurd queue (nested.filled here)
      | cons msg rest => rfl
  | log site => rfl
  | loopTest | waitTest | block | ifTest | unlockExit => rfl
  | unlock msg => rfl
  | call msg => rfl
  | notStarted | lock | blocked | relockWait | relock | finished =>
      rw [here] at holds
      cases holds
  | inHandler msg =>
      rw [here] at holds
      cases holds

theorem call_holder_moves {s : State Producer Message} {caller : Caller Producer}
    (holds : CallPc.holdsLock (s.calls caller) = true) :
    ∃ after, step s (.call caller) = some after := by
  rw [← Option.isSome_iff_exists]
  simp only [step, callStep]
  cases here : s.calls caller with
  | push msg => rfl
  | unlock => rfl
  | idle | notifyOne =>
      rw [here] at holds
      cases holds
  | exitTest msg | lock msg =>
      rw [here] at holds
      cases holds

theorem destructor_holder_moves {s : State Producer Message} (nested : CallsNested s)
    (silent : s.logCb = false) (holds : DestructorPc.holdsLock s.destructor = true) :
    ∃ after, step s .destructor = some after := by
  rw [← Option.isSome_iff_exists]
  simp only [step, destructorStep]
  cases here : s.destructor with
  | inLog num =>
      have idle : s.calls .destructor = .idle := by
        apply destructor_idle nested
        rw [here, silent]
        rfl
      simp [idle]
  | log num => rfl
  | count | unlock => rfl
  | notStarted | storeExit | notifyAll | join | lock | finished =>
      rw [here] at holds
      cases holds

theorem holder_moves {s : State Producer Message} (exclusive : Exclusive s)
    (nested : CallsNested s) (silent : s.logCb = false) : HolderMoves s := by
  intro owner held
  have holds := (exclusive owner).mp held
  cases owner with
  | worker =>
      rcases worker_holder_moves nested silent holds with ⟨after, taken⟩
      exact ⟨.worker, after, taken, rfl⟩
  | caller caller =>
      rcases call_holder_moves holds with ⟨after, taken⟩
      exact ⟨.call caller, after, taken, rfl⟩
  | destructor =>
      rcases destructor_holder_moves nested silent holds with ⟨after, taken⟩
      exact ⟨.destructor, after, taken, rfl⟩

omit [DecidableEq Producer] in
/-- Around `msgCb.OnMqttMessage` the mutex is released, whatever `logCb` is. -/
theorem message_handler_unlocked {s : State Producer Message} {msg : Message}
    (exclusive : Exclusive s) (here : s.worker = .inHandler msg) :
    s.messageDispatcherMutex ≠ some .worker := by
  intro held
  have holds := (exclusive .worker).mp held
  simp only [Holds, here] at holds
  cases holds

omit [DecidableEq Producer] in
theorem user_code_unlocked {s : State Producer Message} (exclusive : Exclusive s)
    (silent : s.logCb = false) : UserCodeUnlocked s := by
  intro owner held running
  have holds := (exclusive owner).mp held
  cases owner with
  | worker =>
      rcases running with ⟨inside, -⟩
      cases here : s.worker with
      | inHandler msg => exact message_handler_unlocked exclusive here held
      | inLog site =>
          rw [here, silent] at inside
          cases inside
      | _ =>
          rw [here] at inside
          cases inside
  | caller caller =>
      have busy : s.calls caller ≠ .idle := by
        intro idle
        simp only [Holds, idle] at holds
        cases holds
      cases caller with
      | producer id => exact running
      | worker => exact busy running.2
      | destructor => exact busy running.2
  | destructor =>
      rcases running with ⟨inside, -⟩
      cases here : s.destructor with
      | inLog num =>
          rw [here, silent] at inside
          cases inside
      | _ =>
          rw [here] at inside
          cases inside

/-- The worker logs the number of messages: the log callback runs. -/
def loggingSchedule : List (Choice Producer Message) :=
  List.replicate 7 .construct ++ List.replicate 5 .worker

theorem logging_locked (priorExit : Bool) :
    ∃ s, execute (system Producer Message) (initial true priorExit) loggingSchedule = some s ∧
      s.logCb = true ∧ ¬ UserCodeUnlocked s := by
  refine ⟨_, rfl, rfl, ?_⟩
  intro unlocked
  exact unlocked .worker rfl ⟨rfl, rfl⟩

/-- The log callback has called `OnMqttMessage` under the worker's lock. -/
def SelfDeadlock (s : State Producer Message) : Prop :=
  ∃ site msg, s.worker = .inLog site ∧ s.calls .worker = .lock msg ∧
    s.messageDispatcherMutex = some .worker

theorem self_deadlock_step {s t : State Producer Message}
    {action : Choice Producer Message} (building : Constructing s) (exclusive : Exclusive s)
    (stuck : SelfDeadlock s) (transition : Transition s action t) : SelfDeadlock t := by
  rcases stuck with ⟨site, msg, here, calling, held⟩
  -- Another caller's step leaves the worker's call where it is.
  have other : ∀ {caller : Caller Producer} (pc : CallPc Message),
      s.calls caller ≠ .lock msg →
      Function.update s.calls caller pc .worker = .lock msg := by
    intro caller pc different
    have distinct : Caller.worker ≠ caller := by
      intro same
      rw [← same] at different
      exact different calling
    rw [Function.update_of_ne distinct, calling]
  have outside : ∀ other : Owner Producer, other ≠ .worker →
      ¬ Holds s.worker s.calls s.destructor other := by
    intro other different inside
    have owns := (exclusive other).mpr inside
    rw [held] at owns
    exact different (Option.some.inj owns).symm
  cases transition with
  | construct next =>
      have idle := building.callersWait (by simp [next]) .worker
      rw [calling] at idle
      cases idle
  | workerLogged _ returned | handlerReturned _ returned =>
      rw [calling] at returned
      cases returned
  | workerLog away | workerLock away | loopLeave away | loopBody away | waitReady away
  | waitFalse away | block away | relockWait away | ifTake away | ifSkip away | pop away
  | unlock away | handOver away | relock away | unlockExit away | spurious away
  | notifyOneWakes _ away | notifyAllWakes _ away =>
      rw [here] at away
      cases away
  | enter at_call | exitSeen at_call | exitUnseen at_call | push at_call
  | notifyOneLost at_call =>
      exact ⟨site, msg, here, other _ (by rw [at_call]; simp), held⟩
  | callLock _ free | destructorLock _ free =>
      rw [held] at free
      cases free
  | @callUnlock caller at_call =>
      have inside : Holds s.worker s.calls s.destructor (.caller caller) := by
        simp only [Holds, at_call]
        rfl
      exact absurd inside (outside _ (by simp))
  | destructorUnlock at_unlock =>
      have inside : Holds s.worker s.calls s.destructor .destructor := by
        simp only [Holds, at_unlock]
        rfl
      exact absurd inside (outside _ (by simp))
  | destructorStart | storeExit | notifyAllLost | join | countNone | countLost | lostLog
  | lostLogged => exact ⟨site, msg, here, calling, held⟩

/-- Once the log callback waits for its own thread, it does so for ever. -/
theorem self_deadlock_lasts (labels : List (Choice Producer Message))
    {s t : State Producer Message} (reached : Reached (system Producer Message) s)
    (stuck : SelfDeadlock s) (ran : execute (system Producer Message) s labels = some t) :
    SelfDeadlock t := by
  apply invariant_of_execute SelfDeadlock _ labels reached stuck ran
  intro state label after within blocked taken
  exact self_deadlock_step (reached_constructing within) (reached_exclusive within) blocked
    (step_transition taken)

theorem nested_call_deadlocks (priorExit : Bool) (msg : Message) :
    ∃ s, execute (system Producer Message) (initial true priorExit)
        (loggingSchedule ++ [.enter .worker msg, .call .worker]) = some s ∧
      SelfDeadlock s ∧ ¬ HolderMoves s := by
  refine ⟨_, rfl, ⟨.number, msg, rfl, rfl, rfl⟩, ?_⟩
  intro moves
  rcases moves .worker rfl with ⟨action, after, taken, thread⟩
  cases action with
  | worker => cases taken
  | call caller =>
      obtain rfl := Option.some.inj thread
      cases taken
  | _ => cases thread

/-- In every state of every run user code runs without the mutex, and whoever
holds it can go on: exactly the queues without a log callback. -/
theorem user_code_runs_unlocked_iff (logCb : Bool) :
    (∀ s : State Producer Message, Reached (system Producer Message) s → s.logCb = logCb →
      UserCodeUnlocked s ∧ HolderMoves s) ↔ logCb = false := by
  constructor
  · intro always
    cases logCb with
    | false => rfl
    | true =>
        rcases @logging_locked Producer Message _ false with
          ⟨s, ran, given, locked⟩
        have start : (system Producer Message).initial (initial true false) :=
          ⟨true, false, rfl⟩
        have reached := reached_of_execute loggingSchedule (.start start) ran
        exact absurd (always s reached given).1 locked
  · intro silent s reached given
    have exclusive := reached_exclusive reached
    have nested := reached_calls_nested reached
    rw [silent] at given
    exact ⟨user_code_unlocked exclusive given, holder_moves exclusive nested given⟩

/-- With a log callback user code runs under the mutex, and a callback that
calls `OnMqttMessage` there leaves a holder that cannot move. -/
theorem log_callback_runs_locked :
    (∃ s : State Nat Nat, Reached (system Nat Nat) s ∧ ¬ UserCodeUnlocked s) ∧
    ∃ s : State Nat Nat, Reached (system Nat Nat) s ∧ ¬ HolderMoves s := by
  have start : (system Nat Nat).initial (initial true false) := ⟨true, false, rfl⟩
  constructor
  · rcases @logging_locked Nat Nat _ false with ⟨s, ran, -, locked⟩
    exact ⟨s, reached_of_execute _ (.start start) ran, locked⟩
  · rcases @nested_call_deadlocks Nat Nat _ false 5 with ⟨s, ran, -, stays⟩
    exact ⟨s, reached_of_execute _ (.start start) ran, stays⟩

end IMqtt.DispatchQueue.UserCode
