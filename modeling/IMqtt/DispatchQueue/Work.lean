import IMqtt.DispatchQueue.UserCode
import IMqtt.Library.Ranking

/-!
# How much there is to do

Every statement lowers the rank of the queue: what the constructor and the
destructor still have to do, what each call has left, and for the worker the way
to its next wait or to its end. A queued message is worth one round of the
worker's loop, and the store of the exit flag the way out of it. Only a new call
and a spurious wake-up add to the rank, so the threads never spin.
-/

namespace IMqtt.DispatchQueue.Work

open IMqtt.DispatchQueue.Model IMqtt.DispatchQueue.Transitions
open IMqtt.DispatchQueue.Locking IMqtt.DispatchQueue.UserCode LabelledSteps

set_option autoImplicit false

universe u v

variable {Producer : Type u} {Message : Type v}

/-- The worker's statements up to its next wait on an empty queue. -/
def waitingRank : WorkerPc Message → Nat
  | .log .starting => 8
  | .inLog .starting => 7
  | .lock => 6
  | .loopTest => 5
  | .log .number => 4
  | .inLog .number => 3
  | .waitTest => 2
  | .ifTest => 1
  | .pop => 0
  | .unlock _ => 9
  | .call _ => 8
  | .inHandler _ => 7
  | .relock => 6
  | .relockWait => 3
  | .block => 1
  | .log .exiting => 3
  | .inLog .exiting => 2
  | .unlockExit => 1
  | .notStarted | .blocked | .finished => 0

/-- The worker's statements up to its end, once the exit flag is set. -/
def leavingRank : WorkerPc Message → Nat
  | .log .starting => 7
  | .inLog .starting => 6
  | .lock => 5
  | .loopTest => 4
  | .log .number => 8
  | .inLog .number => 7
  | .waitTest => 6
  | .ifTest => 5
  | .pop => 0
  | .unlock _ => 8
  | .call _ => 7
  | .inHandler _ => 6
  | .relock => 5
  | .relockWait => 7
  | .block => 9
  | .blocked => 8
  | .log .exiting => 3
  | .inLog .exiting => 2
  | .unlockExit => 1
  | .notStarted | .finished => 0

def workerRank (exit : Bool) (worker : WorkerPc Message) : Nat :=
  if exit then leavingRank worker else waitingRank worker

/-- A call has its push to give, which is worth a round of the worker's loop,
and a notification, which may wake the worker. -/
def callRank : CallPc Message → Nat
  | .idle => 0
  | .notifyOne => 4
  | .unlock => 5
  | .push _ => 16
  | .lock _ => 17
  | .exitTest _ => 18

def destructorRank : DestructorPc → Nat
  | .notStarted => 21
  | .storeExit => 20
  | .notifyAll => 10
  | .join => 6
  | .lock => 5
  | .count => 4
  | .log _ => 3
  | .inLog _ => 2
  | .unlock => 1
  | .finished => 0

theorem waiting_rank_le (worker : WorkerPc Message) : waitingRank worker ≤ 9 := by
  cases worker with
  | log site | inLog site => cases site <;> simp [waitingRank]
  | _ => simp [waitingRank]

theorem leaving_rank_le (worker : WorkerPc Message) : leavingRank worker ≤ 9 := by
  cases worker with
  | log site | inLog site => cases site <;> simp [leavingRank]
  | _ => simp [leavingRank]

theorem worker_rank_le (exit : Bool) (worker : WorkerPc Message) :
    workerRank exit worker ≤ 9 := by
  cases exit
  · exact waiting_rank_le worker
  · exact leaving_rank_le worker

/-- A worker that is woken has no more than its way back to the wait added. -/
theorem woken_rank_le (exit : Bool) :
    workerRank exit (.relockWait : WorkerPc Message) ≤
      workerRank exit (.blocked : WorkerPc Message) + 3 := by
  cases exit <;> simp [workerRank, waitingRank, leavingRank]

section Calls

variable [DecidableEq Producer]

/-- Every thread that has ever called. -/
def callers (entered : List (Caller Producer × Message)) : Finset (Caller Producer) :=
  (entered.map Prod.fst).toFinset

def callsRank (calls : Caller Producer → CallPc Message)
    (entered : List (Caller Producer × Message)) : Nat :=
  (callers entered).sum fun caller => callRank (calls caller)

def rank (s : State Producer Message) : Nat :=
  10 * s.uninitialised.length + 10 * s.messageDispatcherQueue.length +
    workerRank s.messageDispatcherExit s.worker + destructorRank s.destructor +
    callsRank s.calls s.entered

/-- What a label adds, its own step included. -/
def paid : Choice Producer Message → Nat
  | .enter _ _ => 19
  | .spuriousWakeup => 4
  | _ => 0

/-- A thread that is in a call has entered it. -/
def CallersKnown (s : State Producer Message) : Prop :=
  ∀ caller, s.calls caller ≠ .idle → caller ∈ callers s.entered

theorem calls_rank_move (calls : Caller Producer → CallPc Message)
    {entered : List (Caller Producer × Message)} {caller : Caller Producer}
    (member : caller ∈ callers entered) (pc : CallPc Message) :
    callsRank (Function.update calls caller pc) entered + callRank (calls caller) =
      callsRank calls entered + callRank pc :=
  sum_rank_update callRank calls member pc

theorem calls_rank_enter {calls : Caller Producer → CallPc Message}
    {entered : List (Caller Producer × Message)} {caller : Caller Producer} {msg : Message}
    (idle : calls caller = .idle) (pc : CallPc Message) :
    callsRank (Function.update calls caller pc) (entered ++ [(caller, msg)]) =
      callsRank calls entered + callRank pc := by
  have joined : callers (entered ++ [(caller, msg)]) = insert caller (callers entered) := by
    ext other
    simp [callers]
  have nothing : callRank (calls caller) = 0 := by rw [idle]; rfl
  rw [callsRank, joined]
  exact sum_rank_join callRank nothing (callers entered) pc

end Calls

/-- The worker is in the body of its loop, up to its test of what it has found. -/
def inBody : WorkerPc Message → Bool
  | .log .number | .inLog .number | .waitTest | .block | .blocked | .relockWait | .ifTest =>
      true
  | _ => false

/-- The body was entered under a flag that was unset, and it is left past the
test for a reason: the worker goes round its loop for a message or for its end. -/
structure Rounds (s : State Producer Message) : Prop where
  settled : inBody s.worker = true → .messageDispatcherExit ∈ s.uninitialised →
    s.messageDispatcherExit = false
  found : s.worker = .ifTest →
    s.messageDispatcherQueue ≠ [] ∨ s.messageDispatcherExit = true

theorem rounds_initialiser {s : State Producer Message} {member : Member}
    {rest : List Member} (building : Constructing s) (before : Rounds s)
    (next : s.uninitialised = member :: rest) :
    Rounds (initialise member { s with uninitialised := rest }) := by
  have order : member :: rest <:+ declarationOrder := next ▸ building.order
  have settled := before.settled
  have found := before.found
  rw [next] at settled
  cases member with
  | messageDispatcherQueue =>
      have waiting := building.threadPending (by simp [next, thread_after_queue order])
      constructor <;> simp [initialise, waiting, inBody]
  | messageDispatcherThread => constructor <;> simp [initialise, inBody]
  | messageDispatcherExit =>
      refine ⟨fun _ _ => rfl, fun here => ?_⟩
      have unset := settled (by simp only [initialise] at here; rw [here]; rfl) (by simp)
      obtain filled | exit := found here
      · exact .inl filled
      · rw [unset] at exit
        cases exit
  | _ => exact ⟨fun inside pending => settled inside (List.mem_cons_of_mem _ pending), found⟩

variable [DecidableEq Producer]

theorem rounds_step {s t : State Producer Message} {action : Choice Producer Message}
    (building : Constructing s) (before : Rounds s) (transition : Transition s action t) :
    Rounds t := by
  have settled := before.settled
  have found := before.found
  cases transition with
  | construct next => exact rounds_initialiser building before next
  | loopBody here exit => exact ⟨fun _ _ => exit, fun test => by cases test⟩
  | waitReady here ready => exact ⟨fun _ => settled (by rw [here]; rfl), fun _ => ready⟩
  | push here => exact ⟨settled, fun _ => .inl (by simp)⟩
  | storeExit here =>
      have constructed : s.uninitialised = [] := by
        by_contra remaining
        have waiting := building.destructorWaits remaining
        rw [here] at waiting
        cases waiting
      refine ⟨fun _ pending => ?_, fun _ => .inr rfl⟩
      rw [constructed] at pending
      cases pending
  | @workerLog site here =>
      refine ⟨fun inside => settled ?_, fun test => by cases test⟩
      rw [here]
      cases site <;> first | rfl | cases inside
  | @workerLogged site here =>
      constructor
      · intro inside
        cases site <;> first | exact settled (by rw [here]; rfl) | cases inside
      · intro test
        cases site <;> cases test
  | waitFalse here | block here | relockWait here | spurious here | notifyOneWakes _ here
  | notifyAllWakes _ here =>
      exact ⟨fun _ => settled (by rw [here]; rfl), fun test => by cases test⟩
  | workerLock here | loopLeave here | ifTake here | ifSkip here | pop here | unlock here
  | handOver here | handlerReturned here | relock here | unlockExit here =>
      constructor
      · intro inside
        cases inside
      · intro test
        cases test
  | _ => exact ⟨settled, found⟩

theorem reached_rounds {s : State Producer Message}
    (reached : Reached (system Producer Message) s) : Rounds s := by
  refine invariant_of_step Rounds ?_ ?_ reached
  · rintro _ ⟨logCb, priorExit, rfl⟩
    constructor
    · intro inside
      cases inside
    · intro test
      cases test
  · intro s action t reached before _ taken
    exact rounds_step (reached_constructing reached) before (step_transition taken)

theorem callers_known_move {s t : State Producer Message} {caller : Caller Producer}
    {pc : CallPc Message} (before : CallersKnown s) (calling : s.calls caller ≠ .idle)
    (calls : t.calls = Function.update s.calls caller pc) (entered : t.entered = s.entered) :
    CallersKnown t := by
  intro other busy
  rw [entered]
  by_cases own : other = caller
  · rw [own]
    exact before caller calling
  · rw [calls, Function.update_of_ne own] at busy
    exact before other busy

theorem callers_known_step {s t : State Producer Message} {action : Choice Producer Message}
    (before : CallersKnown s) (transition : Transition s action t) : CallersKnown t := by
  cases transition with
  | @construct member rest next => cases member <;> exact before
  | @enter caller msg here may =>
      intro other busy
      by_cases own : other = caller
      · rw [own]
        simp [callers]
      · have known := before other (by simpa [own] using busy)
        simp only [callers, List.map_append, List.mem_toFinset, List.mem_append] at known ⊢
        exact .inl known
  | exitSeen here | exitUnseen here | callLock here | push here | callUnlock here
  | notifyOneWakes here | notifyOneLost here =>
      exact callers_known_move before (by rw [here]; simp) rfl rfl
  | _ => exact before

theorem reached_callers_known {s : State Producer Message}
    (reached : Reached (system Producer Message) s) : CallersKnown s := by
  refine invariant_of_step CallersKnown ?_ ?_ reached
  · rintro _ ⟨logCb, priorExit, rfl⟩ caller busy
    exact absurd rfl busy
  · intro s action t _ before _ taken
    exact callers_known_step before (step_transition taken)

theorem rank_initialiser {s : State Producer Message} {member : Member} {rest : List Member}
    (next : s.uninitialised = member :: rest) :
    rank (initialise member { s with uninitialised := rest }) + 1 ≤ rank s := by
  have left := worker_rank_le false s.worker
  have entered := worker_rank_le s.messageDispatcherExit (.log .starting : WorkerPc Message)
  cases member <;> simp only [rank, initialise, next, List.length_cons, List.length_nil] <;> omega

omit [DecidableEq Producer] in
/-- Whatever the flag is, the worker comes closer to its next wait and to its end. -/
theorem worker_rank_lower {before after : WorkerPc Message} (exit : Bool)
    (waiting : waitingRank after < waitingRank before)
    (leaving : leavingRank after < leavingRank before) :
    workerRank exit after < workerRank exit before := by
  cases exit
  · exact waiting
  · exact leaving

theorem rank_worker {s t : State Producer Message}
    (lower : workerRank s.messageDispatcherExit t.worker <
      workerRank s.messageDispatcherExit s.worker)
    (members : t.uninitialised = s.uninitialised)
    (queue : t.messageDispatcherQueue = s.messageDispatcherQueue)
    (exit : t.messageDispatcherExit = s.messageDispatcherExit)
    (destructor : t.destructor = s.destructor) (calls : t.calls = s.calls)
    (entered : t.entered = s.entered) : rank t + 1 ≤ rank s := by
  simp only [rank, members, queue, exit, destructor, calls, entered]
  omega

theorem rank_destructor {s t : State Producer Message}
    (lower : destructorRank t.destructor < destructorRank s.destructor)
    (members : t.uninitialised = s.uninitialised)
    (queue : t.messageDispatcherQueue = s.messageDispatcherQueue)
    (exit : t.messageDispatcherExit = s.messageDispatcherExit)
    (worker : t.worker = s.worker) (calls : t.calls = s.calls)
    (entered : t.entered = s.entered) : rank t + 1 ≤ rank s := by
  simp only [rank, members, queue, exit, worker, calls, entered]
  omega

/-- A step of a call leaves the rank of the call to what it does to the queue
and to the worker. -/
theorem rank_call {s t : State Producer Message} {caller : Caller Producer}
    {pc : CallPc Message} (known : CallersKnown s) (calling : s.calls caller ≠ .idle)
    (lower : 10 * t.messageDispatcherQueue.length + workerRank s.messageDispatcherExit t.worker +
        callRank pc <
      10 * s.messageDispatcherQueue.length + workerRank s.messageDispatcherExit s.worker +
        callRank (s.calls caller))
    (members : t.uninitialised = s.uninitialised)
    (exit : t.messageDispatcherExit = s.messageDispatcherExit)
    (destructor : t.destructor = s.destructor)
    (calls : t.calls = Function.update s.calls caller pc)
    (entered : t.entered = s.entered) : rank t + 1 ≤ rank s := by
  have moved := calls_rank_move s.calls (known caller calling) pc
  simp only [rank, members, exit, destructor, calls, entered]
  omega

theorem rank_step {s t : State Producer Message} {action : Choice Producer Message}
    (rounds : Rounds s) (known : CallersKnown s) (transition : Transition s action t) :
    rank t + 1 ≤ rank s + paid action := by
  cases transition with
  | construct next => exact rank_initialiser next
  | @workerLog site here =>
      refine rank_worker ?_ rfl rfl rfl rfl rfl rfl
      rw [here]
      cases site <;> exact worker_rank_lower _ (by simp [waitingRank]) (by simp [leavingRank])
  | @workerLogged site here =>
      refine rank_worker ?_ rfl rfl rfl rfl rfl rfl
      rw [here]
      cases site <;> exact worker_rank_lower _ (by simp [waitingRank, WorkerLog.next])
        (by simp [leavingRank, WorkerLog.next])
  | loopLeave here exit | loopBody here exit | waitFalse here _ exit | ifTake here exit =>
      refine rank_worker ?_ rfl rfl rfl rfl rfl rfl
      rw [here, exit]
      simp [workerRank, waitingRank, leavingRank]
  | ifSkip here skip =>
      have exit : s.messageDispatcherExit = true := by
        obtain exit | empty := skip
        · exact exit
        · exact (rounds.found here).resolve_left fun filled => filled empty
      refine rank_worker ?_ rfl rfl rfl rfl rfl rfl
      rw [here, exit]
      simp [workerRank, leavingRank]
  | @pop msg rest here front =>
      have round := worker_rank_le s.messageDispatcherExit (.unlock msg)
      simp only [rank, here, front, List.length_cons, paid]
      omega
  | workerLock here | waitReady here | block here | relockWait here | unlock here
  | handOver here | handlerReturned here | relock here | unlockExit here =>
      refine rank_worker ?_ rfl rfl rfl rfl rfl rfl
      rw [here]
      exact worker_rank_lower _ (by simp [waitingRank]) (by simp [leavingRank])
  | spurious here =>
      have woken := @woken_rank_le Message s.messageDispatcherExit
      simp only [rank, here, paid]
      omega
  | @enter caller msg here may =>
      have entered := @calls_rank_enter _ _ _ _ s.entered _ msg here (.exitTest msg)
      simp only [rank, entered, callRank, paid]
      omega
  | exitSeen here | exitUnseen here | callLock here | callUnlock here | notifyOneLost here =>
      refine rank_call known (by rw [here]; simp) ?_ rfl rfl rfl rfl rfl
      simp [here, callRank]
  | push here =>
      refine rank_call known (by rw [here]; simp) ?_ rfl rfl rfl rfl rfl
      simp only [here, callRank, List.length_append, List.length_singleton]
      omega
  | notifyOneWakes here waiting =>
      refine rank_call known (by rw [here]; simp) ?_ rfl rfl rfl rfl rfl
      have woken := @woken_rank_le Message s.messageDispatcherExit
      simp only [here, waiting, callRank]
      omega
  | storeExit here =>
      have left := worker_rank_le true s.worker
      simp only [rank, here, destructorRank, paid]
      omega
  | notifyAllWakes here waiting =>
      have woken := @woken_rank_le Message s.messageDispatcherExit
      simp only [rank, here, waiting, destructorRank, paid]
      omega
  | destructorStart here | notifyAllLost here | join here | destructorLock here
  | countNone here | countLost here | lostLog here | lostLogged here | destructorUnlock here =>
      exact rank_destructor (by rw [here]; simp [destructorRank]) rfl rfl rfl rfl rfl rfl

/-- The queue with its rank. -/
def ranking (Producer : Type u) (Message : Type v) [DecidableEq Producer] :
    Ranking (system Producer Message) where
  rank := rank
  paid := paid
  lowers _ _ _ reached taken :=
    rank_step (reached_rounds reached) (reached_callers_known reached) (step_transition taken)

def isEnter : Choice Producer Message → Bool
  | .enter _ _ => true
  | _ => false

def isSpurious : Choice Producer Message → Bool
  | .spuriousWakeup => true
  | _ => false

omit [DecidableEq Producer] in
theorem paid_sum (labels : List (Choice Producer Message)) :
    (labels.map paid).sum = 19 * labels.countP isEnter + 4 * labels.countP isSpurious := by
  induction labels with
  | nil => rfl
  | cons label rest ih =>
      rw [List.map_cons, List.sum_cons, ih, List.countP_cons, List.countP_cons]
      cases label <;> simp only [paid, isEnter, isSpurious] <;> simp <;> omega

theorem initial_rank (logCb priorExit : Bool) :
    rank (initial logCb priorExit : State Producer Message) = 91 := by
  cases priorExit <;> rfl

/-- Whatever the schedule, a run makes at most a fixed number of steps for each
call and for each spurious wake-up. -/
theorem steps_bounded_by_calls (logCb priorExit : Bool)
    (labels : List (Choice Producer Message)) {s : State Producer Message}
    (ran : execute (system Producer Message) (initial logCb priorExit) labels = some s) :
    labels.length ≤ 91 + 19 * labels.countP isEnter + 4 * labels.countP isSpurious := by
  have start : Reached (system Producer Message) (initial logCb priorExit) :=
    .start ⟨logCb, priorExit, rfl⟩
  have bound := run_length_le (ranking Producer Message) labels start ran
  have begun : (ranking Producer Message).rank (initial logCb priorExit) = 91 :=
    initial_rank logCb priorExit
  have given : (labels.map (ranking Producer Message).paid).sum =
      19 * labels.countP isEnter + 4 * labels.countP isSpurious := paid_sum labels
  omega

/-- A message is handed over, and the destructor runs to its end. -/
def oneMessageSchedule : List (Choice Nat Nat) :=
  List.replicate 7 .construct ++
    .enter (.producer 0) 5 :: List.replicate 5 (.call (.producer 0)) ++
    List.replicate 18 .worker ++ List.replicate 3 .destructor ++ List.replicate 7 .worker ++
    List.replicate 4 .destructor

theorem one_message_steps_bounded :
    ∃ s : State Nat Nat,
      execute (system Nat Nat) (initial true false) oneMessageSchedule = some s ∧
      s.handed = [5] ∧
      oneMessageSchedule.length ≤ 91 + 19 * oneMessageSchedule.countP isEnter +
        4 * oneMessageSchedule.countP isSpurious :=
  ⟨_, rfl, rfl, steps_bounded_by_calls true false oneMessageSchedule rfl⟩

end IMqtt.DispatchQueue.Work
