import IMqtt.DispatchQueue.Locking
import IMqtt.Library.FifoChannel

/-!
# The dispatch queue is a lossless first-in first-out channel

Every pushed message is handed over, or popped and about to be, or still in
the queue, in this order. The third place, between `pop` and the handler call,
is the one where a message is in neither of the other two.
-/

namespace IMqtt.DispatchQueue.Fifo

open IMqtt.DispatchQueue.Model IMqtt.DispatchQueue.Transitions
open IMqtt.DispatchQueue.Locking LabelledSteps FifoChannel

set_option autoImplicit false

universe u v

variable {Producer : Type u} {Message : Type v}

/-- The message the worker has taken from the queue and not handed over. -/
def popped : WorkerPc Message → List Message
  | .unlock msg | .call msg => [msg]
  | _ => []

theorem popped_length_le_one (worker : WorkerPc Message) :
    (popped worker).length ≤ 1 := by
  cases worker <;> simp [popped]

/-- The message of a call that may still push it. -/
def unpushed : CallPc Message → List Message
  | .exitTest msg | .lock msg | .push msg => [msg]
  | _ => []

def Conserved (s : State Producer Message) : Prop :=
  s.pushed.map Prod.snd =
    s.handed ++ popped s.worker ++ s.messageDispatcherQueue

theorem conserved_initialiser {s : State Producer Message}
    {member : Member} {rest : List Member} (building : Constructing s)
    (before : Conserved s) (next : s.uninitialised = member :: rest) :
    Conserved (initialise member { s with uninitialised := rest }) := by
  have nothing := building.nothingPushed (by simp [next])
  have parts : s.handed = [] ∧ popped s.worker = [] ∧
      s.messageDispatcherQueue = [] := by
    unfold Conserved at before
    rw [nothing, List.map_nil] at before
    simpa using before.symm
  cases member
  case messageDispatcherQueue =>
    simp [Conserved, initialise, nothing, parts]
  case messageDispatcherThread =>
    simp [Conserved, initialise, nothing, parts, popped]
  all_goals exact before

variable [DecidableEq Producer]

theorem conserved_step {s t : State Producer Message}
    {action : Choice Producer Message} (building : Constructing s)
    (before : Conserved s) (transition : Transition s action t) :
    Conserved t := by
  cases transition with
  | construct next => exact conserved_initialiser building before next
  | @workerLogged site here =>
      unfold Conserved at before ⊢
      cases site <;> simpa [here, popped, WorkerLog.next] using before
  | pop here front =>
      unfold Conserved at before ⊢
      simpa [here, front, popped] using before
  | handOver here =>
      unfold Conserved at before ⊢
      simpa [here, popped] using before
  | @push caller msg here =>
      unfold Conserved at before ⊢
      simp [before, List.append_assoc]
  | workerLog here | workerLock here | loopLeave here | loopBody here
  | waitReady here | waitFalse here | block here | relockWait here
  | ifTake here | ifSkip here | unlock here | handlerReturned here
  | relock here | unlockExit here | spurious here | notifyOneWakes _ here
  | notifyAllWakes _ here =>
      unfold Conserved at before ⊢
      simpa [here, popped] using before
  | _ => exact before

theorem reached_conserved {s : State Producer Message}
    (reached : Reached (system Producer Message) s) : Conserved s := by
  refine invariant_of_step Conserved ?_ ?_ reached
  · rintro _ ⟨logCb, priorExit, rfl⟩
    rfl
  · intro s action t reached before _ taken
    exact conserved_step (reached_constructing reached) before
      (step_transition taken)

/-- The order of the pushes is the order in which the calls took the mutex.
The call that holds it may not have pushed yet. -/
structure LockOrder (s : State Producer Message) : Prop where
  holder : ∀ caller msg, s.calls caller = .push msg →
    s.acquired = s.pushed ++ [(caller, msg)]
  nobody : (∀ caller msg, s.calls caller ≠ .push msg) → s.acquired = s.pushed

theorem update_push_iff {calls : Caller Producer → CallPc Message}
    {caller : Caller Producer} {pc : CallPc Message}
    (was : ∀ msg, calls caller ≠ .push msg) (becomes : ∀ msg, pc ≠ .push msg)
    (other : Caller Producer) (msg : Message) :
    Function.update calls caller pc other = .push msg ↔
      calls other = .push msg := by
  by_cases own : other = caller
  · subst own
    simp [was, becomes]
  · simp [own]

theorem lock_order_move {s t : State Producer Message}
    {caller : Caller Producer} {pc : CallPc Message} (before : LockOrder s)
    (was : ∀ msg, s.calls caller ≠ .push msg) (becomes : ∀ msg, pc ≠ .push msg)
    (calls : t.calls = Function.update s.calls caller pc)
    (acquired : t.acquired = s.acquired) (pushed : t.pushed = s.pushed) :
    LockOrder t := by
  constructor
  · intro other msg holds
    rw [calls, update_push_iff was becomes] at holds
    rw [acquired, pushed]
    exact before.holder other msg holds
  · intro nobody
    rw [acquired, pushed]
    apply before.nobody
    intro other msg holds
    exact nobody other msg (by rw [calls, update_push_iff was becomes, holds])

omit [DecidableEq Producer] in
theorem lock_order_initialiser {s : State Producer Message}
    {member : Member} {rest : List Member} (before : LockOrder s) :
    LockOrder (initialise member { s with uninitialised := rest }) := by
  cases member <;> exact ⟨before.holder, before.nobody⟩

omit [DecidableEq Producer] in
/-- Nobody stands between `lock` and `push` while the mutex is free. -/
theorem no_push_when_free {s : State Producer Message} (locking : Exclusive s)
    (free : s.messageDispatcherMutex = none) (caller : Caller Producer)
    (msg : Message) : s.calls caller ≠ .push msg := by
  intro holds
  apply (MutexDiscipline.free_iff locking).mp free (.caller caller)
  rw [Holds, holds]
  rfl

omit [DecidableEq Producer] in
theorem push_unique {s : State Producer Message} (locking : Exclusive s)
    {one other : Caller Producer} {msg msg' : Message}
    (first : s.calls one = .push msg) (second : s.calls other = .push msg') :
    one = other := by
  have same := MutexDiscipline.inside_unique locking
    (.caller one) (.caller other)
    (by rw [Holds, first]; rfl) (by rw [Holds, second]; rfl)
  exact Owner.caller.inj same

theorem lock_order_step {s t : State Producer Message}
    {action : Choice Producer Message} (locking : Exclusive s)
    (before : LockOrder s) (transition : Transition s action t) :
    LockOrder t := by
  cases transition with
  | construct next => exact lock_order_initialiser before
  | enter here | exitSeen here | exitUnseen here | callUnlock here
  | notifyOneWakes here | notifyOneLost here =>
      exact lock_order_move before (by simp [here]) (by simp) rfl rfl rfl
  | @callLock caller msg here free =>
      have outside := no_push_when_free locking free
      constructor
      · intro other msg' holds
        have own : other = caller := by
          by_contra different
          exact outside other msg' (by simpa [different] using holds)
        subst own
        have same : msg = msg' := by simpa using holds
        rw [before.nobody outside, same]
      · intro nobody
        exact absurd (by simp) (nobody caller msg)
  | @push caller msg here =>
      have others : ∀ other msg',
          Function.update s.calls caller .unlock other ≠ .push msg' := by
        intro other msg' holds
        by_cases own : other = caller
        · subst own
          simp at holds
        · exact own (push_unique locking (by simpa [own] using holds) here)
      constructor
      · intro other msg' holds
        exact absurd holds (others other msg')
      · intro _
        exact before.holder caller msg here
  | _ => exact ⟨before.holder, before.nobody⟩

theorem reached_lock_order {s : State Producer Message}
    (reached : Reached (system Producer Message) s) : LockOrder s := by
  refine invariant_of_step LockOrder ?_ ?_ reached
  · rintro _ ⟨logCb, priorExit, rfl⟩
    exact ⟨fun _ _ holds => by simp [initial] at holds, fun _ => rfl⟩
  · intro s action t reached before _ taken
    exact lock_order_step (reached_exclusive reached) before
      (step_transition taken)

/-- A caller's pushes, and then the message of the call it is making, come in
the order of its calls; the calls that saw the exit flag are left out. -/
def CallOrder (s : State Producer Message) : Prop :=
  ∀ caller, (messagesOf caller s.pushed ++ unpushed (s.calls caller)).Sublist
    (messagesOf caller s.entered)

theorem call_order_move {s t : State Producer Message}
    {caller : Caller Producer} {pc : CallPc Message} (before : CallOrder s)
    (shrinks : (unpushed pc).Sublist (unpushed (s.calls caller)))
    (calls : t.calls = Function.update s.calls caller pc)
    (entered : t.entered = s.entered) (pushed : t.pushed = s.pushed) :
    CallOrder t := by
  intro other
  rw [calls, entered, pushed]
  by_cases own : other = caller
  · subst own
    rw [Function.update_self]
    exact ((List.Sublist.refl _).append shrinks).trans (before other)
  · rw [Function.update_of_ne own]
    exact before other

theorem call_order_step {s t : State Producer Message}
    {action : Choice Producer Message} (before : CallOrder s)
    (transition : Transition s action t) : CallOrder t := by
  cases transition with
  | @construct member rest next => cases member <;> exact before
  | @enter caller msg here =>
      intro other
      have prior := before other
      by_cases own : other = caller
      · subst own
        simp only [here, unpushed, List.append_nil] at prior
        simpa [unpushed] using prior
      · simpa [own, messages_of_other, Ne.symm own] using prior
  | @push caller msg here =>
      intro other
      have prior := before other
      by_cases own : other = caller
      · subst own
        simpa [here, unpushed] using prior
      · simpa [own, messages_of_other, Ne.symm own] using prior
  | exitSeen here | exitUnseen here | callLock here | callUnlock here
  | notifyOneWakes here | notifyOneLost here =>
      exact call_order_move before (by simp [here, unpushed]) rfl rfl rfl
  | _ => exact before

theorem reached_call_order {s : State Producer Message}
    (reached : Reached (system Producer Message) s) : CallOrder s := by
  refine invariant_of_step CallOrder ?_ ?_ reached
  · rintro _ ⟨logCb, priorExit, rfl⟩ caller
    exact List.Sublist.refl _
  · intro s action t _ before _ taken
    exact call_order_step before (step_transition taken)

/-- The handed-over messages, each with the caller that pushed it. -/
def delivered (s : State Producer Message) : List (Caller Producer × Message) :=
  s.pushed.take s.handed.length

omit [DecidableEq Producer] in
theorem delivered_messages {s : State Producer Message}
    (conserved : Conserved s) : (delivered s).map Prod.snd = s.handed := by
  rw [delivered, List.map_take, conserved, List.append_assoc, List.take_left']
  rfl

omit [DecidableEq Producer] in
theorem handed_length_le {s : State Producer Message}
    (conserved : Conserved s) : s.handed.length ≤ s.pushed.length := by
  have lengths := congrArg List.length conserved
  simp only [List.length_map, List.length_append] at lengths
  omega

omit [DecidableEq Producer] in
theorem next_delivery {s : State Producer Message} {msg : Message}
    (conserved : Conserved s) (here : s.worker = .call msg) :
    ∃ caller, s.pushed[s.handed.length]? = some (caller, msg) := by
  have found : (s.pushed.map Prod.snd)[s.handed.length]? = some msg := by
    rw [conserved, here]
    simp [popped]
  rw [List.getElem?_map, Option.map_eq_some_iff] at found
  obtain ⟨⟨caller, msg'⟩, found, rfl⟩ := found
  exact ⟨caller, found⟩

/-- The queue as the channel's specification sees it. -/
def channel (s : State Producer Message) :
    Channel (Caller Producer × Message) :=
  ⟨s.pushed, delivered s⟩

theorem channel_step {s t : State Producer Message}
    {action : Choice Producer Message} (conserved : Conserved s)
    (transition : Transition s action t) :
    channel t = channel s ∨
      ∃ event, FifoChannel.step (channel s) event = some (channel t) := by
  have bound := handed_length_le conserved
  cases transition with
  | @construct member rest next => cases member <;> exact .inl rfl
  | @push caller msg here =>
      refine .inr ⟨.send (caller, msg), ?_⟩
      simp [FifoChannel.step, channel, delivered,
        List.take_append_of_le_length bound]
  | @handOver msg here =>
      obtain ⟨caller, found⟩ := next_delivery conserved here
      refine .inr ⟨.deliver, ?_⟩
      have position : (delivered s).length = s.handed.length := by
        rw [delivered, List.length_take, Nat.min_eq_left bound]
      simp only [FifoChannel.step, channel, position, found]
      simp [delivered, List.take_add_one, found]
  | _ => exact .inl rfl

/-- The dispatch queue refines the lossless channel. -/
def channelSimulation (Producer : Type u) (Message : Type v)
    [DecidableEq Producer] :
    Simulation (system Producer Message)
      (FifoChannel.system (Caller Producer × Message)) where
  abstraction := channel
  initial := by
    rintro _ ⟨logCb, priorExit, rfl⟩
    rfl
  step := fun _ _ _ reached taken =>
    channel_step (reached_conserved reached) (step_transition taken)

/-- Pushed messages are handed over once each and in the order in which their
calls took the mutex; at most one of them is in between. -/
structure LosslessFifo (s : State Producer Message) : Prop where
  conserved : s.pushed.map Prod.snd =
    s.handed ++ popped s.worker ++ s.messageDispatcherQueue
  atMostOne : (popped s.worker).length ≤ 1
  mutexOrder : (∀ caller msg, s.calls caller ≠ .push msg) →
    s.acquired = s.pushed
  mutexHolder : ∀ caller msg, s.calls caller = .push msg →
    s.acquired = s.pushed ++ [(caller, msg)]
  callerOrder : ∃ deliveries, deliveries <+: s.pushed ∧
    deliveries.map Prod.snd = s.handed ∧
    ∀ caller, (messagesOf caller deliveries).Sublist
      (messagesOf caller s.entered)

theorem dispatch_queue_is_lossless_fifo {s : State Producer Message}
    (reached : Reached (system Producer Message) s) : LosslessFifo s := by
  have conserved := reached_conserved reached
  have order := reached_lock_order reached
  have lossless : delivered s <+: s.pushed :=
    delivered_prefix_sent
      (reached_abstraction (channelSimulation Producer Message) reached)
  refine ⟨conserved, popped_length_le_one _, order.nobody, order.holder,
    delivered s, lossless, delivered_messages conserved, ?_⟩
  intro caller
  have calls := reached_call_order reached caller
  exact origin_order_kept caller lossless
    ((List.sublist_append_left _ _).trans calls)

/-- Two producers, and a call made by the handler on the worker thread. -/
def handlerCallSchedule : List (Choice Nat Nat) :=
  List.replicate 7 .construct ++
    .enter (.producer 0) 5 :: List.replicate 5 (.call (.producer 0)) ++
    List.replicate 11 .worker ++
    .enter .worker 7 :: List.replicate 4 (.call .worker) ++
    .enter (.producer 1) 6 :: List.replicate 2 (.call (.producer 1))

theorem handler_call_run_is_lossless_fifo :
    ∃ s : State Nat Nat,
      execute (system Nat Nat) (initial true false) handlerCallSchedule =
        some s ∧
      s.handed = [5] ∧ s.messageDispatcherQueue = [7] ∧
      s.acquired.map Prod.snd = [5, 7, 6] ∧ LosslessFifo s :=
  ⟨_, rfl, rfl, rfl, rfl, dispatch_queue_is_lossless_fifo
    (reached_of_execute handlerCallSchedule (.start ⟨true, false, rfl⟩) rfl)⟩

end IMqtt.DispatchQueue.Fifo
