import IMqtt.DispatchQueue.Progress
import IMqtt.DispatchQueue.Work

/-!
# What the queue cannot fail to do

A rank that every statement lowers and a list of the states in which no
statement is left: from both it follows what every schedule comes to. No
fairness is assumed. The shutdown runs to its end unless its notification falls
into the worker's window, and what is pushed is handed over unless the worker
has found a flag that was not initialised; in both cases a log callback must not
call the queue while it runs under the mutex.
-/

namespace IMqtt.DispatchQueue.Completion

open IMqtt.DispatchQueue.Model IMqtt.DispatchQueue.Transitions
open IMqtt.DispatchQueue.Locking IMqtt.DispatchQueue.ExitFlag IMqtt.DispatchQueue.Wakeup
open IMqtt.DispatchQueue.Fifo IMqtt.DispatchQueue.Shutdown IMqtt.DispatchQueue.UserCode
open IMqtt.DispatchQueue.Progress IMqtt.DispatchQueue.Work
open LabelledSteps
open FifoChannel (messagesOf messages_of_nil)

set_option autoImplicit false

universe u v

variable {Producer : Type u} {Message : Type v}

/-- The worker logs under its lock. -/
def logsLocked : WorkerPc Message → Bool
  | .inLog site => WorkerLog.locked site
  | _ => false

/-- The log callback makes no call of `OnMqttMessage` under the worker's lock. -/
def CallsUnlocked (s : State Producer Message) : Choice Producer Message → Prop
  | .enter .worker _ => logsLocked s.worker = false
  | _ => True

instance (s : State Producer Message) (action : Choice Producer Message) :
    Decidable (CallsUnlocked s action) :=
  match action with
  | .enter .worker _ => inferInstanceAs (Decidable (logsLocked s.worker = false))
  | .enter (.producer _) _ | .enter .destructor _ => .isTrue trivial
  | .construct | .worker | .spuriousWakeup | .call _ | .destructor => .isTrue trivial

/-- The worker's lock is not waited for by the worker's own log callback. -/
def LogReturns (s : State Producer Message) : Prop :=
  logsLocked s.worker = true → s.calls .worker = .idle

variable [DecidableEq Producer]

theorem log_returns_step {s t : State Producer Message} {action : Choice Producer Message}
    (building : Constructing s) (nested : CallsNested s) (before : LogReturns s)
    (allowed : CallsUnlocked s action) (transition : Transition s action t) :
    LogReturns t := by
  have other : ∀ {caller : Caller Producer} {pc : CallPc Message}, s.calls caller ≠ .idle →
      logsLocked s.worker = true →
      Function.update s.calls caller pc .worker = .idle := by
    intro caller pc busy locked
    have idle := before locked
    have distinct : Caller.worker ≠ caller := by
      intro same
      rw [← same] at busy
      exact busy idle
    rw [Function.update_of_ne distinct]
    exact idle
  cases transition with
  | @construct member rest next =>
      have idle := building.callersWait (by simp [next]) .worker
      intro _
      cases member <;> exact idle
  | workerLog here =>
      have idle := worker_idle nested (by rw [here]; rfl)
      exact fun _ => idle
  | workerLogged here returned => exact fun _ => returned
  | @enter caller msg here may =>
      intro locked
      have distinct : Caller.worker ≠ caller := by
        intro same
        rw [← same] at allowed
        have unlocked : logsLocked s.worker = false := allowed
        rw [unlocked] at locked
        cases locked
      exact (Function.update_of_ne distinct _ _).trans (before locked)
  | exitSeen here | exitUnseen here | callLock here | push here | callUnlock here
  | notifyOneLost here => exact fun locked => other (by rw [here]; simp) locked
  | workerLock here | loopLeave here | loopBody here | waitReady here | waitFalse here
  | block here | relockWait here | ifTake here | ifSkip here | pop here | unlock here
  | handOver here | handlerReturned here | relock here | unlockExit here | spurious here
  | notifyOneWakes _ here | notifyAllWakes _ here =>
      intro locked
      cases locked
  | _ => exact before

theorem log_returns_under {allowed : State Producer Message → Choice Producer Message → Prop}
    (unlocked : ∀ s action, allowed s action → CallsUnlocked s action)
    {s : State Producer Message}
    (reached : ReachedUnder (system Producer Message) allowed s) : LogReturns s := by
  refine invariant_of_step LogReturns ?_ ?_ reached
  · rintro _ ⟨logCb, priorExit, rfl⟩ locked
    cases locked
  · intro s action t reached before permitted taken
    have within := reached_of_reached_under reached
    exact log_returns_step (reached_constructing within) (reached_calls_nested within) before
      (unlocked s action permitted) (step_transition taken)

section Shutdown

/-- The notification of the destructor is heard, and the log callback returns. -/
def Answerable (s : State Producer Message) (action : Choice Producer Message) : Prop :=
  NotifiesOutsideWindow s action ∧ CallsUnlocked s action

instance [DecidableEq Message] (s : State Producer Message) (action : Choice Producer Message) :
    Decidable (Answerable s action) := inferInstanceAs (Decidable (_ ∧ _))

theorem answerable_awake {s : State Producer Message}
    (reached : ReachedUnder (system Producer Message) Answerable s) :
    AwakeOnceNotified s := by
  refine invariant_of_step AwakeOnceNotified ?_ ?_ reached
  · rintro _ ⟨logCb, priorExit, rfl⟩ done
    cases done
  · intro s action t reached before allowed taken
    have within := reached_of_reached_under reached
    exact awake_once_notified_step (reached_constructing within) (reached_flag_writes within)
      before allowed.1 (step_transition taken)

omit [DecidableEq Producer] in
theorem internal_unlocked (s : State Producer Message) {action : Choice Producer Message}
    (inside : internal action = true) : CallsUnlocked s action := by
  cases action with
  | enter | spuriousWakeup => cases inside
  | _ => trivial

omit [DecidableEq Producer] in
theorem log_returns_lets_go {s : State Producer Message} (exclusive : Exclusive s)
    (returns : LogReturns s) : ¬ SelfDeadlock s := by
  rintro ⟨site, msg, here, calling, held⟩
  have inside := (exclusive .worker).mp held
  simp only [Holds, here] at inside
  have idle := returns (by rw [here]; exact inside)
  rw [calling] at idle
  cases idle

/-- Until everything has finished, the shutdown has a statement to execute, and
one that keeps the notification out of the window. -/
theorem answerable_moves {s : State Producer Message}
    (reached : ReachedUnder (system Producer Message) Answerable s) (running : ¬ Final s) :
    ∃ action after, (Answerable s action ∧ internal action = true) ∧
      step s action = some after := by
  have within := reached_of_reached_under reached
  have moving : ¬ Stopped s := by
    intro stopped
    obtain final | forgotten | wedged := stopped_cases within stopped
    · exact running final
    · have missed := forgotten.missed
      have awake := answerable_awake reached (by rw [missed.joining]; rfl)
      exact awake.2 missed.asleep
    · exact log_returns_lets_go (reached_exclusive within)
        (log_returns_under (fun _ _ => And.right) reached) wedged.stuck
  obtain ⟨action, after, inside, taken⟩ := step_of_not_stopped moving
  by_cases outside : NotifiesOutsideWindow s action
  · exact ⟨action, after, ⟨⟨outside, internal_unlocked s inside⟩, inside⟩, taken⟩
  · -- the worker is about to block, so it goes first
    simp only [NotifiesOutsideWindow, Classical.not_imp, ne_eq, not_not] at outside
    have blocking : s.worker = .block := outside.2.2
    refine ⟨.worker, { s.release with worker := .blocked }, ⟨⟨?_, ?_⟩, rfl⟩, ?_⟩
    · exact fun same => by cases same
    · exact internal_unlocked s rfl
    · simp [step, workerStep, blocking]

/-- Whatever the threads do next and in whatever order, all of them finish. -/
theorem shutdown_completes {s : State Producer Message}
    (reached : ReachedUnder (system Producer Message) Answerable s) :
    Inevitable (system Producer Message)
      (fun state action => Answerable state action ∧ internal action = true) Final s := by
  refine inevitable_of_ranking (ranking Producer Message)
    (ReachedUnder (system Producer Message) Answerable) Final ?_ ?_ ?_ ?_ reached
  · exact fun _ => reached_of_reached_under
  · exact fun _ _ _ before permitted taken => .next before permitted.1 taken
  · intro state action permitted
    cases action with
    | enter | spuriousWakeup => cases permitted.2
    | _ => rfl
  · exact fun _ => answerable_moves

/-- A call is about to notify the worker when the destructor begins. -/
def shutdownDuringCallSchedule : List (Choice Nat Nat) :=
  pushWhileBlockedSchedule ++ List.replicate 2 .destructor

theorem shutdown_during_call_completes :
    ∃ s : State Nat Nat,
      execute (system Nat Nat) (initial true false) shutdownDuringCallSchedule = some s ∧
      s.destructor = .notifyAll ∧ s.worker = .blocked ∧
      Inevitable (system Nat Nat)
        (fun state action => Answerable state action ∧ internal action = true) Final s :=
  ⟨_, rfl, rfl, rfl, shutdown_completes
    (reached_under_of_execute shutdownDuringCallSchedule (.start ⟨true, false, rfl⟩)
      (by decide) rfl)⟩

end Shutdown

section Delivery

/-- The worker tests a flag that it may rely on, and the log callback returns. -/
def Serving (s : State Producer Message) (action : Choice Producer Message) : Prop :=
  TestsSettledFlag s action ∧ CallsUnlocked s action

instance [DecidableEq Message] (s : State Producer Message) (action : Choice Producer Message) :
    Decidable (Serving s action) := inferInstanceAs (Decidable (_ ∧ _))

/-- A run in which the destructor has not begun. -/
structure InService (s : State Producer Message) : Prop where
  reached : ReachedUnder (system Producer Message) Serving s
  alive : s.destructor = .notStarted

/-- The statements of the threads but for the destructor's. -/
def serves : Choice Producer Message → Bool
  | .destructor => false
  | action => internal action

/-- The worker sleeps, and every message that a caller has ever passed in has
been handed over. -/
structure Drained (s : State Producer Message) : Prop where
  asleep : s.worker = .blocked
  empty : s.messageDispatcherQueue = []
  idle : ∀ caller, s.calls caller = .idle
  delivered : s.pushed.map Prod.snd = s.handed
  complete : ∀ caller, messagesOf caller s.pushed = messagesOf caller s.entered

/-- While the flag is unset, no call is refused. -/
def NoneRefused (s : State Producer Message) : Prop :=
  stored s.destructor = false → s.refused = []

theorem none_refused_step {s t : State Producer Message} {action : Choice Producer Message}
    (building : Constructing s) (flag : FlagWrites s) (before : NoneRefused s)
    (transition : Transition s action t) : NoneRefused t := by
  cases transition with
  | @construct member rest next => cases member <;> exact before
  | @exitSeen caller msg here exit =>
      intro unset
      obtain done | pending := flag.ofSet exit
      · have unstored : stored s.destructor = false := unset
        rw [done] at unstored
        cases unstored
      · have idle := building.callersWait (List.ne_nil_of_mem pending) caller
        rw [here] at idle
        cases idle
  | storeExit here =>
      intro unset
      cases unset
  | destructorStart here | notifyAllWakes here | notifyAllLost here | join here
  | destructorLock here | countNone here | countLost here | lostLog here | lostLogged here
  | destructorUnlock here =>
      intro unset
      first | exact before (by rw [here]; rfl) | cases unset
  | _ => exact before

theorem reached_none_refused {s : State Producer Message}
    (reached : Reached (system Producer Message) s) : NoneRefused s := by
  refine invariant_of_step NoneRefused ?_ ?_ reached
  · rintro _ ⟨logCb, priorExit, rfl⟩ _
    rfl
  · intro s action t reached before _ taken
    exact none_refused_step (reached_constructing reached) (reached_flag_writes reached) before
      (step_transition taken)

theorem in_service_lives {s : State Producer Message} (serving : InService s) :
    leftLoop s.worker = false := by
  have lives : LivesUntilDestruction s := by
    refine invariant_of_step LivesUntilDestruction ?_ ?_ serving.reached
    · rintro _ ⟨logCb, priorExit, rfl⟩ left
      cases left
    · intro s action t reached before allowed taken
      exact lives_until_destruction_step
        (reached_flag_writes (reached_of_reached_under reached)) before allowed.1
        (step_transition taken)
  rw [← Bool.not_eq_true]
  intro left
  have done := lives left
  rw [serving.alive] at done
  cases done

/-- A caller's messages are pushed in the order of its calls, and none is left out
once the calls have returned. -/
theorem pushed_of_idle {s : State Producer Message} (order : CallOrder s)
    (split : CallsSplit s) (refused : s.refused = []) {caller : Caller Producer}
    (idle : s.calls caller = .idle) : messagesOf caller s.pushed = messagesOf caller s.entered := by
  have ordered := order caller
  have counted := (split caller).length_eq
  rw [refused] at counted
  simp only [idle, unpushed, messages_of_nil, List.append_nil] at ordered counted
  exact ordered.eq_of_length counted.symm

theorem drained_of_rests {s : State Producer Message} (serving : InService s)
    (rests : ∀ action, serves action = true → step s action = none) : Drained s := by
  have reached := reached_of_reached_under serving.reached
  have nested := reached_calls_nested reached
  have constructed := construct_rests (rests .construct rfl)
  have free : s.messageDispatcherMutex = none := by
    cases mutex : s.messageDispatcherMutex with
    | none => rfl
    | some owner =>
        have holds := (reached_exclusive reached owner).mp mutex
        cases owner with
        | worker =>
            obtain ⟨site, msg, here, waiting⟩ :=
              worker_holder_rests nested holds (rests .worker rfl) (rests (.call .worker) rfl)
            have returns := log_returns_under (fun _ _ => And.right) serving.reached
            exact absurd ⟨site, msg, here, waiting, mutex⟩
              (log_returns_lets_go (reached_exclusive reached) returns)
        | caller caller =>
            obtain ⟨after, taken⟩ := call_holder_moves holds
            rw [rests (.call caller) rfl] at taken
            cases taken
        | destructor =>
            simp only [Holds, serving.alive] at holds
            cases holds
  have idle : ∀ caller, s.calls caller = .idle := by
    intro caller
    obtain idle | ⟨msg, -, held⟩ := call_rests (rests (.call caller) rfl)
    · exact idle
    · exact absurd free held
  have asleep : s.worker = .blocked := by
    obtain unstarted | asleep | ended :=
      worker_rests nested free (idle .worker) (rests .worker rfl)
    · have pending := reached_worker_started reached unstarted
      rw [constructed] at pending
      cases pending
    · exact asleep
    · have lives := in_service_lives serving
      rw [ended] at lives
      cases lives
  have empty : s.messageDispatcherQueue = [] := by
    obtain empty | ⟨caller, ahead⟩ := (reached_pushes_announced reached).asleep asleep
    · exact empty
    · rw [idle caller] at ahead
      simp at ahead
  have conserved := reached_conserved reached
  refine ⟨asleep, empty, idle, ?_, fun caller => ?_⟩
  · unfold Conserved at conserved
    simpa [asleep, popped, empty] using conserved
  · exact pushed_of_idle (reached_call_order reached) (reached_calls_split reached)
      (reached_none_refused reached (by rw [serving.alive]; rfl)) (idle caller)

theorem serving_moves {s : State Producer Message} (serving : InService s)
    (waiting : ¬ Drained s) :
    ∃ action after, (TestsSettledFlag s action ∧ serves action = true) ∧
      step s action = some after := by
  have moves : ∃ action after, serves action = true ∧ step s action = some after := by
    by_contra none_moves
    apply waiting
    apply drained_of_rests serving
    intro action served
    cases taken : step s action with
    | none => rfl
    | some after => exact absurd ⟨action, after, served, taken⟩ none_moves
  obtain ⟨action, after, served, taken⟩ := moves
  by_cases settled : TestsSettledFlag s action
  · exact ⟨action, after, ⟨settled, served⟩, taken⟩
  · -- the constructor goes first, for it has the flag to initialise
    simp only [TestsSettledFlag, Classical.not_imp] at settled
    obtain ⟨-, -, pending, -⟩ := settled
    cases remaining : s.uninitialised with
    | nil =>
        rw [remaining] at pending
        cases pending
    | cons member rest =>
        refine ⟨.construct, initialise member { s with uninitialised := rest }, ⟨?_, rfl⟩, ?_⟩
        · exact fun same => by cases same
        · simp [step, constructorStep, remaining]

theorem serving_keeps {s t : State Producer Message} {action : Choice Producer Message}
    (serving : InService s) (allowed : TestsSettledFlag s action)
    (served : serves action = true) (taken : step s action = some t) : InService t := by
  have inside : internal action = true := by
    cases action <;> first | rfl | cases served
  refine ⟨.next serving.reached ⟨allowed, internal_unlocked s inside⟩ taken, ?_⟩
  have waits := serving.alive
  cases step_transition taken with
  | @construct member rest next => cases member <;> exact waits
  | destructorStart | storeExit | notifyAllWakes | notifyAllLost | join | destructorLock
  | countNone | countLost | lostLog | lostLogged | destructorUnlock => cases served
  | _ => exact waits

/-- Without further calls and as long as the destructor does not begin, the worker
hands over every message that was ever passed in, whatever the threads do. -/
theorem messages_are_delivered {s : State Producer Message} (serving : InService s) :
    Inevitable (system Producer Message)
      (fun state action => TestsSettledFlag state action ∧ serves action = true) Drained s := by
  refine inevitable_of_ranking (ranking Producer Message) InService Drained ?_ ?_ ?_ ?_ serving
  · exact fun _ within => reached_of_reached_under within.reached
  · exact fun _ _ _ within permitted taken => serving_keeps within permitted.1 permitted.2 taken
  · intro state action permitted
    cases action with
    | enter | spuriousWakeup => cases permitted.2
    | _ => rfl
  · exact fun _ => serving_moves

/-- The worker is asleep and the message in the queue is still to be announced. -/
theorem message_behind_sleeping_worker_is_delivered :
    ∃ s : State Nat Nat,
      execute (system Nat Nat) (initial true false) pushWhileBlockedSchedule = some s ∧
      s.worker = .blocked ∧ s.messageDispatcherQueue = [5] ∧
      Inevitable (system Nat Nat)
        (fun state action => TestsSettledFlag state action ∧ serves action = true) Drained s := by
  refine ⟨_, rfl, rfl, rfl, messages_are_delivered ⟨?_, rfl⟩⟩
  exact reached_under_of_execute pushWhileBlockedSchedule (.start ⟨true, false, rfl⟩)
    (by decide) rfl

end Delivery

end IMqtt.DispatchQueue.Completion
