import IMqtt.DispatchQueue.ExitFlag
import IMqtt.DispatchQueue.Fifo

/-!
# Notifications of `messageDispatcherAwaiter`

The worker tests its predicate and blocks in two steps. `OnMqttMessage` pushes
under the mutex the worker holds in between, so the push cannot fall into that
window and its notification finds the worker blocked or awake. The destructor
stores the exit flag and notifies without the mutex: its notification can fall
into the window, and nothing else wakes the worker then.
-/

namespace IMqtt.DispatchQueue.Wakeup

open IMqtt.DispatchQueue.Model IMqtt.DispatchQueue.Transitions
open IMqtt.DispatchQueue.Locking IMqtt.DispatchQueue.ExitFlag
open IMqtt.DispatchQueue.Fifo LabelledSteps

set_option autoImplicit false

universe u v

variable {Producer : Type u} {Message : Type v}

/-- A call has pushed its message and its `notify_one` is still to come. -/
def NotificationAhead (s : State Producer Message) : Prop :=
  ∃ caller, s.calls caller = .unlock ∨ s.calls caller = .notifyOne

structure PushesAnnounced (s : State Producer Message) : Prop where
  window : s.worker = .block → s.messageDispatcherQueue = []
  asleep : s.worker = .blocked →
    s.messageDispatcherQueue = [] ∨ NotificationAhead s

variable [DecidableEq Producer]

theorem notification_ahead_move {s t : State Producer Message}
    {caller : Caller Producer} {pc : CallPc Message}
    (ahead : NotificationAhead s) (unlocking : s.calls caller ≠ .unlock)
    (notifying : s.calls caller ≠ .notifyOne)
    (calls : t.calls = Function.update s.calls caller pc) :
    NotificationAhead t := by
  obtain ⟨other, position⟩ := ahead
  have different : other ≠ caller := by
    intro same
    subst same
    exact position.elim unlocking notifying
  exact ⟨other, by rw [calls, Function.update_of_ne different]; exact position⟩

/-- A call that moves up to its push changes neither the queue nor the
worker. -/
theorem pushes_announced_move {s t : State Producer Message}
    {caller : Caller Producer} {pc : CallPc Message}
    (before : PushesAnnounced s) (unlocking : s.calls caller ≠ .unlock)
    (notifying : s.calls caller ≠ .notifyOne)
    (calls : t.calls = Function.update s.calls caller pc)
    (worker : t.worker = s.worker)
    (queue : t.messageDispatcherQueue = s.messageDispatcherQueue) :
    PushesAnnounced t := by
  constructor
  · intro here
    rw [queue]
    exact before.window (worker ▸ here)
  · intro here
    obtain empty | ahead := before.asleep (worker ▸ here)
    · exact .inl (queue.trans empty)
    · exact .inr (notification_ahead_move ahead unlocking notifying calls)

omit [DecidableEq Producer] in
theorem pushes_announced_initialiser {s : State Producer Message}
    {member : Member} {rest : List Member} (before : PushesAnnounced s) :
    PushesAnnounced (initialise member { s with uninitialised := rest }) := by
  have window := before.window
  have asleep := before.asleep
  cases member
  case messageDispatcherQueue => exact ⟨fun _ => rfl, fun _ => .inl rfl⟩
  case messageDispatcherThread =>
    exact ⟨fun here => by simp [initialise] at here,
      fun here => by simp [initialise] at here⟩
  all_goals exact ⟨window, asleep⟩

theorem pushes_announced_step {s t : State Producer Message}
    {action : Choice Producer Message} (locking : Exclusive s)
    (before : PushesAnnounced s) (transition : Transition s action t) :
    PushesAnnounced t := by
  cases transition with
  | construct next => exact pushes_announced_initialiser before
  | waitFalse here empty exit => exact ⟨fun _ => empty, fun _ => .inl empty⟩
  | block here => exact ⟨fun _ => before.window here, fun _ => .inl (before.window here)⟩
  | @push caller msg here =>
      constructor
      · intro blocking
        -- the worker holds the mutex in the window, the call holds it here
        have same := MutexDiscipline.inside_unique locking
          .worker (.caller caller)
          (by rw [Holds, blocking]; rfl) (by rw [Holds, here]; rfl)
        cases same
      · intro _
        exact .inr ⟨caller, by simp⟩
  | @callUnlock caller here =>
      constructor
      · exact before.window
      · intro _
        exact .inr ⟨caller, by simp⟩
  | notifyOneWakes here waiting =>
      exact ⟨fun blocking => by simp at blocking, fun asleep => by simp at asleep⟩
  | notifyOneLost here away =>
      exact ⟨before.window, fun asleep => absurd asleep away⟩
  | enter here | exitSeen here | exitUnseen here | callLock here =>
      exact pushes_announced_move before (by simp [here]) (by simp [here])
        rfl rfl rfl
  | @workerLogged site here =>
      constructor <;> intro impossible <;> cases site <;>
        simp [WorkerLog.next] at impossible
  | workerLog here | workerLock here | loopLeave here | loopBody here
  | waitReady here | relockWait here | ifTake here | ifSkip here | pop here
  | unlock here | handOver here | handlerReturned here | relock here
  | unlockExit here | spurious here | notifyAllWakes here =>
      constructor <;> intro impossible <;> simp at impossible
  | _ => exact ⟨before.window, before.asleep⟩

theorem reached_pushes_announced {s : State Producer Message}
    (reached : Reached (system Producer Message) s) : PushesAnnounced s := by
  refine invariant_of_step PushesAnnounced ?_ ?_ reached
  · rintro _ ⟨logCb, priorExit, rfl⟩
    exact ⟨fun _ => rfl, fun _ => .inl rfl⟩
  · intro s action t reached before _ taken
    exact pushes_announced_step (reached_exclusive reached) before
      (step_transition taken)

/-- While the worker is blocked, a queued message has a `notify_one` ahead of
it, and a message that was not handed over has a call that is not finished. -/
theorem queued_message_keeps_notification {s : State Producer Message}
    (reached : Reached (system Producer Message) s)
    (asleep : s.worker = .blocked) :
    (s.messageDispatcherQueue ≠ [] → NotificationAhead s) ∧
      (s.handed.length < s.pushed.length → ∃ caller, s.calls caller ≠ .idle) := by
  have announced : s.messageDispatcherQueue ≠ [] → NotificationAhead s := by
    intro filled
    obtain empty | ahead := (reached_pushes_announced reached).asleep asleep
    · exact absurd empty filled
    · exact ahead
  refine ⟨announced, fun undelivered => ?_⟩
  have conserved := congrArg List.length (reached_conserved reached)
  have filled : s.messageDispatcherQueue ≠ [] := by
    intro empty
    simp only [asleep, popped, empty, List.length_map, List.append_nil]
      at conserved
    omega
  obtain ⟨caller, position⟩ := announced filled
  refine ⟨caller, fun idle => ?_⟩
  rw [idle] at position
  simp at position

/-- The worker blocks on an empty queue, then a producer pushes. -/
def pushWhileBlockedSchedule : List (Choice Nat Nat) :=
  List.replicate 7 .construct ++ List.replicate 8 .worker ++
    .enter (.producer 0) 5 :: List.replicate 3 (.call (.producer 0))

theorem push_while_blocked_keeps_notification :
    ∃ s : State Nat Nat,
      execute (system Nat Nat) (initial true false) pushWhileBlockedSchedule =
        some s ∧
      s.worker = .blocked ∧ s.messageDispatcherQueue = [5] ∧
      (s.messageDispatcherQueue ≠ [] → NotificationAhead s) ∧
      (s.handed.length < s.pushed.length → ∃ caller, s.calls caller ≠ .idle) :=
  ⟨_, rfl, rfl, rfl, queued_message_keeps_notification
    (reached_of_execute pushWhileBlockedSchedule (.start ⟨true, false, rfl⟩)
      rfl) rfl⟩

/-- The call is past its exit test and its `notify_one` is still to come. -/
def notifies : CallPc Message → Bool
  | .lock _ | .push _ | .unlock | .notifyOne => true
  | .idle | .exitTest _ => false

/-- The destructor waits for a worker that nothing will wake. -/
structure MissedWakeup (s : State Producer Message) : Prop where
  joining : s.destructor = .join
  exit : s.messageDispatcherExit = true
  asleep : s.worker = .blocked
  silent : ∀ caller, notifies (s.calls caller) = false

/-- The destructor does not notify while the worker stands between a false
predicate test and the block that follows it. -/
def NotifiesOutsideWindow (s : State Producer Message)
    (action : Choice Producer Message) : Prop :=
  action = .destructor → s.destructor = .notifyAll → s.worker ≠ .block

instance [DecidableEq Message] (s : State Producer Message)
    (action : Choice Producer Message) :
    Decidable (NotifiesOutsideWindow s action) :=
  inferInstanceAs (Decidable (_ → _ → _))

/-- The destructor is past `notify_all`. -/
def notified : DestructorPc → Bool
  | .notStarted | .storeExit | .notifyAll => false
  | _ => true

theorem stored_of_notified {destructor : DestructorPc}
    (done : notified destructor = true) : stored destructor = true := by
  cases destructor <;> simp_all [notified, stored]

def AwakeOnceNotified (s : State Producer Message) : Prop :=
  notified s.destructor = true → s.worker ≠ .block ∧ s.worker ≠ .blocked

theorem awake_once_notified_step {s t : State Producer Message}
    {action : Choice Producer Message} (building : Constructing s)
    (flag : FlagWrites s) (before : AwakeOnceNotified s)
    (allowed : NotifiesOutsideWindow s action)
    (transition : Transition s action t) : AwakeOnceNotified t := by
  cases transition with
  | @construct member rest next =>
      have waiting := building.destructorWaits (by simp [next])
      intro done
      have same : (initialise member { s with uninitialised := rest }).destructor =
          s.destructor := by cases member <;> rfl
      rw [same, waiting] at done
      cases done
  | waitFalse here empty exit =>
      intro done
      have set := flag.ofStored (stored_of_notified done)
      rw [exit] at set
      cases set
  | block here => exact fun done => absurd here (before done).1
  | notifyAllLost here away => exact fun _ => ⟨allowed rfl here, away⟩
  | @workerLogged site here =>
      intro _
      cases site <;> simp [WorkerLog.next]
  | workerLog here | workerLock here | loopLeave here | loopBody here
  | waitReady here | relockWait here | ifTake here | ifSkip here | pop here
  | unlock here | handOver here | handlerReturned here | relock here
  | unlockExit here | spurious here | notifyOneWakes here
  | notifyAllWakes here => exact fun _ => ⟨by simp, by simp⟩
  | destructorStart here | storeExit here =>
      intro done
      simp [notified] at done
  | join here | destructorLock here | countNone here | countLost here
  | lostLog here | lostLogged here | destructorUnlock here =>
      exact fun _ => before (by rw [here]; rfl)
  | _ => exact before

/-- The notification is lost in the window: the worker blocks next. -/
theorem notification_in_window_is_missed {s t : State Producer Message}
    (reached : Reached (system Producer Message) s)
    (taken : step s .destructor = some t)
    (inside : ¬ NotifiesOutsideWindow s .destructor)
    (silent : ∀ caller, notifies (s.calls caller) = false) :
    ∃ u, step t .worker = some u ∧ MissedWakeup u := by
  simp only [NotifiesOutsideWindow, Classical.not_imp, ne_eq, not_not] at inside
  obtain ⟨-, here, blocking⟩ := inside
  have set := (reached_flag_writes reached).ofStored (by rw [here]; rfl)
  have next : t = { s with destructor := .join } := by
    simpa [step, destructorStep, State.notify, here, blocking] using taken.symm
  subst next
  refine ⟨_, by simp [step, workerStep, blocking]; rfl, ?_⟩
  exact ⟨rfl, set, rfl, silent⟩

/-- The destructor never joins a worker that nothing will wake in a run whose
`notify_all` keeps out of the window; inside it, with no other notification
left, the next step of the worker is the hang. -/
theorem shutdown_misses_no_wakeup :
    (∀ s : State Producer Message,
      ReachedUnder (system Producer Message) NotifiesOutsideWindow s →
        ¬ MissedWakeup s) ∧
    ∀ s t : State Producer Message, Reached (system Producer Message) s →
      step s .destructor = some t → ¬ NotifiesOutsideWindow s .destructor →
      (∀ caller, notifies (s.calls caller) = false) →
        ∃ u, step t .worker = some u ∧ MissedWakeup u := by
  constructor
  · intro s reached missed
    have awake : AwakeOnceNotified s := by
      refine invariant_of_step AwakeOnceNotified ?_ ?_ reached
      · rintro _ ⟨logCb, priorExit, rfl⟩ done
        simp [initial, notified] at done
      · intro s action t reached before allowed taken
        have within := reached_of_reached_under reached
        exact awake_once_notified_step (reached_constructing within)
          (reached_flag_writes within) before allowed (step_transition taken)
    exact (awake (by rw [missed.joining]; rfl)).2 missed.asleep
  · intro s t reached taken inside silent
    exact notification_in_window_is_missed reached taken inside silent

/-- The destructor notifies after the worker has blocked. -/
def notifyBlockedSchedule : List (Choice Nat Nat) :=
  List.replicate 7 .construct ++ List.replicate 8 .worker ++
    List.replicate 3 .destructor

theorem notify_blocked_misses_no_wakeup :
    ∃ s : State Nat Nat,
      execute (system Nat Nat) (initial true false) notifyBlockedSchedule =
        some s ∧
      s.destructor = .join ∧ s.worker = .relockWait ∧ ¬ MissedWakeup s :=
  ⟨_, rfl, rfl, rfl, shutdown_misses_no_wakeup.1 _
    (reached_under_of_execute notifyBlockedSchedule (.start ⟨true, false, rfl⟩)
      (by decide) rfl)⟩

/-- The destructor notifies between the test and the block. -/
def notifyInWindowSchedule : List (Choice Nat Nat) :=
  List.replicate 7 .construct ++ List.replicate 7 .worker ++
    List.replicate 3 .destructor ++ [.worker]

theorem shutdown_may_miss_wakeup :
    ∃ s : State Nat Nat,
      execute (system Nat Nat) (initial true false) notifyInWindowSchedule =
        some s ∧ MissedWakeup s :=
  ⟨_, rfl, ⟨rfl, rfl, rfl, fun _ => rfl⟩⟩

/-- Only a spurious wake-up ends the hang. -/
theorem missed_wakeup_persists {s t : State Producer Message}
    {action : Choice Producer Message} (missed : MissedWakeup s)
    (constructed : s.uninitialised = []) (taken : step s action = some t)
    (forced : action ≠ .spuriousWakeup) : MissedWakeup t := by
  obtain ⟨joining, exit, asleep, silent⟩ := missed
  have quiet : ∀ {caller : Caller Producer} {pc : CallPc Message},
      notifies pc = false → ∀ other,
      notifies (Function.update s.calls caller pc other) = false := by
    intro caller pc quiet other
    by_cases own : other = caller
    · subst own
      simpa using quiet
    · simpa [own] using silent other
  cases step_transition taken with
  | enter here | exitSeen here => exact ⟨joining, exit, asleep, quiet rfl⟩
  | @callLock caller msg here | @push caller msg here =>
      have impossible := silent caller
      rw [here] at impossible
      cases impossible
  | @callUnlock caller here | @notifyOneWakes caller here
  | @notifyOneLost caller here =>
      have impossible := silent caller
      rw [here] at impossible
      cases impossible
  | _ => simp_all

end IMqtt.DispatchQueue.Wakeup
