import IMqtt.Library.Ranking
import IMqtt.Sample.Deadlock

/-!
# The sample ends after an interrupt

`Run` calls on the client what it has to, in order. A signal that comes to the
main thread while it does not hold the mutex, or to another thread that is not
writing a line, leads to the end of `Run` under every schedule.
-/

namespace IMqtt.Sample.Exit

open IMqtt.Sample.Main IMqtt.Sample.Deadlock LabelledSteps

set_option autoImplicit false

universe u

variable {Other : Type u}

/-! The calls on the client. -/

def callsOf (statements : List Statement) : List ClientCall :=
  statements.filterMap fun statement =>
    match statement with
    | .call made => some made
    | .log | .sleep => none

theorem calls_of_lines (count : Nat) : callsOf (List.replicate count .log) = [] := by
  induction count with
  | zero => rfl
  | succ count ih =>
      rw [List.replicate_succ]
      exact ih

theorem calls_of_append (before after : List Statement) :
    callsOf (before ++ after) = callsOf before ++ callsOf after := List.filterMap_append

theorem calls_of_client_call (lines : Lines) (made : ClientCall) :
    callsOf (clientCall lines made) = [made] := by
  have later : callsOf (.call made :: List.replicate (lines made).2 .log) = [made] :=
    congrArg (made :: ·) (calls_of_lines (lines made).2)
  rw [clientCall, calls_of_append, calls_of_lines, later]
  rfl

def callsIn : Part → List ClientCall
  | .connecting => [.getLibVersion, .connectAsync]
  | .disconnecting => [.unSubscribeAsync, .disconnectAsync]

theorem calls_of_program (lines : Lines) (part : Part) :
    callsOf (program lines part) = callsIn part := by
  cases part with
  | connecting =>
      have later : callsOf (.log :: clientCall lines .connectAsync) = [.connectAsync] :=
        calls_of_client_call lines .connectAsync
      rw [program, calls_of_append, calls_of_client_call, later]
      rfl
  | disconnecting =>
      have later : callsOf (.log :: .sleep :: clientCall lines .disconnectAsync) =
          [.disconnectAsync] := calls_of_client_call lines .disconnectAsync
      rw [program, calls_of_append, calls_of_client_call, later]
      rfl

/-- The calls of the parts behind this one. -/
def callsBehind : Part → List ClientCall
  | .connecting => callsIn .disconnecting
  | .disconnecting => []

/-- What `Run` has still to call. -/
def ahead : Run → List ClientCall
  | .lock => callsIn .connecting ++ callsIn .disconnecting
  | .statements part rest | .printing part rest => callsOf rest ++ callsBehind part
  | .test | .block | .blocked | .relock => callsIn .disconnecting
  | .finished => []

def InOrder (s : State Other) : Prop :=
  s.calls ++ ahead s.run = callsIn .connecting ++ callsIn .disconnecting

theorem ahead_woken (run : Run) : ahead run.woken = ahead run := by
  cases run <;> rfl

variable [DecidableEq Other]

theorem in_order_step {lines : Lines} {s t : State Other} {action : Action Other}
    (order : InOrder s) (transition : Transition lines s action t) : InOrder t := by
  have moved : ∀ {t : State Other}, t.calls = s.calls → ahead t.run = ahead s.run →
      InOrder t := by
    intro t calls same
    unfold InOrder
    rw [calls, same]
    exact order
  cases transition with
  | lock own here free =>
      refine moved rfl ?_
      rw [here]
      exact congrArg (· ++ callsIn .disconnecting) (calls_of_program lines .connecting)
  | testSet own here flag =>
      refine moved rfl ?_
      rw [here]
      exact (List.append_nil _).trans (calls_of_program lines .disconnecting)
  | @call part made rest own here =>
      unfold InOrder at order ⊢
      rw [here] at order
      rw [List.append_assoc]
      exact order
  | notifyAll here =>
      refine moved rfl ?_
      exact ahead_woken s.run
  | sleep own here | print own here _ | printed own here | wait own here | unlock own here
  | testUnset own here _ | block own here | relock own here _ | spuriousWakeup here =>
      refine moved rfl ?_
      rw [here]
      rfl
  | handlerLock | store | handlerUnlock | logLock | logged | signal | enterLog => exact order

theorem reached_in_order {lines : Lines} {s : State Other}
    (reached : Reached (system Other lines) s) : InOrder s := by
  apply invariant_of_step InOrder _ _ reached
  · intro start begins
    have empty : start = {} := begins
    rw [empty]
    rfl
  · intro before action after _ order _ taken
    exact in_order_step order (step_transition taken)

/-! What is left to do. -/

def work : List Statement → Nat
  | [] => 0
  | .log :: rest => work rest + 2
  | .call _ :: rest | .sleep :: rest => work rest + 1

/-- The statements of `Run` up to its end, for a `Run` that waits once more. -/
def runRank (lines : Lines) : Run → Nat
  | .lock => work (program lines .connecting) + work (program lines .disconnecting) + 6
  | .statements .connecting rest => work rest + work (program lines .disconnecting) + 5
  | .printing .connecting rest => work rest + work (program lines .disconnecting) + 6
  | .relock => work (program lines .disconnecting) + 5
  | .test => work (program lines .disconnecting) + 4
  | .block => work (program lines .disconnecting) + 3
  | .blocked => work (program lines .disconnecting) + 2
  | .statements .disconnecting rest => work rest + 1
  | .printing .disconnecting rest => work rest + 2
  | .finished => 0

/-- A notification may send `Run` round its wait. -/
def handlerRank : Handler → Nat
  | .idle => 0
  | .unlock => 1
  | .notifyAll => 5
  | .store => 6
  | .lock => 7

def logRank : Log → Nat
  | .idle => 0
  | .printing => 1
  | .lock => 2

def rank (lines : Lines) (s : State Other) : Nat :=
  runRank lines s.run + (s.signalled.sum fun thread => handlerRank (s.handler thread)) +
    s.logged.sum fun thread => logRank (s.log thread)

def paid : Action Other → Nat
  | .signal _ => 8
  | .enterLog _ => 3
  | .spuriousWakeup => 4
  | .run | .handler _ | .log _ => 0

omit [DecidableEq Other] in
theorem woken_rank_le (lines : Lines) (run : Run) :
    runRank lines run.woken ≤ runRank lines run + 3 := by
  cases run <;> simp [Run.woken, runRank]

/-- Who is in a handler has taken a signal, and who logs has called `Log`. -/
structure Known (s : State Other) : Prop where
  signalled : ∀ thread, s.handler thread ≠ .idle → thread ∈ s.signalled
  logged : ∀ thread, s.log thread ≠ .idle → thread ∈ s.logged

theorem known_handler {s t : State Other} {thread : Thread Other} {position : Handler}
    (known : Known s) (busy : s.handler thread ≠ .idle)
    (handler : t.handler = Function.update s.handler thread position)
    (signalled : t.signalled = s.signalled) (log : t.log = s.log) (logged : t.logged = s.logged) :
    Known t := by
  constructor
  · rw [handler, signalled,
      Function.forall_update_iff s.handler fun other here => here ≠ .idle → other ∈ s.signalled]
    exact ⟨fun _ => known.signalled thread busy, fun other _ => known.signalled other⟩
  · rw [log, logged]
    exact known.logged

theorem known_log {s t : State Other} {thread : Other} {position : Log} (known : Known s)
    (busy : s.log thread ≠ .idle) (log : t.log = Function.update s.log thread position)
    (logged : t.logged = s.logged) (handler : t.handler = s.handler)
    (signalled : t.signalled = s.signalled) : Known t := by
  constructor
  · rw [handler, signalled]
    exact known.signalled
  · rw [log, logged,
      Function.forall_update_iff s.log fun other here => here ≠ .idle → other ∈ s.logged]
    exact ⟨fun _ => known.logged thread busy, fun other _ => known.logged other⟩

theorem known_step {lines : Lines} {s t : State Other} {action : Action Other} (known : Known s)
    (transition : Transition lines s action t) : Known t := by
  cases transition with
  | handlerLock here _ | store here | notifyAll here | handlerUnlock here =>
      refine known_handler known ?_ rfl rfl rfl rfl
      rw [here]
      exact Handler.noConfusion
  | logLock own here _ | logged own here =>
      refine known_log known ?_ rfl rfl rfl rfl
      rw [here]
      exact Log.noConfusion
  | @signal thread here =>
      refine ⟨?_, known.logged⟩
      apply (Function.forall_update_iff s.handler fun other here =>
        here ≠ .idle → other ∈ insert thread s.signalled).mpr
      constructor
      · exact fun _ => Finset.mem_insert_self thread s.signalled
      · exact fun other _ busy => Finset.mem_insert_of_mem (known.signalled other busy)
  | @enterLog thread own here =>
      refine ⟨known.signalled, ?_⟩
      apply (Function.forall_update_iff s.log fun other here =>
        here ≠ .idle → other ∈ insert thread s.logged).mpr
      constructor
      · exact fun _ => Finset.mem_insert_self thread s.logged
      · exact fun other _ busy => Finset.mem_insert_of_mem (known.logged other busy)
  | lock | call | sleep | print | printed | wait | unlock | testSet | testUnset | block
  | relock | spuriousWakeup => exact ⟨known.signalled, known.logged⟩

theorem reached_known {lines : Lines} {s : State Other}
    (reached : Reached (system Other lines) s) : Known s := by
  apply invariant_of_step Known _ _ reached
  · intro start begins
    have empty : start = {} := begins
    rw [empty]
    exact ⟨fun _ busy => absurd rfl busy, fun _ busy => absurd rfl busy⟩
  · intro before action after _ known _ taken
    exact known_step known (step_transition taken)

section Lower

variable {lines : Lines} {s t : State Other}

omit [DecidableEq Other] in
theorem rank_run (lower : runRank lines t.run < runRank lines s.run)
    (handler : t.handler = s.handler) (signalled : t.signalled = s.signalled)
    (log : t.log = s.log) (logged : t.logged = s.logged) :
    rank lines t + 1 ≤ rank lines s := by
  rw [rank, rank, handler, signalled, log, logged]
  omega

theorem rank_handler {thread : Thread Other} {position : Handler} (known : Known s)
    (busy : s.handler thread ≠ .idle)
    (lower : runRank lines t.run + handlerRank position <
      runRank lines s.run + handlerRank (s.handler thread))
    (handler : t.handler = Function.update s.handler thread position)
    (signalled : t.signalled = s.signalled) (log : t.log = s.log) (logged : t.logged = s.logged) :
    rank lines t + 1 ≤ rank lines s := by
  have moved := sum_rank_update handlerRank s.handler (known.signalled thread busy) position
  rw [rank, rank, handler, signalled, log, logged]
  omega

theorem rank_log {thread : Other} {position : Log} (known : Known s)
    (busy : s.log thread ≠ .idle) (lower : logRank position < logRank (s.log thread))
    (log : t.log = Function.update s.log thread position) (logged : t.logged = s.logged)
    (run : t.run = s.run) (handler : t.handler = s.handler)
    (signalled : t.signalled = s.signalled) : rank lines t + 1 ≤ rank lines s := by
  have moved := sum_rank_update logRank s.log (known.logged thread busy) position
  rw [rank, rank, run, handler, signalled, log, logged]
  omega

end Lower

theorem rank_step {lines : Lines} {s t : State Other} {action : Action Other} (known : Known s)
    (transition : Transition lines s action t) :
    rank lines t + 1 ≤ rank lines s + paid action := by
  cases transition with
  | lock own here _ | wait own here | testSet own here _ | testUnset own here _
  | block own here | relock own here _ | unlock own here =>
      refine rank_run ?_ rfl rfl rfl rfl
      simp only [here, runRank]
      omega
  | @call part made rest own here | @sleep part rest own here | @print part rest own here _
  | @printed part rest own here =>
      refine rank_run ?_ rfl rfl rfl rfl
      cases part <;> simp only [here, runRank, work] <;> omega
  | handlerLock here _ | store here | handlerUnlock here =>
      refine rank_handler known (by rw [here]; exact Handler.noConfusion) ?_ rfl rfl rfl rfl
      simp [here, handlerRank, State.handling]
  | notifyAll here =>
      have woken := woken_rank_le lines s.run
      refine rank_handler known (by rw [here]; exact Handler.noConfusion) ?_ rfl rfl rfl rfl
      simp only [here, handlerRank]
      omega
  | logLock own here _ | logged own here =>
      refine rank_log known (by rw [here]; exact Log.noConfusion) ?_ rfl rfl rfl rfl rfl
      simp [here, logRank]
  | @signal thread here =>
      have nothing : handlerRank (s.handler thread) = 0 := by rw [here]; rfl
      have joined := sum_rank_join handlerRank nothing s.signalled Handler.lock
      have share : handlerRank .lock = 7 := rfl
      simp only [rank, paid, State.handling, joined]
      omega
  | @enterLog thread own here =>
      have nothing : logRank (s.log thread) = 0 := by rw [here]; rfl
      have joined := sum_rank_join logRank nothing s.logged Log.lock
      have share : logRank .lock = 2 := rfl
      simp only [rank, paid, State.logging, joined]
      omega
  | spuriousWakeup here =>
      simp only [rank, paid, here, runRank]
      omega

def ranking (Other : Type u) [DecidableEq Other] (lines : Lines) :
    Ranking (system Other lines) where
  rank := rank lines
  paid := paid
  lowers _ _ _ reached taken := rank_step (reached_known reached) (step_transition taken)

/-! Signals that find their mutex. -/

/-- No signal comes to the main thread while `Run` holds the mutex, or to a
thread that is writing a line. -/
def Deliverable (s : State Other) : Action Other → Prop
  | .signal .main => holds s.run = false
  | .signal (.other thread) => s.log thread ≠ .printing
  | _ => True

instance (s : State Other) : ∀ action, Decidable (Deliverable s action)
  | .signal .main => inferInstanceAs (Decidable (holds s.run = false))
  | .signal (.other thread) => inferInstanceAs (Decidable (s.log thread ≠ .printing))
  | .run | .handler _ | .log _ | .enterLog _ | .spuriousWakeup => .isTrue trivial

/-- A thread in the handler has been interrupted outside the two scopes. -/
structure Apart (s : State Other) : Prop where
  main : s.handler .main ≠ .idle → holds s.run = false
  other : ∀ thread, s.handler (.other thread) ≠ .idle → s.log thread ≠ .printing

omit [DecidableEq Other] in
theorem apart_run {s t : State Other} (apart : Apart s) (own : s.handler .main = .idle)
    (handler : t.handler = s.handler) (log : t.log = s.log) : Apart t := by
  constructor
  · intro busy
    rw [handler, own] at busy
    exact absurd rfl busy
  · rw [handler, log]
    exact apart.other

theorem apart_handler {s t : State Other} {thread : Thread Other} {position : Handler}
    (apart : Apart s) (busy : s.handler thread ≠ .idle)
    (handler : t.handler = Function.update s.handler thread position) (log : t.log = s.log)
    (run : holds t.run = holds s.run) : Apart t := by
  have before : ∀ other, t.handler other ≠ .idle → s.handler other ≠ .idle := by
    rw [handler, Function.forall_update_iff s.handler fun other here =>
      here ≠ .idle → s.handler other ≠ .idle]
    exact ⟨fun _ => busy, fun other _ here => here⟩
  constructor
  · intro here
    rw [run]
    exact apart.main (before .main here)
  · intro other here
    rw [log]
    exact apart.other other (before (.other other) here)

theorem apart_log {s t : State Other} {thread : Other} {position : Log} (apart : Apart s)
    (own : s.handler (.other thread) = .idle)
    (log : t.log = Function.update s.log thread position) (handler : t.handler = s.handler)
    (run : t.run = s.run) : Apart t := by
  constructor
  · rw [handler, run]
    exact apart.main
  · rw [handler, log, Function.forall_update_iff s.log fun other here =>
      s.handler (.other other) ≠ .idle → here ≠ .printing]
    exact ⟨fun busy => absurd own busy, fun other _ => apart.other other⟩

theorem apart_step {lines : Lines} {s t : State Other} {action : Action Other} (apart : Apart s)
    (deliverable : Deliverable s action) (transition : Transition lines s action t) :
    Apart t := by
  cases transition with
  | lock own | call own | sleep own | print own | printed own | wait own | unlock own
  | testSet own | testUnset own | block own | relock own => exact apart_run apart own rfl rfl
  | handlerLock here _ | store here | handlerUnlock here =>
      exact apart_handler apart (by rw [here]; exact Handler.noConfusion) rfl rfl rfl
  | notifyAll here =>
      exact apart_handler apart (by rw [here]; exact Handler.noConfusion) rfl rfl
        (woken_holds s.run)
  | logLock own | logged own | enterLog own => exact apart_log apart own rfl rfl rfl
  | spuriousWakeup here => exact ⟨fun _ => rfl, apart.other⟩
  | @signal thread here =>
      constructor
      · intro busy
        by_cases own : Thread.main = thread
        · subst own
          exact deliverable
        · have same : Function.update s.handler thread .lock .main = s.handler .main :=
            Function.update_of_ne own _ _
          exact apart.main fun idle => busy (same.trans idle)
      · intro other busy
        by_cases own : Thread.other other = thread
        · subst own
          exact deliverable
        · have same : Function.update s.handler thread .lock (.other other) =
              s.handler (.other other) := Function.update_of_ne own _ _
          exact apart.other other fun idle => busy (same.trans idle)

theorem reached_apart {lines : Lines} {s : State Other}
    (reached : ReachedUnder (system Other lines) Deliverable s) : Apart s := by
  apply invariant_of_step Apart _ _ reached
  · intro start begins
    have empty : start = {} := begins
    rw [empty]
    exact ⟨fun busy => absurd rfl busy, fun _ busy => absurd rfl busy⟩
  · intro before action after _ apart deliverable taken
    exact apart_step apart deliverable (step_transition taken)

omit [DecidableEq Other] in
theorem apart_not_deadlocked {s : State Other} (apart : Apart s) : ¬ Deadlocked s := by
  rintro (⟨inside, waits⟩ | ⟨thread, part, rest, here, prints, waits⟩)
  · have outside := apart.main (by rw [waits]; exact Handler.noConfusion)
    rw [inside] at outside
    cases outside
  · exact apart.other thread (by rw [waits]; exact Handler.noConfusion) prints

/-- The flag has been set, or a handler is going to set it. -/
def Interrupted (s : State Other) : Prop :=
  s.exitRun = true ∨ ∃ thread, s.handler thread ≠ .idle

theorem interrupted_step {lines : Lines} {s t : State Other} {action : Action Other}
    (flagged : Flagged s) (interrupted : Interrupted s)
    (transition : Transition lines s action t) : Interrupted t := by
  have busy : ∀ {thread : Thread Other} {position : Handler}, position ≠ .idle →
      ∃ other, Function.update s.handler thread position other ≠ .idle := by
    intro thread position moving
    refine ⟨thread, ?_⟩
    rw [Function.update_self]
    exact moving
  cases transition with
  | store here => exact .inl rfl
  | @handlerUnlock thread here => exact .inl (flagged.stored thread (.inr here))
  | handlerLock | notifyAll | signal => exact .inr (busy Handler.noConfusion)
  | lock | call | sleep | print | printed | wait | unlock | testSet | testUnset | block
  | relock | logLock | logged | enterLog | spuriousWakeup => exact interrupted

/-- `Run` has returned, having made its calls, and no thread is in the handler or
in `Log`. -/
def Ended (s : State Other) : Prop :=
  Finished s ∧ s.calls = [.getLibVersion, .connectAsync, .unSubscribeAsync, .disconnectAsync]

theorem ended_of_finished {lines : Lines} {s : State Other}
    (reached : Reached (system Other lines) s) (finished : Finished s) : Ended s := by
  have order := reached_in_order reached
  unfold InOrder at order
  rw [finished.1, ahead, List.append_nil] at order
  exact ⟨finished, order⟩

structure Leaving (lines : Lines) (s : State Other) : Prop where
  reached : ReachedUnder (system Other lines) Deliverable s
  interrupted : Interrupted s

theorem leaving_moves {lines : Lines} {s : State Other} (leaving : Leaving lines s)
    (running : ¬ Ended s) :
    ∃ action after, internal action = true ∧ step lines s action = some after := by
  have within := reached_of_reached_under leaving.reached
  have moving : ¬ Stopped lines s := by
    intro stopped
    obtain finished | ⟨-, unset, quiet⟩ | deadlocked := stopped_cases within stopped
    · exact running (ended_of_finished within finished)
    · obtain set | ⟨thread, busy⟩ := leaving.interrupted
      · rw [unset] at set
        cases set
      · exact busy (quiet.handlers thread)
    · exact apart_not_deadlocked (reached_apart leaving.reached) deadlocked
  simp only [Stopped, not_forall] at moving
  obtain ⟨action, inside, moves⟩ := moving
  obtain ⟨after, taken⟩ := Option.ne_none_iff_exists'.mp moves
  exact ⟨action, after, inside, taken⟩

omit [DecidableEq Other] in
theorem deliverable_of_internal (s : State Other) {action : Action Other}
    (inside : internal action = true) : Deliverable s action := by
  cases action with
  | run | handler | log => trivial
  | signal | enterLog | spuriousWakeup => cases inside

theorem leaving_step {lines : Lines} {s t : State Other} {action : Action Other}
    (leaving : Leaving lines s) (inside : internal action = true)
    (taken : step lines s action = some t) : Leaving lines t := by
  have flagged := reached_flagged (reached_of_reached_under leaving.reached)
  constructor
  · exact .next leaving.reached (deliverable_of_internal s inside) taken
  · exact interrupted_step flagged leaving.interrupted (step_transition taken)

/-- Once a signal has come, `Run` ends whatever the threads do next, having
unsubscribed and disconnected once, in a run whose signals find their mutex. -/
theorem interrupt_ends_run {lines : Lines} {s : State Other}
    (reached : ReachedUnder (system Other lines) Deliverable s)
    (interrupted : Interrupted s) :
    Inevitable (system Other lines) (fun _ action => internal action = true) Ended s := by
  refine inevitable_of_ranking (ranking Other lines) (Leaving lines) Ended ?_ ?_ ?_ ?_
    ⟨reached, interrupted⟩
  · exact fun _ leaving => reached_of_reached_under leaving.reached
  · exact fun _ _ _ leaving inside taken => leaving_step leaving inside taken
  · intro state action inside
    cases action with
    | run | handler | log => rfl
    | signal | enterLog | spuriousWakeup => cases inside
  · exact fun _ => leaving_moves

/-- The signal comes to a thread of the client, with `Run` about to wait. -/
def interruptBeforeWaitSchedule : List (Action Nat) :=
  [.run, .run, .run, .run, .run, .run, .run, .enterLog 3, .signal (.other 3)]

theorem interrupt_before_wait_ends_run :
    ∃ s, execute (system Nat fun _ => (1, 1)) {} interruptBeforeWaitSchedule = some s ∧
      s.exitRun = false ∧
      Inevitable (system Nat fun _ => (1, 1)) (fun _ action => internal action = true)
        Ended s := by
  refine ⟨_, rfl, rfl, ?_⟩
  apply interrupt_ends_run
  · exact reached_under_of_execute interruptBeforeWaitSchedule (.start rfl) (by decide) rfl
  · exact .inr ⟨.other 3, by decide⟩

end IMqtt.Sample.Exit
