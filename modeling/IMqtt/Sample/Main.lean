import IMqtt.Library.LabelledSteps
import Mathlib.Data.Finset.Basic

/-!
# Sample::Run and Sample::InterruptHandler

The main thread is in `Run`. `SIGINT` comes to any thread and makes it execute
the handler in the middle of what it is doing; a thread in the handler takes no
further signal. The other threads are those of the client and of the dispatch
queue, whose callbacks write log lines. Each of the two mutexes is not recursive.
The calls on the client return, as those of the Mosquitto client do: none of them
waits for a callback. That an interrupted thread may hold a mutex inside the
library is left out.
-/

namespace IMqtt.Sample.Main

open LabelledSteps

set_option autoImplicit false

universe u

inductive Thread (Other : Type u)
  | main
  | other (thread : Other)
  deriving DecidableEq, Repr

inductive ClientCall
  | getLibVersion | connectAsync | unSubscribeAsync | disconnectAsync
  deriving DecidableEq, Repr

/-- What `Run` does between taking the mutex and giving it back. -/
inductive Statement
  | call (made : ClientCall)
  | log
  | sleep
  deriving DecidableEq, Repr

inductive Part
  | connecting | disconnecting
  deriving DecidableEq, Repr

/-- Where `Run` stands. In `printing` it is inside `Log`; from `test` to `relock`
it is inside `interrupt.wait`. -/
inductive Run
  | lock
  | statements (part : Part) (rest : List Statement)
  | printing (part : Part) (rest : List Statement)
  | test | block | blocked | relock
  | finished
  deriving DecidableEq, Repr

/-- Where a thread stands in `InterruptHandler`, if it is in it. -/
inductive Handler
  | idle | lock | store | notifyAll | unlock
  deriving DecidableEq, Repr

/-- Where a thread other than main stands in `Log`, if it is in it. -/
inductive Log
  | idle | lock | printing
  deriving DecidableEq, Repr

inductive Owner (Other : Type u)
  | run
  | handler (thread : Thread Other)
  deriving DecidableEq, Repr

structure State (Other : Type u) where
  exitRun : Bool := false
  exitRunMutex : Option (Owner Other) := none
  coutMutex : Option (Thread Other) := none
  run : Run := .lock
  handler : Thread Other → Handler := fun _ => .idle
  log : Other → Log := fun _ => .idle
  /-- What `Run` has called on the client. -/
  calls : List ClientCall := []
  /-- The threads that have taken a signal, and those that have called `Log`. -/
  signalled : Finset (Thread Other) := ∅
  logged : Finset Other := ∅

inductive Action (Other : Type u)
  /-- The next statement of `Run`, of a handler or of a call of `Log`. -/
  | run
  | handler (thread : Thread Other)
  | log (thread : Other)
  | signal (thread : Thread Other)
  | enterLog (thread : Other)
  | spuriousWakeup
  deriving DecidableEq, Repr

/-- How many lines the client logs on the calling thread, before and after it
calls into the library. -/
abbrev Lines := ClientCall → Nat × Nat

def clientCall (lines : Lines) (made : ClientCall) : List Statement :=
  List.replicate (lines made).1 .log ++ .call made :: List.replicate (lines made).2 .log

def program (lines : Lines) : Part → List Statement
  | .connecting =>
      clientCall lines .getLibVersion ++ .log :: clientCall lines .connectAsync
  | .disconnecting =>
      clientCall lines .unSubscribeAsync ++ .log :: .sleep :: clientCall lines .disconnectAsync

variable {Other : Type u}

def statementStep (s : State Other) (part : Part) : List Statement → Option (State Other)
  | .call made :: rest => some { s with run := .statements part rest, calls := s.calls ++ [made] }
  | .sleep :: rest => some { s with run := .statements part rest }
  | .log :: rest =>
      if s.coutMutex = none then
        some { s with run := .printing part rest, coutMutex := some .main }
      else none
  | [] =>
      match part with
      | .connecting => some { s with run := .test }
      | .disconnecting => some { s with run := .finished, exitRunMutex := none }

/-- `interrupt.wait` tests the flag in front of each wait. -/
def afterTest (lines : Lines) (exitRun : Bool) : Run :=
  if exitRun then .statements .disconnecting (program lines .disconnecting) else .block

def runStep (lines : Lines) (s : State Other) : Option (State Other) :=
  match s.run with
  | .lock =>
      if s.exitRunMutex = none then
        some { s with
          run := .statements .connecting (program lines .connecting)
          exitRunMutex := some .run }
      else none
  | .statements part rest => statementStep s part rest
  | .printing part rest => some { s with run := .statements part rest, coutMutex := none }
  | .test => some { s with run := afterTest lines s.exitRun }
  | .block => some { s with run := .blocked, exitRunMutex := none }
  | .relock =>
      if s.exitRunMutex = none then some { s with run := .test, exitRunMutex := some .run }
      else none
  | .blocked | .finished => none

def Run.woken : Run → Run
  | .blocked => .relock
  | run => run

variable [DecidableEq Other]

def State.handling (s : State Other) (thread : Thread Other) (handler : Handler) : State Other :=
  { s with handler := Function.update s.handler thread handler }

def State.logging (s : State Other) (thread : Other) (log : Log) : State Other :=
  { s with log := Function.update s.log thread log }

def handlerStep (s : State Other) (thread : Thread Other) : Option (State Other) :=
  match s.handler thread with
  | .idle => none
  | .lock =>
      if s.exitRunMutex = none then
        some { s.handling thread .store with exitRunMutex := some (.handler thread) }
      else none
  | .store => some { s.handling thread .notifyAll with exitRun := true }
  | .notifyAll => some { s.handling thread .unlock with run := s.run.woken }
  | .unlock => some { s.handling thread .idle with exitRunMutex := none }

def logStep (s : State Other) (thread : Other) : Option (State Other) :=
  match s.log thread with
  | .idle => none
  | .lock =>
      if s.coutMutex = none then
        some { s.logging thread .printing with coutMutex := some (.other thread) }
      else none
  | .printing => some { s.logging thread .idle with coutMutex := none }

/-- A thread goes on with its own code when it is not in the handler. -/
def step (lines : Lines) (s : State Other) : Action Other → Option (State Other)
  | .run => if s.handler .main = .idle then runStep lines s else none
  | .handler thread => handlerStep s thread
  | .log thread => if s.handler (.other thread) = .idle then logStep s thread else none
  | .signal thread =>
      if s.handler thread = .idle then
        some { s.handling thread .lock with signalled := insert thread s.signalled }
      else none
  | .enterLog thread =>
      if s.handler (.other thread) = .idle ∧ s.log thread = .idle then
        some { s.logging thread .lock with logged := insert thread s.logged }
      else none
  | .spuriousWakeup =>
      if s.run = .blocked then some { s with run := .relock } else none

def system (Other : Type u) [DecidableEq Other] (lines : Lines) :
    System (State Other) (Action Other) where
  initial s := s = {}
  step := step lines

/-! What one step can do. -/

inductive Transition (lines : Lines) (s : State Other) : Action Other → State Other → Prop
  | lock (own : s.handler .main = .idle) (here : s.run = .lock)
      (free : s.exitRunMutex = none) :
      Transition lines s .run
        { s with
          run := .statements .connecting (program lines .connecting)
          exitRunMutex := some .run }
  | call {part : Part} {made : ClientCall} {rest : List Statement}
      (own : s.handler .main = .idle) (here : s.run = .statements part (.call made :: rest)) :
      Transition lines s .run
        { s with run := .statements part rest, calls := s.calls ++ [made] }
  | sleep {part : Part} {rest : List Statement} (own : s.handler .main = .idle)
      (here : s.run = .statements part (.sleep :: rest)) :
      Transition lines s .run { s with run := .statements part rest }
  | print {part : Part} {rest : List Statement} (own : s.handler .main = .idle)
      (here : s.run = .statements part (.log :: rest)) (free : s.coutMutex = none) :
      Transition lines s .run
        { s with run := .printing part rest, coutMutex := some .main }
  | printed {part : Part} {rest : List Statement} (own : s.handler .main = .idle)
      (here : s.run = .printing part rest) :
      Transition lines s .run { s with run := .statements part rest, coutMutex := none }
  | wait (own : s.handler .main = .idle) (here : s.run = .statements .connecting []) :
      Transition lines s .run { s with run := .test }
  | unlock (own : s.handler .main = .idle) (here : s.run = .statements .disconnecting []) :
      Transition lines s .run { s with run := .finished, exitRunMutex := none }
  | testSet (own : s.handler .main = .idle) (here : s.run = .test) (flag : s.exitRun = true) :
      Transition lines s .run
        { s with run := .statements .disconnecting (program lines .disconnecting) }
  | testUnset (own : s.handler .main = .idle) (here : s.run = .test)
      (flag : s.exitRun = false) :
      Transition lines s .run { s with run := .block }
  | block (own : s.handler .main = .idle) (here : s.run = .block) :
      Transition lines s .run { s with run := .blocked, exitRunMutex := none }
  | relock (own : s.handler .main = .idle) (here : s.run = .relock)
      (free : s.exitRunMutex = none) :
      Transition lines s .run { s with run := .test, exitRunMutex := some .run }
  | handlerLock {thread : Thread Other} (here : s.handler thread = .lock)
      (free : s.exitRunMutex = none) :
      Transition lines s (.handler thread)
        { s.handling thread .store with exitRunMutex := some (.handler thread) }
  | store {thread : Thread Other} (here : s.handler thread = .store) :
      Transition lines s (.handler thread)
        { s.handling thread .notifyAll with exitRun := true }
  | notifyAll {thread : Thread Other} (here : s.handler thread = .notifyAll) :
      Transition lines s (.handler thread)
        { s.handling thread .unlock with run := s.run.woken }
  | handlerUnlock {thread : Thread Other} (here : s.handler thread = .unlock) :
      Transition lines s (.handler thread)
        { s.handling thread .idle with exitRunMutex := none }
  | logLock {thread : Other} (own : s.handler (.other thread) = .idle)
      (here : s.log thread = .lock) (free : s.coutMutex = none) :
      Transition lines s (.log thread)
        { s.logging thread .printing with coutMutex := some (.other thread) }
  | logged {thread : Other} (own : s.handler (.other thread) = .idle)
      (here : s.log thread = .printing) :
      Transition lines s (.log thread) { s.logging thread .idle with coutMutex := none }
  | signal {thread : Thread Other} (here : s.handler thread = .idle) :
      Transition lines s (.signal thread)
        { s.handling thread .lock with signalled := insert thread s.signalled }
  | enterLog {thread : Other} (own : s.handler (.other thread) = .idle)
      (here : s.log thread = .idle) :
      Transition lines s (.enterLog thread)
        { s.logging thread .lock with logged := insert thread s.logged }
  | spuriousWakeup (here : s.run = .blocked) :
      Transition lines s .spuriousWakeup { s with run := .relock }

section Inversion

variable {lines : Lines} {s after : State Other}

theorem statement_transition {part : Part} {rest : List Statement}
    (own : s.handler .main = .idle) (here : s.run = .statements part rest)
    (taken : statementStep s part rest = some after) : Transition lines s .run after := by
  cases rest with
  | nil =>
      cases part <;> rw [statementStep, Option.some.injEq] at taken <;> subst taken
      · exact .wait own here
      · exact .unlock own here
  | cons statement rest =>
      cases statement with
      | call made =>
          rw [statementStep, Option.some.injEq] at taken
          subst taken
          exact .call own here
      | sleep =>
          rw [statementStep, Option.some.injEq] at taken
          subst taken
          exact .sleep own here
      | log =>
          rcases guarded_some taken with ⟨free, rfl⟩
          exact .print own here free

theorem run_transition (own : s.handler .main = .idle) (taken : runStep lines s = some after) :
    Transition lines s .run after := by
  cases here : s.run <;> rw [runStep, here] at taken
  case lock =>
    rcases guarded_some taken with ⟨free, rfl⟩
    exact .lock own here free
  case statements part rest => exact statement_transition own here taken
  case printing part rest =>
    cases taken
    exact .printed own here
  case test =>
    rw [Option.some.injEq] at taken
    subst taken
    by_cases flag : s.exitRun = true
    · rw [afterTest, if_pos flag]
      exact .testSet own here flag
    · rw [afterTest, if_neg flag]
      rw [Bool.not_eq_true] at flag
      exact .testUnset own here flag
  case block =>
    cases taken
    exact .block own here
  case relock =>
    rcases guarded_some taken with ⟨free, rfl⟩
    exact .relock own here free
  all_goals cases taken

theorem handler_transition {thread : Thread Other} (taken : handlerStep s thread = some after) :
    Transition lines s (.handler thread) after := by
  cases here : s.handler thread <;> rw [handlerStep, here] at taken
  case idle => cases taken
  case lock =>
    rcases guarded_some taken with ⟨free, rfl⟩
    exact .handlerLock here free
  case store =>
    cases taken
    exact .store here
  case notifyAll =>
    cases taken
    exact .notifyAll here
  case unlock =>
    cases taken
    exact .handlerUnlock here

theorem log_transition {thread : Other} (own : s.handler (.other thread) = .idle)
    (taken : logStep s thread = some after) : Transition lines s (.log thread) after := by
  cases here : s.log thread <;> rw [logStep, here] at taken
  case idle => cases taken
  case lock =>
    rcases guarded_some taken with ⟨free, rfl⟩
    exact .logLock own here free
  case printing =>
    cases taken
    exact .logged own here

theorem step_transition {action : Action Other} (taken : step lines s action = some after) :
    Transition lines s action after := by
  cases action with
  | run =>
      rw [step, Option.ite_none_right_eq_some] at taken
      exact run_transition taken.1 taken.2
  | handler thread => exact handler_transition taken
  | log thread =>
      rw [step, Option.ite_none_right_eq_some] at taken
      exact log_transition taken.1 taken.2
  | signal thread =>
      rcases guarded_some taken with ⟨here, rfl⟩
      exact .signal here
  | enterLog thread =>
      rcases guarded_some taken with ⟨⟨own, here⟩, rfl⟩
      exact .enterLog own here
  | spuriousWakeup =>
      rcases guarded_some taken with ⟨here, rfl⟩
      exact .spuriousWakeup here

end Inversion

end IMqtt.Sample.Main
