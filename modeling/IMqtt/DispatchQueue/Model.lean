import IMqtt.Interface.Defines
import IMqtt.Library.LabelledSteps
import Mathlib.Logic.Function.Basic

/-!
# The dispatch queue as a system of steps

`DispatchQueue.h` and `DispatchQueue.cpp`, one statement a step: the
constructor's member initialisers, `messageDispatcherWorker`, any number of
threads in `OnMqttMessage` and the destructor. Every position of a thread
names the statement it executes next. A label picks the thread that moves,
so a run is an interleaving.

`std::condition_variable` has one possible waiter, the worker. A notification
changes the worker's position if it is `blocked` and is lost otherwise.
-/

namespace IMqtt.DispatchQueue.Model

open IMqtt.Defines LabelledSteps

set_option autoImplicit false

universe u v

/-- Data members, in the order the class declares them. C++ initialises in
this order, whatever the constructor's initialiser list says. -/
inductive Member
  | logCb | msgCb | messageDispatcherMutex | messageDispatcherQueue
  | messageDispatcherAwaiter | messageDispatcherThread | messageDispatcherExit
  deriving DecidableEq, Repr

def declarationOrder : List Member :=
  [.logCb, .msgCb, .messageDispatcherMutex, .messageDispatcherQueue,
    .messageDispatcherAwaiter, .messageDispatcherThread,
    .messageDispatcherExit]

/-- A thread that may stand inside `OnMqttMessage`. The worker and the
destructing thread do so from a user callback they are running. -/
inductive Caller (Producer : Type u)
  | producer (id : Producer)
  | worker
  | destructor
  deriving DecidableEq

/-- The lock object that owns `messageDispatcherMutex`. -/
inductive Owner (Producer : Type u)
  | worker
  | caller (caller : Caller Producer)
  | destructor
  deriving DecidableEq

/-- The three `log` calls of `messageDispatcherWorker`. -/
inductive WorkerLog
  | starting | number | exiting
  deriving DecidableEq, Repr

inductive WorkerPc (Message : Type v)
  | notStarted
  | log (site : WorkerLog)
  | inLog (site : WorkerLog)
  | lock
  | loopTest
  | waitTest
  | block
  | blocked
  | relockWait
  | ifTest
  | pop
  | unlock (msg : Message)
  | call (msg : Message)
  | inHandler (msg : Message)
  | relock
  | unlockExit
  | finished
  deriving DecidableEq

inductive CallPc (Message : Type v)
  | idle
  | exitTest (msg : Message)
  | lock (msg : Message)
  | push (msg : Message)
  | unlock
  | notifyOne
  deriving DecidableEq

inductive DestructorPc
  | notStarted | storeExit | notifyAll | join | lock | count
  | log (num : Nat)
  | inLog (num : Nat)
  | unlock | finished
  deriving DecidableEq, Repr

/-- What the queue writes to `logCb`. -/
inductive QueueLog
  | starting
  | number (size : Nat)
  | exiting
  | lost (num : Nat)
  deriving DecidableEq, Repr

def QueueLog.entry : QueueLog → LogEntry
  | .starting => ⟨.debug, text "Starting MQTT message dispatcher"⟩
  | .number size =>
      ⟨.debug, text "Number of MQTT messages still to be processed: " ++ toStr size⟩
  | .exiting => ⟨.info, text "Exiting MQTT message dispatcher"⟩
  | .lost num =>
      ⟨.warning, text "Lost " ++ toStr num ++
        text " MQTT messages in queue on shutdown"⟩

/-- The members of the object, the position of every thread, and the history
of the run. The history is read by no step: `entered`, `acquired`, `pushed`
and `refused` hold the calls of `OnMqttMessage` by the order in which they
began, took the mutex, pushed, and saw the exit flag; `handed` holds the calls
of `msgCb.OnMqttMessage`. -/
structure State (Producer : Type u) (Message : Type v) where
  uninitialised : List Member
  logCb : Bool
  messageDispatcherMutex : Option (Owner Producer)
  messageDispatcherQueue : List Message
  messageDispatcherExit : Bool
  worker : WorkerPc Message
  calls : Caller Producer → CallPc Message
  destructor : DestructorPc
  logged : List QueueLog
  entered : List (Caller Producer × Message)
  acquired : List (Caller Producer × Message)
  pushed : List (Caller Producer × Message)
  refused : List (Caller Producer × Message)
  handed : List Message

inductive Choice (Producer : Type u) (Message : Type v)
  | construct
  | worker
  | spuriousWakeup
  | enter (caller : Caller Producer) (msg : Message)
  | call (caller : Caller Producer)
  | destructor
  deriving DecidableEq

variable {Producer : Type u} {Message : Type v}

/-- Before the first initialiser runs. The storage of the exit flag holds
whatever the memory held. -/
def initial (logCb priorExit : Bool) : State Producer Message where
  uninitialised := declarationOrder
  logCb := logCb
  messageDispatcherMutex := none
  messageDispatcherQueue := []
  messageDispatcherExit := priorExit
  worker := .notStarted
  calls := fun _ => .idle
  destructor := .notStarted
  logged := []
  entered := []
  acquired := []
  pushed := []
  refused := []
  handed := []

namespace State

def setCall [DecidableEq Producer] (s : State Producer Message)
    (caller : Caller Producer) (pc : CallPc Message) : State Producer Message :=
  { s with calls := Function.update s.calls caller pc }

/-- `log`: nothing happens without a log callback. -/
def log (s : State Producer Message) (line : QueueLog) : State Producer Message :=
  { s with logged := if s.logCb then s.logged ++ [line] else s.logged }

def acquire (s : State Producer Message) (owner : Owner Producer) :
    Option (State Producer Message) :=
  match s.messageDispatcherMutex with
  | none => some { s with messageDispatcherMutex := some owner }
  | some _ => none

def release (s : State Producer Message) : State Producer Message :=
  { s with messageDispatcherMutex := none }

/-- `notify_one` and `notify_all`, which agree with a single waiter. -/
def notify (s : State Producer Message) : State Producer Message :=
  match s.worker with
  | .blocked => { s with worker := .relockWait }
  | _ => s

end State

def initialise (member : Member) (s : State Producer Message) :
    State Producer Message :=
  match member with
  | .logCb | .msgCb | .messageDispatcherAwaiter => s
  | .messageDispatcherMutex => { s with messageDispatcherMutex := none }
  | .messageDispatcherQueue => { s with messageDispatcherQueue := [] }
  | .messageDispatcherThread => { s with worker := .log .starting }
  | .messageDispatcherExit => { s with messageDispatcherExit := false }

def constructorStep (s : State Producer Message) :
    Option (State Producer Message) :=
  match s.uninitialised with
  | [] => none
  | member :: rest => some (initialise member { s with uninitialised := rest })

/-- The statement after a `log` call of the worker. -/
def WorkerLog.next : WorkerLog → WorkerPc Message
  | .starting => .lock
  | .number => .waitTest
  | .exiting => .unlockExit

def WorkerLog.line (s : State Producer Message) : WorkerLog → QueueLog
  | .starting => .starting
  | .number => .number s.messageDispatcherQueue.length
  | .exiting => .exiting

/-- `messageDispatcherWorker`. A callback returns once the call of
`OnMqttMessage` it may have made has returned. -/
def workerStep (s : State Producer Message) : Option (State Producer Message) :=
  match s.worker with
  | .notStarted => none
  | .log site => some { s.log (site.line s) with worker := .inLog site }
  | .inLog site =>
      match s.calls .worker with
      | .idle => some { s with worker := site.next }
      | _ => none
  | .lock => (s.acquire .worker).map ({ · with worker := .loopTest })
  | .loopTest =>
      some { s with
        worker := if s.messageDispatcherExit then .log .exiting else .log .number }
  | .waitTest =>
      some { s with
        worker := if !s.messageDispatcherQueue.isEmpty || s.messageDispatcherExit
          then .ifTest else .block }
  | .block => some { s.release with worker := .blocked }
  | .blocked => none
  | .relockWait => (s.acquire .worker).map ({ · with worker := .waitTest })
  | .ifTest =>
      some { s with
        worker := if !s.messageDispatcherExit && !s.messageDispatcherQueue.isEmpty
          then .pop else .loopTest }
  | .pop =>
      match s.messageDispatcherQueue with
      | [] => none
      | msg :: rest =>
          some { s with messageDispatcherQueue := rest, worker := .unlock msg }
  | .unlock msg => some { s.release with worker := .call msg }
  | .call msg =>
      some { s with handed := s.handed ++ [msg], worker := .inHandler msg }
  | .inHandler _ =>
      match s.calls .worker with
      | .idle => some { s with worker := .relock }
      | _ => none
  | .relock => (s.acquire .worker).map ({ · with worker := .loopTest })
  | .unlockExit => some { s.release with worker := .finished }
  | .finished => none

/-- The worker is inside `msgCb.OnMqttMessage` or `logCb->Log`. -/
def WorkerPc.inCallback (logCb : Bool) : WorkerPc Message → Bool
  | .inHandler _ => true
  | .inLog _ => logCb
  | _ => false

def DestructorPc.inCallback (logCb : Bool) : DestructorPc → Bool
  | .inLog _ => logCb
  | _ => false

/-- Nobody has a pointer to the queue before its constructor has returned. -/
def mayEnter (s : State Producer Message) (caller : Caller Producer) : Bool :=
  s.uninitialised.isEmpty &&
    match caller with
    | .producer _ => true
    | .worker => s.worker.inCallback s.logCb
    | .destructor => s.destructor.inCallback s.logCb

section Calls

variable [DecidableEq Producer]

def enterStep (s : State Producer Message) (caller : Caller Producer)
    (msg : Message) : Option (State Producer Message) :=
  match s.calls caller with
  | .idle =>
      if mayEnter s caller then
        some { s.setCall caller (.exitTest msg) with
          entered := s.entered ++ [(caller, msg)] }
      else none
  | _ => none

/-- `OnMqttMessage`. -/
def callStep (s : State Producer Message) (caller : Caller Producer) :
    Option (State Producer Message) :=
  match s.calls caller with
  | .idle => none
  | .exitTest msg =>
      if s.messageDispatcherExit then
        some { s.setCall caller .idle with refused := s.refused ++ [(caller, msg)] }
      else some (s.setCall caller (.lock msg))
  | .lock msg =>
      (s.acquire (.caller caller)).map fun locked =>
        { locked.setCall caller (.push msg) with
          acquired := s.acquired ++ [(caller, msg)] }
  | .push msg =>
      some { s.setCall caller .unlock with
        messageDispatcherQueue := s.messageDispatcherQueue ++ [msg]
        pushed := s.pushed ++ [(caller, msg)] }
  | .unlock => some (s.release.setCall caller .notifyOne)
  | .notifyOne => some (s.notify.setCall caller .idle)

end Calls

/-- `~DispatchQueue`. The thread was started by the constructor, so it is
joinable. -/
def destructorStep (s : State Producer Message) :
    Option (State Producer Message) :=
  match s.destructor with
  | .notStarted =>
      if s.uninitialised.isEmpty then some { s with destructor := .storeExit }
      else none
  | .storeExit =>
      some { s with messageDispatcherExit := true, destructor := .notifyAll }
  | .notifyAll => some { s.notify with destructor := .join }
  | .join =>
      match s.worker with
      | .finished => some { s with destructor := .lock }
      | _ => none
  | .lock => (s.acquire .destructor).map ({ · with destructor := .count })
  | .count =>
      some { s with
        destructor := if s.messageDispatcherQueue.length ≠ 0
          then .log s.messageDispatcherQueue.length else .unlock }
  | .log num => some { s.log (.lost num) with destructor := .inLog num }
  | .inLog _ =>
      match s.calls .destructor with
      | .idle => some { s with destructor := .unlock }
      | _ => none
  | .unlock => some { s.release with destructor := .finished }
  | .finished => none

def spuriousWakeup (s : State Producer Message) : Option (State Producer Message) :=
  match s.worker with
  | .blocked => some { s with worker := .relockWait }
  | _ => none

def step [DecidableEq Producer] (s : State Producer Message) :
    Choice Producer Message → Option (State Producer Message)
  | .construct => constructorStep s
  | .worker => workerStep s
  | .spuriousWakeup => spuriousWakeup s
  | .enter caller msg => enterStep s caller msg
  | .call caller => callStep s caller
  | .destructor => destructorStep s

def system (Producer : Type u) (Message : Type v) [DecidableEq Producer] :
    System (State Producer Message) (Choice Producer Message) where
  initial s := ∃ logCb priorExit, s = initial logCb priorExit
  step := step

end IMqtt.DispatchQueue.Model
