import IMqtt.DispatchQueue.Model

/-!
# What one step of the dispatch queue can do

The inversion of `step`: one constructor for each branch of each statement,
with the guard under which it is taken. Every invariant of the queue is proved
by cases on it and none unfolds `step` again.
-/

namespace IMqtt.DispatchQueue.Transitions

open IMqtt.DispatchQueue.Model

set_option autoImplicit false

universe u v

variable {Producer : Type u} {Message : Type v} [DecidableEq Producer]

inductive Transition (s : State Producer Message) :
    Choice Producer Message → State Producer Message → Prop
  | construct {member : Member} {rest : List Member}
      (next : s.uninitialised = member :: rest) :
      Transition s .construct
        (initialise member { s with uninitialised := rest })
  | workerLog {site : WorkerLog} (here : s.worker = .log site) :
      Transition s .worker
        { s with logged := (s.log (site.line s)).logged, worker := .inLog site }
  | workerLogged {site : WorkerLog} (here : s.worker = .inLog site)
      (returned : s.calls .worker = .idle) :
      Transition s .worker { s with worker := site.next }
  | workerLock (here : s.worker = .lock)
      (free : s.messageDispatcherMutex = none) :
      Transition s .worker
        { s with messageDispatcherMutex := some .worker, worker := .loopTest }
  | loopLeave (here : s.worker = .loopTest)
      (exit : s.messageDispatcherExit = true) :
      Transition s .worker { s with worker := .log .exiting }
  | loopBody (here : s.worker = .loopTest)
      (exit : s.messageDispatcherExit = false) :
      Transition s .worker { s with worker := .log .number }
  | waitReady (here : s.worker = .waitTest)
      (ready : s.messageDispatcherQueue ≠ [] ∨ s.messageDispatcherExit = true) :
      Transition s .worker { s with worker := .ifTest }
  | waitFalse (here : s.worker = .waitTest)
      (empty : s.messageDispatcherQueue = [])
      (exit : s.messageDispatcherExit = false) :
      Transition s .worker { s with worker := .block }
  | block (here : s.worker = .block) :
      Transition s .worker
        { s with messageDispatcherMutex := none, worker := .blocked }
  | relockWait (here : s.worker = .relockWait)
      (free : s.messageDispatcherMutex = none) :
      Transition s .worker
        { s with messageDispatcherMutex := some .worker, worker := .waitTest }
  | ifTake (here : s.worker = .ifTest)
      (exit : s.messageDispatcherExit = false)
      (filled : s.messageDispatcherQueue ≠ []) :
      Transition s .worker { s with worker := .pop }
  | ifSkip (here : s.worker = .ifTest)
      (skip : s.messageDispatcherExit = true ∨ s.messageDispatcherQueue = []) :
      Transition s .worker { s with worker := .loopTest }
  | pop {msg : Message} {rest : List Message} (here : s.worker = .pop)
      (front : s.messageDispatcherQueue = msg :: rest) :
      Transition s .worker
        { s with messageDispatcherQueue := rest, worker := .unlock msg }
  | unlock {msg : Message} (here : s.worker = .unlock msg) :
      Transition s .worker
        { s with messageDispatcherMutex := none, worker := .call msg }
  | handOver {msg : Message} (here : s.worker = .call msg) :
      Transition s .worker
        { s with handed := s.handed ++ [msg], worker := .inHandler msg }
  | handlerReturned {msg : Message} (here : s.worker = .inHandler msg)
      (returned : s.calls .worker = .idle) :
      Transition s .worker { s with worker := .relock }
  | relock (here : s.worker = .relock)
      (free : s.messageDispatcherMutex = none) :
      Transition s .worker
        { s with messageDispatcherMutex := some .worker, worker := .loopTest }
  | unlockExit (here : s.worker = .unlockExit) :
      Transition s .worker
        { s with messageDispatcherMutex := none, worker := .finished }
  | spurious (here : s.worker = .blocked) :
      Transition s .spuriousWakeup { s with worker := .relockWait }
  | enter {caller : Caller Producer} {msg : Message}
      (here : s.calls caller = .idle) (may : mayEnter s caller = true) :
      Transition s (.enter caller msg)
        { s with
          calls := Function.update s.calls caller (.exitTest msg)
          entered := s.entered ++ [(caller, msg)] }
  | exitSeen {caller : Caller Producer} {msg : Message}
      (here : s.calls caller = .exitTest msg)
      (exit : s.messageDispatcherExit = true) :
      Transition s (.call caller)
        { s with
          calls := Function.update s.calls caller .idle
          refused := s.refused ++ [(caller, msg)] }
  | exitUnseen {caller : Caller Producer} {msg : Message}
      (here : s.calls caller = .exitTest msg)
      (exit : s.messageDispatcherExit = false) :
      Transition s (.call caller)
        { s with calls := Function.update s.calls caller (.lock msg) }
  | callLock {caller : Caller Producer} {msg : Message}
      (here : s.calls caller = .lock msg)
      (free : s.messageDispatcherMutex = none) :
      Transition s (.call caller)
        { s with
          messageDispatcherMutex := some (.caller caller)
          calls := Function.update s.calls caller (.push msg)
          acquired := s.acquired ++ [(caller, msg)] }
  | push {caller : Caller Producer} {msg : Message}
      (here : s.calls caller = .push msg) :
      Transition s (.call caller)
        { s with
          messageDispatcherQueue := s.messageDispatcherQueue ++ [msg]
          calls := Function.update s.calls caller .unlock
          pushed := s.pushed ++ [(caller, msg)] }
  | callUnlock {caller : Caller Producer} (here : s.calls caller = .unlock) :
      Transition s (.call caller)
        { s with
          messageDispatcherMutex := none
          calls := Function.update s.calls caller .notifyOne }
  | notifyOneWakes {caller : Caller Producer}
      (here : s.calls caller = .notifyOne) (waiting : s.worker = .blocked) :
      Transition s (.call caller)
        { s with
          worker := .relockWait
          calls := Function.update s.calls caller .idle }
  | notifyOneLost {caller : Caller Producer}
      (here : s.calls caller = .notifyOne) (away : s.worker ≠ .blocked) :
      Transition s (.call caller)
        { s with calls := Function.update s.calls caller .idle }
  | destructorStart (here : s.destructor = .notStarted)
      (constructed : s.uninitialised = []) :
      Transition s .destructor { s with destructor := .storeExit }
  | storeExit (here : s.destructor = .storeExit) :
      Transition s .destructor
        { s with messageDispatcherExit := true, destructor := .notifyAll }
  | notifyAllWakes (here : s.destructor = .notifyAll)
      (waiting : s.worker = .blocked) :
      Transition s .destructor
        { s with worker := .relockWait, destructor := .join }
  | notifyAllLost (here : s.destructor = .notifyAll)
      (away : s.worker ≠ .blocked) :
      Transition s .destructor { s with destructor := .join }
  | join (here : s.destructor = .join) (ended : s.worker = .finished) :
      Transition s .destructor { s with destructor := .lock }
  | destructorLock (here : s.destructor = .lock)
      (free : s.messageDispatcherMutex = none) :
      Transition s .destructor
        { s with messageDispatcherMutex := some .destructor, destructor := .count }
  | countNone (here : s.destructor = .count)
      (empty : s.messageDispatcherQueue = []) :
      Transition s .destructor { s with destructor := .unlock }
  | countLost (here : s.destructor = .count)
      (filled : s.messageDispatcherQueue ≠ []) :
      Transition s .destructor
        { s with destructor := .log s.messageDispatcherQueue.length }
  | lostLog {num : Nat} (here : s.destructor = .log num) :
      Transition s .destructor
        { s with logged := (s.log (.lost num)).logged, destructor := .inLog num }
  | lostLogged {num : Nat} (here : s.destructor = .inLog num)
      (returned : s.calls .destructor = .idle) :
      Transition s .destructor { s with destructor := .unlock }
  | destructorUnlock (here : s.destructor = .unlock) :
      Transition s .destructor
        { s with messageDispatcherMutex := none, destructor := .finished }

omit [DecidableEq Producer] in
private theorem acquire_some {s t : State Producer Message}
    {owner : Owner Producer} (taken : s.acquire owner = some t) :
    s.messageDispatcherMutex = none ∧
      t = { s with messageDispatcherMutex := some owner } := by
  unfold State.acquire at taken
  split at taken
  next free => exact ⟨free, (Option.some.inj taken).symm⟩
  next => simp at taken

private theorem constructor_transition {s t : State Producer Message}
    (taken : constructorStep s = some t) : Transition s .construct t := by
  unfold constructorStep at taken
  split at taken
  next => simp at taken
  next remaining =>
    obtain rfl := Option.some.inj taken
    exact .construct remaining

private theorem worker_transition {s t : State Producer Message}
    (taken : workerStep s = some t) : Transition s .worker t := by
  unfold workerStep at taken
  split at taken
  next => simp at taken
  next site here =>
    obtain rfl := Option.some.inj taken
    exact .workerLog here
  next site here =>
    split at taken
    next returned =>
      obtain rfl := Option.some.inj taken
      exact .workerLogged here returned
    next => simp at taken
  next here =>
    obtain ⟨locked, acquired, rfl⟩ := Option.map_eq_some_iff.mp taken
    obtain ⟨free, rfl⟩ := acquire_some acquired
    exact .workerLock here free
  next here =>
    obtain rfl := Option.some.inj taken
    cases exit : s.messageDispatcherExit
    · simpa [exit] using Transition.loopBody here exit
    · simpa [exit] using Transition.loopLeave here exit
  next here =>
    obtain rfl := Option.some.inj taken
    cases exit : s.messageDispatcherExit
    · cases queue : s.messageDispatcherQueue
      · simpa [exit, queue] using Transition.waitFalse here queue exit
      · simpa [exit, queue] using Transition.waitReady here (.inl (by simp [queue]))
    · simpa [exit] using Transition.waitReady here (.inr exit)
  next here =>
    obtain rfl := Option.some.inj taken
    exact .block here
  next => simp at taken
  next here =>
    obtain ⟨locked, acquired, rfl⟩ := Option.map_eq_some_iff.mp taken
    obtain ⟨free, rfl⟩ := acquire_some acquired
    exact .relockWait here free
  next here =>
    obtain rfl := Option.some.inj taken
    cases exit : s.messageDispatcherExit
    · cases queue : s.messageDispatcherQueue
      · simpa [exit, queue] using Transition.ifSkip here (.inr queue)
      · simpa [exit, queue] using Transition.ifTake here exit (by simp [queue])
    · simpa [exit] using Transition.ifSkip here (.inl exit)
  next here =>
    split at taken
    next => simp at taken
    next msg rest front =>
      obtain rfl := Option.some.inj taken
      exact .pop here front
  next msg here =>
    obtain rfl := Option.some.inj taken
    exact .unlock here
  next msg here =>
    obtain rfl := Option.some.inj taken
    exact .handOver here
  next msg here =>
    split at taken
    next returned =>
      obtain rfl := Option.some.inj taken
      exact .handlerReturned here returned
    next => simp at taken
  next here =>
    obtain ⟨locked, acquired, rfl⟩ := Option.map_eq_some_iff.mp taken
    obtain ⟨free, rfl⟩ := acquire_some acquired
    exact .relock here free
  next here =>
    obtain rfl := Option.some.inj taken
    exact .unlockExit here
  next => simp at taken

private theorem spurious_transition {s t : State Producer Message}
    (taken : spuriousWakeup s = some t) : Transition s .spuriousWakeup t := by
  unfold spuriousWakeup at taken
  split at taken
  next here =>
    obtain rfl := Option.some.inj taken
    exact .spurious here
  next => simp at taken

private theorem enter_transition {s t : State Producer Message}
    {caller : Caller Producer} {msg : Message}
    (taken : enterStep s caller msg = some t) :
    Transition s (.enter caller msg) t := by
  unfold enterStep at taken
  split at taken
  next here =>
    split at taken
    next may =>
      obtain rfl := Option.some.inj taken
      exact .enter here may
    next => simp at taken
  next => simp at taken

omit [DecidableEq Producer] in
private theorem notify_waiting {s : State Producer Message}
    (waiting : s.worker = .blocked) :
    s.notify = { s with worker := .relockWait } := by
  simp [State.notify, waiting]

omit [DecidableEq Producer] in
private theorem notify_away {s : State Producer Message}
    (away : s.worker ≠ .blocked) : s.notify = s := by
  unfold State.notify
  split
  next waiting => exact absurd waiting away
  next => rfl

private theorem call_transition {s t : State Producer Message}
    {caller : Caller Producer} (taken : callStep s caller = some t) :
    Transition s (.call caller) t := by
  unfold callStep at taken
  split at taken
  next => simp at taken
  next msg here =>
    split at taken
    next exit =>
      obtain rfl := Option.some.inj taken
      exact .exitSeen here exit
    next exit =>
      obtain rfl := Option.some.inj taken
      exact .exitUnseen here (by simpa using exit)
  next msg here =>
    obtain ⟨locked, acquired, rfl⟩ := Option.map_eq_some_iff.mp taken
    obtain ⟨free, rfl⟩ := acquire_some acquired
    exact .callLock here free
  next msg here =>
    obtain rfl := Option.some.inj taken
    exact .push here
  next here =>
    obtain rfl := Option.some.inj taken
    exact .callUnlock here
  next here =>
    obtain rfl := Option.some.inj taken
    by_cases waiting : s.worker = .blocked
    · rw [notify_waiting waiting]
      exact .notifyOneWakes here waiting
    · rw [notify_away waiting]
      exact .notifyOneLost here waiting

private theorem destructor_transition {s t : State Producer Message}
    (taken : destructorStep s = some t) : Transition s .destructor t := by
  unfold destructorStep at taken
  split at taken
  next here =>
    split at taken
    next constructed =>
      obtain rfl := Option.some.inj taken
      exact .destructorStart here (by simpa using constructed)
    next => simp at taken
  next here =>
    obtain rfl := Option.some.inj taken
    exact .storeExit here
  next here =>
    obtain rfl := Option.some.inj taken
    by_cases waiting : s.worker = .blocked
    · rw [notify_waiting waiting]
      exact .notifyAllWakes here waiting
    · rw [notify_away waiting]
      exact .notifyAllLost here waiting
  next here =>
    split at taken
    next ended =>
      obtain rfl := Option.some.inj taken
      exact .join here ended
    next => simp at taken
  next here =>
    obtain ⟨locked, acquired, rfl⟩ := Option.map_eq_some_iff.mp taken
    obtain ⟨free, rfl⟩ := acquire_some acquired
    exact .destructorLock here free
  next here =>
    obtain rfl := Option.some.inj taken
    cases queue : s.messageDispatcherQueue
    · simpa [queue] using Transition.countNone here queue
    · simpa [queue] using Transition.countLost here (by simp [queue])
  next num here =>
    obtain rfl := Option.some.inj taken
    exact .lostLog here
  next num here =>
    split at taken
    next returned =>
      obtain rfl := Option.some.inj taken
      exact .lostLogged here returned
    next => simp at taken
  next here =>
    obtain rfl := Option.some.inj taken
    exact .destructorUnlock here
  next => simp at taken

theorem step_transition {s t : State Producer Message}
    {action : Choice Producer Message} (taken : step s action = some t) :
    Transition s action t := by
  cases action with
  | construct => exact constructor_transition taken
  | worker => exact worker_transition taken
  | spuriousWakeup => exact spurious_transition taken
  | enter caller msg => exact enter_transition taken
  | call caller => exact call_transition taken
  | destructor => exact destructor_transition taken

end IMqtt.DispatchQueue.Transitions
