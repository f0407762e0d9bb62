import IMqtt.Library.MutexDiscipline
import IMqtt.Sample.Main

/-!
# How the sample can come to rest

The handler takes a mutex that `Run` holds except while it waits. On the main
thread it then waits for the code it has interrupted; on a thread that is
writing a log line it waits for `Run`, which may want to write one. There is no
other way to get stuck, and no signal is missed.
-/

namespace IMqtt.Sample.Deadlock

open IMqtt.Sample.Main LabelledSteps

set_option autoImplicit false

universe u

variable {Other : Type u}

/-- `Run` owns `exitRunMutex`. -/
def holds : Run → Bool
  | .statements _ _ | .printing _ _ | .test | .block => true
  | .lock | .blocked | .relock | .finished => false

def Handler.holds : Handler → Bool
  | .store | .notifyAll | .unlock => true
  | .idle | .lock => false

def Inside (run : Run) (handler : Thread Other → Handler) : Owner Other → Prop
  | .run => holds run = true
  | .handler thread => Handler.holds (handler thread) = true

def inPrint : Run → Bool
  | .printing _ _ => true
  | _ => false

def Prints (run : Run) (log : Other → Log) : Thread Other → Prop
  | .main => inPrint run = true
  | .other thread => log thread = .printing

def Part.leaves : Part → Bool
  | .connecting => false
  | .disconnecting => true

/-- Behind its wait. -/
def leaving : Run → Bool
  | .statements part _ | .printing part _ => Part.leaves part
  | .finished => true
  | .lock | .test | .block | .blocked | .relock => false

/-- Who owns the two mutexes. -/
structure Owned (s : State Other) : Prop where
  exitRun : MutexDiscipline.Exclusive s.exitRunMutex (Inside s.run s.handler)
  cout : MutexDiscipline.Exclusive s.coutMutex (Prints s.run s.log)

theorem woken_holds (run : Run) : holds run.woken = holds run := by
  cases run <;> rfl

theorem woken_prints (run : Run) : inPrint run.woken = inPrint run := by
  cases run <;> rfl

section Mutexes

variable {run moved : Run} {handler : Thread Other → Handler} {log : Other → Log}
  {exitRunMutex : Option (Owner Other)} {coutMutex : Option (Thread Other)}

theorem inside_frame (held : MutexDiscipline.Exclusive exitRunMutex (Inside run handler))
    (same : holds moved = holds run) :
    MutexDiscipline.Exclusive exitRunMutex (Inside moved handler) := by
  apply MutexDiscipline.exclusive_frame held
  intro owner
  cases owner with
  | run => simp only [Inside, same]
  | handler thread => exact Iff.rfl

theorem run_locks (held : MutexDiscipline.Exclusive exitRunMutex (Inside run handler))
    (free : exitRunMutex = none) (enters : holds moved = true) :
    MutexDiscipline.Exclusive (some .run) (Inside moved handler) := by
  apply MutexDiscipline.exclusive_acquire held free
  intro owner
  cases owner with
  | run => simp [Inside, enters]
  | handler thread => simp [Inside]

theorem run_unlocks (held : MutexDiscipline.Exclusive exitRunMutex (Inside run handler))
    (was : holds run = true) (leaves : holds moved = false) :
    MutexDiscipline.Exclusive none (Inside moved handler) := by
  apply MutexDiscipline.exclusive_release held .run was
  intro owner
  cases owner with
  | run => simp [Inside, leaves]
  | handler thread => simp [Inside]

theorem prints_frame (held : MutexDiscipline.Exclusive coutMutex (Prints run log))
    (same : inPrint moved = inPrint run) :
    MutexDiscipline.Exclusive coutMutex (Prints moved log) := by
  apply MutexDiscipline.exclusive_frame held
  intro thread
  cases thread with
  | main => simp only [Prints, same]
  | other thread => exact Iff.rfl

theorem run_prints (held : MutexDiscipline.Exclusive coutMutex (Prints run log))
    (free : coutMutex = none) (enters : inPrint moved = true) :
    MutexDiscipline.Exclusive (some .main) (Prints moved log) := by
  apply MutexDiscipline.exclusive_acquire held free
  intro thread
  cases thread with
  | main => simp [Prints, enters]
  | other thread => simp [Prints]

theorem run_printed (held : MutexDiscipline.Exclusive coutMutex (Prints run log))
    (was : inPrint run = true) (leaves : inPrint moved = false) :
    MutexDiscipline.Exclusive none (Prints moved log) := by
  apply MutexDiscipline.exclusive_release held .main was
  intro thread
  cases thread with
  | main => simp [Prints, leaves]
  | other thread => simp [Prints]

variable [DecidableEq Other]

theorem handler_frame {thread : Thread Other} {position : Handler}
    (held : MutexDiscipline.Exclusive exitRunMutex (Inside run handler))
    (same : Handler.holds position = Handler.holds (handler thread)) :
    MutexDiscipline.Exclusive exitRunMutex
      (Inside run (Function.update handler thread position)) := by
  apply MutexDiscipline.exclusive_frame held
  intro owner
  cases owner with
  | run => exact Iff.rfl
  | handler other =>
      by_cases own : other = thread
      · subst own
        simp only [Inside, Function.update_self, same]
      · simp only [Inside, Function.update_of_ne own]

theorem handler_locks {thread : Thread Other} {position : Handler}
    (held : MutexDiscipline.Exclusive exitRunMutex (Inside run handler))
    (free : exitRunMutex = none) (enters : Handler.holds position = true) :
    MutexDiscipline.Exclusive (some (.handler thread))
      (Inside run (Function.update handler thread position)) := by
  apply MutexDiscipline.exclusive_acquire held free
  intro owner
  cases owner with
  | run => simp [Inside]
  | handler other =>
      by_cases own : other = thread
      · subst own
        simp [Inside, enters]
      · simp [Inside, own]

theorem handler_unlocks {thread : Thread Other} {position : Handler}
    (held : MutexDiscipline.Exclusive exitRunMutex (Inside run handler))
    (was : Handler.holds (handler thread) = true) (leaves : Handler.holds position = false) :
    MutexDiscipline.Exclusive none (Inside run (Function.update handler thread position)) := by
  apply MutexDiscipline.exclusive_release held (.handler thread) was
  intro owner
  cases owner with
  | run => simp [Inside]
  | handler other =>
      by_cases own : other = thread
      · subst own
        simp [Inside, leaves]
      · simp [Inside, own]

theorem log_frame {thread : Other} {position : Log}
    (held : MutexDiscipline.Exclusive coutMutex (Prints run log))
    (was : log thread ≠ .printing) (quiet : position ≠ .printing) :
    MutexDiscipline.Exclusive coutMutex
      (Prints run (Function.update log thread position)) := by
  apply MutexDiscipline.exclusive_frame held
  intro party
  cases party with
  | main => exact Iff.rfl
  | other other =>
      by_cases own : other = thread
      · subst own
        simp [Prints, was, quiet]
      · simp only [Prints, Function.update_of_ne own]

theorem log_locks {thread : Other}
    (held : MutexDiscipline.Exclusive coutMutex (Prints run log)) (free : coutMutex = none) :
    MutexDiscipline.Exclusive (some (.other thread))
      (Prints run (Function.update log thread .printing)) := by
  apply MutexDiscipline.exclusive_acquire held free
  intro party
  cases party with
  | main => simp [Prints]
  | other other =>
      by_cases own : other = thread
      · subst own
        simp [Prints]
      · simp [Prints, own]

theorem log_unlocks {thread : Other}
    (held : MutexDiscipline.Exclusive coutMutex (Prints run log))
    (was : log thread = .printing) :
    MutexDiscipline.Exclusive none (Prints run (Function.update log thread .idle)) := by
  apply MutexDiscipline.exclusive_release held (.other thread) was
  intro party
  cases party with
  | main => simp [Prints]
  | other other =>
      by_cases own : other = thread
      · subst own
        simp [Prints]
      · simp [Prints, own]

end Mutexes

variable [DecidableEq Other]

theorem owned_step {lines : Lines} {s t : State Other} {action : Action Other}
    (owned : Owned s) (transition : Transition lines s action t) : Owned t := by
  obtain ⟨exitRun, cout⟩ := owned
  cases transition with
  | lock own here free =>
      exact ⟨run_locks exitRun free rfl, prints_frame cout (by rw [here]; rfl)⟩
  | relock own here free =>
      exact ⟨run_locks exitRun free rfl, prints_frame cout (by rw [here]; rfl)⟩
  | call own here | sleep own here | wait own here | testSet own here | testUnset own here
  | spuriousWakeup here =>
      exact ⟨inside_frame exitRun (by rw [here]; rfl), prints_frame cout (by rw [here]; rfl)⟩
  | print own here free =>
      exact ⟨inside_frame exitRun (by rw [here]; rfl), run_prints cout free rfl⟩
  | printed own here =>
      exact ⟨inside_frame exitRun (by rw [here]; rfl), run_printed cout (by rw [here]; rfl) rfl⟩
  | unlock own here | block own here =>
      exact ⟨run_unlocks exitRun (by rw [here]; rfl) rfl, prints_frame cout (by rw [here]; rfl)⟩
  | handlerLock here free => exact ⟨handler_locks exitRun free rfl, cout⟩
  | store here => exact ⟨handler_frame exitRun (by rw [here]; rfl), cout⟩
  | notifyAll here =>
      constructor
      · exact inside_frame (handler_frame exitRun (by rw [here]; rfl)) (woken_holds s.run)
      · exact prints_frame cout (woken_prints s.run)
  | handlerUnlock here => exact ⟨handler_unlocks exitRun (by rw [here]; rfl) rfl, cout⟩
  | signal here => exact ⟨handler_frame exitRun (by rw [here]; rfl), cout⟩
  | logLock own here free => exact ⟨exitRun, log_locks cout free⟩
  | logged own here => exact ⟨exitRun, log_unlocks cout here⟩
  | enterLog own here =>
      exact ⟨exitRun, log_frame cout (by rw [here]; exact Log.noConfusion) Log.noConfusion⟩

theorem reached_owned {lines : Lines} {s : State Other}
    (reached : Reached (system Other lines) s) : Owned s := by
  apply invariant_of_step Owned _ _ reached
  · intro start begins
    have empty : start = {} := begins
    rw [empty]
    constructor
    · intro owner
      cases owner <;> simp [Inside, holds, Handler.holds]
    · intro party
      cases party <;> simp [Prints, inPrint]
  · intro before action after _ owned _ taken
    exact owned_step owned (step_transition taken)

/-! The flag, and who still has to notify. -/

structure Flagged (s : State Other) : Prop where
  stored : ∀ thread, s.handler thread = .notifyAll ∨ s.handler thread = .unlock →
    s.exitRun = true
  leaving : leaving s.run = true → s.exitRun = true
  /-- `Run` goes to wait under the mutex under which it has seen the flag unset. -/
  unset : s.run = .block → s.exitRun = false
  /-- A waiting `Run` is going to be notified of a flag that is set. -/
  noticed : s.run = .blocked → s.exitRun = true → ∃ thread, s.handler thread = .notifyAll

omit [DecidableEq Other] in
theorem flagged_run {s t : State Other} (flagged : Flagged s)
    (handler : t.handler = s.handler) (exitRun : t.exitRun = s.exitRun)
    (behind : leaving t.run = true → s.exitRun = true)
    (unset : t.run = .block → s.exitRun = false)
    (noticed : t.run = .blocked → s.exitRun = true →
      ∃ thread, s.handler thread = .notifyAll) : Flagged t := by
  constructor
  · rw [handler, exitRun]
    exact flagged.stored
  · rw [exitRun]
    exact behind
  · rw [exitRun]
    exact unset
  · rw [handler, exitRun]
    exact noticed

omit [DecidableEq Other] in
/-- A statement of `Run` outside its wait. -/
theorem flagged_statement {s t : State Other} (flagged : Flagged s)
    (handler : t.handler = s.handler) (exitRun : t.exitRun = s.exitRun)
    (behind : leaving t.run = true → leaving s.run = true)
    (outside : t.run ≠ .block ∧ t.run ≠ .blocked) : Flagged t := by
  apply flagged_run flagged handler exitRun
  · intro past
    exact flagged.leaving (behind past)
  · intro here
    exact absurd here outside.1
  · intro here
    exact absurd here outside.2

/-- A handler that moves on has not been the one to notify. -/
theorem flagged_handler {s t : State Other} {thread : Thread Other} {position : Handler}
    (flagged : Flagged s) (handler : t.handler = Function.update s.handler thread position)
    (run : t.run = s.run) (exitRun : t.exitRun = s.exitRun)
    (stored : position = .notifyAll ∨ position = .unlock → s.exitRun = true)
    (was : s.handler thread ≠ .notifyAll) : Flagged t := by
  constructor
  · rw [handler, exitRun, Function.forall_update_iff s.handler fun _ here =>
      here = .notifyAll ∨ here = .unlock → s.exitRun = true]
    exact ⟨stored, fun other _ => flagged.stored other⟩
  · rw [run, exitRun]
    exact flagged.leaving
  · rw [run, exitRun]
    exact flagged.unset
  · rw [run, exitRun, handler]
    intro here set
    obtain ⟨other, notifies⟩ := flagged.noticed here set
    have distinct : other ≠ thread := by
      intro own
      rw [own] at notifies
      exact was notifies
    refine ⟨other, ?_⟩
    rw [Function.update_of_ne distinct]
    exact notifies

theorem flagged_step {lines : Lines} {s t : State Other} {action : Action Other}
    (owned : Owned s) (flagged : Flagged s) (transition : Transition lines s action t) :
    Flagged t := by
  cases transition with
  | lock own here free | relock own here free | spuriousWakeup here | wait own here =>
      refine flagged_statement flagged rfl rfl ?_ ?_
      · intro impossible
        cases impossible
      · exact ⟨Run.noConfusion, Run.noConfusion⟩
  | call own here | sleep own here | print own here _ | printed own here =>
      refine flagged_statement flagged rfl rfl ?_ ?_
      · intro past
        rw [here]
        exact past
      · exact ⟨Run.noConfusion, Run.noConfusion⟩
  | unlock own here =>
      refine flagged_statement flagged rfl rfl ?_ ?_
      · intro _
        rw [here]
        rfl
      · exact ⟨Run.noConfusion, Run.noConfusion⟩
  | testSet own here flag =>
      refine flagged_run flagged rfl rfl ?_ ?_ ?_
      · intro _
        exact flag
      · exact Run.noConfusion
      · exact Run.noConfusion
  | testUnset own here flag =>
      refine flagged_run flagged rfl rfl ?_ ?_ ?_
      · intro impossible
        cases impossible
      · intro _
        exact flag
      · exact Run.noConfusion
  | block own here =>
      refine flagged_run flagged rfl rfl ?_ ?_ ?_
      · intro impossible
        cases impossible
      · exact Run.noConfusion
      · intro _ set
        rw [flagged.unset here] at set
        cases set
  | handlerLock here free =>
      refine flagged_handler flagged rfl rfl rfl ?_ (by rw [here]; exact Handler.noConfusion)
      rintro (impossible | impossible) <;> cases impossible
  | handlerUnlock here =>
      refine flagged_handler flagged rfl rfl rfl ?_ (by rw [here]; exact Handler.noConfusion)
      rintro (impossible | impossible) <;> cases impossible
  | signal here =>
      refine flagged_handler flagged rfl rfl rfl ?_ (by rw [here]; exact Handler.noConfusion)
      rintro (impossible | impossible) <;> cases impossible
  | @store thread here =>
      constructor
      · intro _ _
        rfl
      · intro _
        rfl
      · intro blocking
        have blocks : s.run = .block := blocking
        have both := MutexDiscipline.inside_unique owned.exitRun .run (.handler thread)
          (by rw [Inside, blocks]; rfl) (by rw [Inside, here]; rfl)
        cases both
      · intro _ _
        exact ⟨thread, Function.update_self thread _ s.handler⟩
  | @notifyAll thread here =>
      have set : s.exitRun = true := flagged.stored thread (.inl here)
      constructor
      · intro _ _
        exact set
      · intro _
        exact set
      · intro blocking
        have same : s.run = .block := by
          cases run : s.run <;> simp only [run, Run.woken] at blocking <;>
            first | rfl | cases blocking
        exact flagged.unset same
      · intro blocked _
        cases run : s.run <;> simp only [run, Run.woken] at blocked <;> cases blocked
  | logLock own here free | logged own here | enterLog own here =>
      exact ⟨flagged.stored, flagged.leaving, flagged.unset, flagged.noticed⟩

theorem reached_flagged {lines : Lines} {s : State Other}
    (reached : Reached (system Other lines) s) : Flagged s := by
  apply invariant_of_step Flagged _ _ reached
  · intro start begins
    have empty : start = {} := begins
    rw [empty]
    constructor
    · rintro thread (impossible | impossible) <;> cases impossible
    · intro impossible
      cases impossible
    · intro impossible
      cases impossible
    · intro impossible
      cases impossible
  · intro before action after reached flagged _ taken
    exact flagged_step (reached_owned reached) flagged (step_transition taken)

/-! Coming to rest. -/

/-- A statement of a thread that is there already. -/
def internal : Action Other → Bool
  | .run | .handler _ | .log _ => true
  | .signal _ | .enterLog _ | .spuriousWakeup => false

def Stopped (lines : Lines) (s : State Other) : Prop :=
  ∀ action, internal action = true → step lines s action = none

structure Quiet (s : State Other) : Prop where
  handlers : ∀ thread, s.handler thread = .idle
  logs : ∀ thread, s.log thread = .idle

def Finished (s : State Other) : Prop := s.run = .finished ∧ Quiet s

/-- Waiting for a signal. -/
def Waiting (s : State Other) : Prop := s.run = .blocked ∧ s.exitRun = false ∧ Quiet s

/-- The handler waits for the `Run` that it has interrupted. -/
def SelfWait (s : State Other) : Prop := holds s.run = true ∧ s.handler .main = .lock

/-- `Run` waits to write a line, and the thread that is writing one waits in the
handler for `Run`. -/
def CrossWait (s : State Other) : Prop :=
  ∃ thread part rest, s.run = .statements part (.log :: rest) ∧
    s.log thread = .printing ∧ s.handler (.other thread) = .lock

def Deadlocked (s : State Other) : Prop := SelfWait s ∨ CrossWait s

section Rests

variable {lines : Lines} {s : State Other}

theorem handler_rests {thread : Thread Other}
    (rests : step lines s (.handler thread) = none) :
    s.handler thread = .idle ∨ (s.handler thread = .lock ∧ s.exitRunMutex ≠ none) := by
  simp only [step, handlerStep] at rests
  cases here : s.handler thread with
  | idle => exact .inl rfl
  | lock =>
      refine .inr ⟨rfl, fun free => ?_⟩
      simp [here, free] at rests
  | _ => simp [here] at rests

theorem log_rests {thread : Other} (own : s.handler (.other thread) = .idle)
    (rests : step lines s (.log thread) = none) :
    s.log thread = .idle ∨ (s.log thread = .lock ∧ s.coutMutex ≠ none) := by
  simp only [step, own, if_true, logStep] at rests
  cases here : s.log thread with
  | idle => exact .inl rfl
  | lock =>
      refine .inr ⟨rfl, fun free => ?_⟩
      simp [here, free] at rests
  | printing => simp [here] at rests

theorem run_rests (own : s.handler .main = .idle) (rests : step lines s .run = none) :
    s.run = .blocked ∨ s.run = .finished ∨
      ((s.run = .lock ∨ s.run = .relock) ∧ s.exitRunMutex ≠ none) ∨
      ∃ part rest, s.run = .statements part (.log :: rest) ∧ s.coutMutex ≠ none := by
  simp only [step, own, if_true, runStep] at rests
  cases here : s.run with
  | blocked => exact .inl rfl
  | finished => exact .inr (.inl rfl)
  | lock =>
      refine .inr (.inr (.inl ⟨.inl rfl, fun free => ?_⟩))
      simp [here, free] at rests
  | relock =>
      refine .inr (.inr (.inl ⟨.inr rfl, fun free => ?_⟩))
      simp [here, free] at rests
  | statements part rest =>
      rw [here] at rests
      cases rest with
      | nil => cases part <;> simp [statementStep] at rests
      | cons statement rest =>
          cases statement with
          | log =>
              refine .inr (.inr (.inr ⟨part, rest, rfl, fun free => ?_⟩))
              simp [statementStep, free] at rests
          | _ => simp [statementStep] at rests
  | _ => simp [here] at rests

theorem stopped_quiet (owned : Owned s) (stopped : Stopped lines s)
    (free : s.exitRunMutex = none) : Quiet s := by
  have handlers : ∀ thread, s.handler thread = .idle := by
    intro thread
    obtain idle | ⟨-, held⟩ := handler_rests (stopped (.handler thread) rfl)
    · exact idle
    · exact absurd free held
  have cout : s.coutMutex = none := by
    rw [MutexDiscipline.free_iff owned.cout]
    intro party prints
    cases party with
    | main =>
        have outside := (MutexDiscipline.free_iff owned.exitRun).mp free .run
        have inside : holds s.run = true := by
          cases run : s.run <;> simp only [Prints, run] at prints <;>
            first | rfl | cases prints
        exact outside inside
    | other thread =>
        obtain idle | ⟨locking, -⟩ := log_rests (handlers (.other thread))
          (stopped (.log thread) rfl)
        · rw [Prints, idle] at prints
          cases prints
        · rw [Prints, locking] at prints
          cases prints
  constructor
  · exact handlers
  · intro thread
    obtain idle | ⟨-, held⟩ := log_rests (handlers (.other thread)) (stopped (.log thread) rfl)
    · exact idle
    · exact absurd cout held

theorem stopped_free (owned : Owned s) (flagged : Flagged s) (stopped : Stopped lines s)
    (free : s.exitRunMutex = none) : Finished s ∨ Waiting s := by
  have quiet := stopped_quiet owned stopped free
  obtain blocked | finished | ⟨-, held⟩ | ⟨part, rest, here, -⟩ :=
    run_rests (quiet.handlers .main) (stopped .run rfl)
  · right
    refine ⟨blocked, ?_, quiet⟩
    rw [← Bool.not_eq_true]
    intro set
    obtain ⟨thread, notifies⟩ := flagged.noticed blocked set
    rw [quiet.handlers thread] at notifies
    cases notifies
  · exact .inl ⟨finished, quiet⟩
  · exact absurd free held
  · have outside := (MutexDiscipline.free_iff owned.exitRun).mp free .run
    rw [Inside, here] at outside
    exact absurd rfl outside

theorem stopped_held (owned : Owned s) (stopped : Stopped lines s)
    (held : s.exitRunMutex = some .run) : Deadlocked s := by
  have inside : holds s.run = true := (owned.exitRun .run).mp held
  obtain idle | ⟨locking, -⟩ := handler_rests (stopped (.handler .main) rfl)
  · right
    obtain blocked | finished | ⟨outside | outside, -⟩ | ⟨part, rest, here, busy⟩ :=
      run_rests idle (stopped .run rfl)
    · rw [blocked] at inside
      cases inside
    · rw [finished] at inside
      cases inside
    · rw [outside] at inside
      cases inside
    · rw [outside] at inside
      cases inside
    · obtain ⟨party, owns⟩ := Option.ne_none_iff_exists'.mp busy
      have prints := (owned.cout party).mp owns
      cases party with
      | main =>
          rw [Prints, here] at prints
          cases prints
      | other thread =>
          refine ⟨thread, part, rest, here, prints, ?_⟩
          obtain idle | ⟨locking, -⟩ := handler_rests (stopped (.handler (.other thread)) rfl)
          · obtain still | ⟨locking, -⟩ := log_rests idle (stopped (.log thread) rfl)
            · rw [Prints, still] at prints
              cases prints
            · rw [Prints, locking] at prints
              cases prints
          · exact locking
  · exact .inl ⟨inside, locking⟩

theorem stopped_cases (reached : Reached (system Other lines) s) (stopped : Stopped lines s) :
    Finished s ∨ Waiting s ∨ Deadlocked s := by
  have owned := reached_owned reached
  cases mutex : s.exitRunMutex with
  | none =>
      obtain finished | waiting := stopped_free owned (reached_flagged reached) stopped mutex
      · exact .inl finished
      · exact .inr (.inl waiting)
  | some owner =>
      cases owner with
      | run => exact .inr (.inr (stopped_held owned stopped mutex))
      | handler thread =>
          have inside : Handler.holds (s.handler thread) = true :=
            (owned.exitRun (.handler thread)).mp mutex
          obtain idle | ⟨locking, -⟩ := handler_rests (stopped (.handler thread) rfl)
          · rw [idle] at inside
            cases inside
          · rw [locking] at inside
            cases inside

end Rests

/-! What is stuck stays stuck. -/

section Stuck

variable {lines : Lines} {s t : State Other} {action : Action Other}

/-- No step takes the mutex from `Run` or moves a handler that waits for it. -/
theorem waiting_handler_stays {thread : Thread Other} (owned : Owned s)
    (inside : holds s.run = true) (waits : s.handler thread = .lock)
    (transition : Transition lines s action t) : t.handler thread = .lock := by
  have taken : s.exitRunMutex ≠ none := by
    rw [(owned.exitRun .run).mpr inside]
    exact Option.some_ne_none _
  have apart : ∀ {other : Thread Other} {position : Handler}, s.handler other ≠ .lock →
      Function.update s.handler other position thread = .lock := by
    intro other position moves
    have distinct : thread ≠ other := by
      intro own
      rw [own] at waits
      exact moves waits
    rw [Function.update_of_ne distinct]
    exact waits
  cases transition with
  | handlerLock here free => exact absurd free taken
  | store here | notifyAll here | handlerUnlock here | signal here =>
      exact apart (by rw [here]; exact Handler.noConfusion)
  | lock | call | sleep | print | printed | wait | unlock | testSet | testUnset | block
  | relock | logLock | logged | enterLog | spuriousWakeup => exact waits

/-- Only its own statements and its wake-up move `Run`. -/
theorem run_stays (inside : holds s.run = true) (transition : Transition lines s action t)
    (other : action ≠ .run) : t.run = s.run := by
  cases transition with
  | notifyAll here =>
      have woken : ∀ run, holds run = true → run.woken = run := by
        intro run held
        cases run <;> first | rfl | cases held
      exact woken s.run inside
  | spuriousWakeup here =>
      rw [here] at inside
      cases inside
  | handlerLock | store | handlerUnlock | logLock | logged | signal | enterLog => rfl
  | lock | call | sleep | print | printed | wait | unlock | testSet | testUnset | block
  | relock => exact absurd rfl other

theorem own_of_run (transition : Transition lines s .run t) : s.handler .main = .idle := by
  cases transition <;> assumption

theorem self_wait_stays (owned : Owned s) (stuck : SelfWait s)
    (transition : Transition lines s action t) : SelfWait t ∧ t.run = s.run := by
  obtain ⟨inside, waits⟩ := stuck
  have still := waiting_handler_stays owned inside waits transition
  have same : t.run = s.run := by
    apply run_stays inside transition
    rintro rfl
    have idle := own_of_run transition
    rw [waits] at idle
    cases idle
  refine ⟨⟨?_, still⟩, same⟩
  rw [same]
  exact inside

/-- A thread in the handler does not go on with its line. -/
theorem printing_stays {thread : Other} (prints : s.log thread = .printing)
    (busy : s.handler (.other thread) ≠ .idle) (transition : Transition lines s action t) :
    t.log thread = .printing := by
  have apart : ∀ {other : Other} {position : Log}, thread ≠ other →
      Function.update s.log other position thread = .printing := by
    intro other position distinct
    rw [Function.update_of_ne distinct]
    exact prints
  cases transition with
  | @logLock other own here free =>
      apply apart
      rintro rfl
      exact busy own
  | @logged other own here =>
      apply apart
      rintro rfl
      exact busy own
  | @enterLog other own here =>
      apply apart
      rintro rfl
      exact busy own
  | lock | call | sleep | print | printed | wait | unlock | testSet | testUnset | block
  | relock | handlerLock | store | notifyAll | handlerUnlock | signal | spuriousWakeup =>
      exact prints

theorem cross_wait_stays (owned : Owned s) (stuck : CrossWait s)
    (transition : Transition lines s action t) : CrossWait t ∧ t.run = s.run := by
  obtain ⟨thread, part, rest, here, prints, waits⟩ := stuck
  have inside : holds s.run = true := by
    rw [here]
    rfl
  have busy : s.handler (.other thread) ≠ .idle := by
    rw [waits]
    exact Handler.noConfusion
  have taken : s.coutMutex ≠ none := by
    rw [(owned.cout (.other thread)).mpr prints]
    exact Option.some_ne_none _
  have same : t.run = s.run := by
    apply run_stays inside transition
    rintro rfl
    cases transition with
    | print own at_log free => exact taken free
    | lock own other | call own other | sleep own other | printed own other | wait own other
    | unlock own other | testSet own other | testUnset own other | block own other
    | relock own other =>
        rw [here] at other
        cases other
  refine ⟨⟨thread, part, rest, ?_, ?_, ?_⟩, same⟩
  · rw [same]
    exact here
  · exact printing_stays prints busy transition
  · exact waiting_handler_stays owned inside waits transition

theorem deadlock_stays (owned : Owned s) (stuck : Deadlocked s)
    (transition : Transition lines s action t) : Deadlocked t ∧ t.run = s.run := by
  obtain self | cross := stuck
  · obtain ⟨still, same⟩ := self_wait_stays owned self transition
    exact ⟨.inl still, same⟩
  · obtain ⟨still, same⟩ := cross_wait_stays owned cross transition
    exact ⟨.inr still, same⟩

theorem deadlock_lasts (labels : List (Action Other)) {after : State Other}
    (reached : Reached (system Other lines) s) (stuck : Deadlocked s)
    (ran : execute (system Other lines) s labels = some after) :
    Deadlocked after ∧ after.run = s.run := by
  apply invariant_of_execute (fun state => Deadlocked state ∧ state.run = s.run) _ labels
    reached ⟨stuck, rfl⟩ ran
  intro state label next within kept taken
  obtain ⟨still, same⟩ := deadlock_stays (reached_owned within) kept.1 (step_transition taken)
  exact ⟨still, same.trans kept.2⟩

end Stuck

/-- The threads come to rest when `Run` has finished, when it waits for a signal
that has not come, or when a handler waits for the mutex that `Run` holds: on the
main thread, or on one that is writing the line that `Run` waits to write. From
the last two `Run` never moves again, whatever happens. -/
theorem rests_finished_waiting_or_deadlocked {lines : Lines} {s : State Other}
    (reached : Reached (system Other lines) s) :
    (Stopped lines s → Finished s ∨ Waiting s ∨ Deadlocked s) ∧
    (Deadlocked s → ∀ labels after, execute (system Other lines) s labels = some after →
      Deadlocked after ∧ after.run = s.run) := by
  constructor
  · exact stopped_cases reached
  · intro stuck labels after ran
    exact deadlock_lasts labels reached stuck ran

/-- A second signal comes while `Run` sleeps in front of `DisconnectAsync`. -/
def secondSignalSchedule : List (Action Nat) :=
  [.run, .run, .run, .run, .run, .run, .run, .run, .signal .main, .handler .main, .handler .main,
    .handler .main, .handler .main, .run, .run, .run, .run, .run, .signal .main]

theorem second_signal_deadlocks :
    ∃ s, execute (system Nat fun _ => (0, 0)) {} secondSignalSchedule = some s ∧
      s.calls = [.getLibVersion, .connectAsync, .unSubscribeAsync] ∧ SelfWait s ∧
      ∀ labels after, execute (system Nat fun _ => (0, 0)) s labels = some after →
        Deadlocked after ∧ after.run = s.run := by
  refine ⟨_, rfl, rfl, ⟨rfl, rfl⟩, ?_⟩
  apply (rests_finished_waiting_or_deadlocked
    (reached_of_execute secondSignalSchedule (.start rfl) rfl)).2
  exact .inl ⟨rfl, rfl⟩

end IMqtt.Sample.Deadlock
