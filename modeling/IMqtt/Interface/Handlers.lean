import IMqtt.Library.LabelledSteps
import Mathlib.Logic.Function.Basic

/-!
# SetCallbacks

The handlers of a client can be changed while its callbacks run. A callback reads
the pointer, builds the arguments, and calls; a handler may call the client and
so make further callbacks run on its thread. The pointers are read and stored in
one piece.
-/

namespace IMqtt.Handlers

open LabelledSteps

set_option autoImplicit false

universe u v

inductive Kind
  | log | command | message | connection
  deriving DecidableEq, Repr

/-- Without a handler of the user's the client calls its own methods. -/
inductive Pointer (Handler : Type u)
  | this
  | user (handler : Handler)
  deriving DecidableEq, Repr

variable {Handler : Type u} {Thread : Type v}

abbrev Callbacks (Handler : Type u) := Kind → Pointer Handler

def pointer : Option Handler → Pointer Handler
  | some handler => .user handler
  | none => .this

def setCallbacks (kind : Kind) (ptr : Option Handler) (callbacks : Callbacks Handler) :
    Callbacks Handler := Function.update callbacks kind (pointer ptr)

/-- `IMqttClient::IMqttClient`. -/
def construct (log cmd msg con : Option Handler) : Callbacks Handler :=
  setCallbacks .connection con (setCallbacks .message msg
    (setCallbacks .command cmd (setCallbacks .log log fun _ => .this)))

structure Target (Handler : Type u) where
  kind : Kind
  ptr : Pointer Handler
  deriving DecidableEq, Repr

/-- What a thread has read and not yet called, and the calls it is in. -/
structure Stack (Handler : Type u) where
  pending : Option (Target Handler) := none
  running : List (Target Handler) := []
  deriving DecidableEq, Repr

structure State (Handler : Type u) (Thread : Type v) where
  callbacks : Callbacks Handler
  stack : Thread → Stack Handler := fun _ => {}
  calls : List (Thread × Target Handler) := []

inductive Action (Handler : Type u) (Thread : Type v)
  | setCallbacks (kind : Kind) (ptr : Option Handler)
  | read (thread : Thread) (kind : Kind)
  | call (thread : Thread)
  | finish (thread : Thread)
  deriving DecidableEq, Repr

variable [DecidableEq Thread]

def State.put (s : State Handler Thread) (thread : Thread) (stack : Stack Handler) :
    State Handler Thread :=
  { s with stack := Function.update s.stack thread stack }

def readStep (s : State Handler Thread) (thread : Thread) (kind : Kind) :
    Option (State Handler Thread) :=
  match (s.stack thread).pending with
  | none => some (s.put thread ⟨some ⟨kind, s.callbacks kind⟩, (s.stack thread).running⟩)
  | some _ => none

def callStep (s : State Handler Thread) (thread : Thread) : Option (State Handler Thread) :=
  match (s.stack thread).pending with
  | none => none
  | some target =>
      some { s.put thread ⟨none, target :: (s.stack thread).running⟩ with
        calls := s.calls ++ [(thread, target)] }

def finishStep (s : State Handler Thread) (thread : Thread) : Option (State Handler Thread) :=
  match (s.stack thread).pending, (s.stack thread).running with
  | none, _ :: rest => some (s.put thread ⟨none, rest⟩)
  | _, _ => none

def step (s : State Handler Thread) : Action Handler Thread → Option (State Handler Thread)
  | .setCallbacks kind ptr => some { s with callbacks := setCallbacks kind ptr s.callbacks }
  | .read thread kind => readStep s thread kind
  | .call thread => callStep s thread
  | .finish thread => finishStep s thread

def system (Handler : Type u) (Thread : Type v) [DecidableEq Thread] :
    System (State Handler Thread) (Action Handler Thread) where
  initial s := ∃ log cmd msg con, s = { callbacks := construct log cmd msg con }
  step := step

inductive Transition (s : State Handler Thread) :
    Action Handler Thread → State Handler Thread → Prop
  | setCallbacks {kind : Kind} {ptr : Option Handler} :
      Transition s (.setCallbacks kind ptr)
        { s with callbacks := setCallbacks kind ptr s.callbacks }
  | read {thread : Thread} {kind : Kind} (free : (s.stack thread).pending = none) :
      Transition s (.read thread kind)
        (s.put thread ⟨some ⟨kind, s.callbacks kind⟩, (s.stack thread).running⟩)
  | call {thread : Thread} {target : Target Handler}
      (here : (s.stack thread).pending = some target) :
      Transition s (.call thread)
        { s.put thread ⟨none, target :: (s.stack thread).running⟩ with
          calls := s.calls ++ [(thread, target)] }
  | finish {thread : Thread} {target : Target Handler} {rest : List (Target Handler)}
      (free : (s.stack thread).pending = none)
      (inside : (s.stack thread).running = target :: rest) :
      Transition s (.finish thread) (s.put thread ⟨none, rest⟩)

theorem step_transition {s after : State Handler Thread} {action : Action Handler Thread}
    (taken : step s action = some after) : Transition s action after := by
  cases action with
  | setCallbacks kind ptr =>
      cases taken
      exact .setCallbacks
  | read thread kind =>
      cases here : (s.stack thread).pending <;> rw [step, readStep, here] at taken <;> cases taken
      exact .read here
  | call thread =>
      cases here : (s.stack thread).pending <;> rw [step, callStep, here] at taken <;> cases taken
      exact .call here
  | finish thread =>
      cases here : (s.stack thread).pending with
      | some target =>
          rw [step, finishStep, here] at taken
          cases taken
      | none =>
          cases inside : (s.stack thread).running <;>
            rw [step, finishStep, here, inside] at taken <;> cases taken
          exact .finish here inside

/-! A handler that has been replaced. -/

section Replaced

variable {s after : State Handler Thread} {kind : Kind} {handler : Handler}

/-- `SetCallbacks` does not install the handler again. -/
def Otherwise (kind : Kind) (handler : Handler) (action : Action Handler Thread) : Prop :=
  action ≠ .setCallbacks kind (some handler)

omit [DecidableEq Thread] in
theorem replaced_stays {other : Kind} {ptr : Option Handler}
    (replaced : s.callbacks kind ≠ .user handler)
    (otherwise : Otherwise kind handler (.setCallbacks other ptr : Action Handler Thread)) :
    setCallbacks other ptr s.callbacks kind ≠ .user handler := by
  rw [setCallbacks]
  by_cases own : kind = other
  · subst own
    rw [Function.update_self]
    cases ptr with
    | none =>
        intro same
        cases same
    | some installed =>
        intro same
        cases same
        exact otherwise rfl
  · rw [Function.update_of_ne own]
    exact replaced

omit [DecidableEq Thread] in
/-- What is read from now on is another handler. -/
theorem read_differs (replaced : s.callbacks kind ≠ .user handler) (other : Kind) :
    (⟨other, s.callbacks other⟩ : Target Handler) ≠ ⟨kind, .user handler⟩ := by
  intro same
  rw [Target.mk.injEq] at same
  obtain ⟨own, ptr⟩ := same
  rw [own] at ptr
  exact replaced ptr

/-- Neither the client nor a thread has the handler. -/
structure Released (kind : Kind) (handler : Handler) (s : State Handler Thread) : Prop where
  replaced : s.callbacks kind ≠ .user handler
  unread : ∀ thread, (s.stack thread).pending ≠ some ⟨kind, .user handler⟩
  outside : ∀ thread, ⟨kind, .user handler⟩ ∉ (s.stack thread).running

theorem released_put {thread : Thread} {stack : Stack Handler} (released : Released kind handler s)
    (unread : stack.pending ≠ some ⟨kind, .user handler⟩)
    (outside : ⟨kind, .user handler⟩ ∉ stack.running) :
    Released kind handler (s.put thread stack) := by
  have within : ∀ other, (Function.update s.stack thread stack other).pending ≠
      some ⟨kind, .user handler⟩ ∧
        ⟨kind, .user handler⟩ ∉ (Function.update s.stack thread stack other).running := by
    rw [Function.forall_update_iff s.stack fun _ here =>
      here.pending ≠ some ⟨kind, .user handler⟩ ∧ ⟨kind, .user handler⟩ ∉ here.running]
    exact ⟨⟨unread, outside⟩, fun other _ => ⟨released.unread other, released.outside other⟩⟩
  exact ⟨released.replaced, fun other => (within other).1, fun other => (within other).2⟩

theorem released_step {action : Action Handler Thread} (released : Released kind handler s)
    (otherwise : Otherwise kind handler action) (transition : Transition s action after) :
    Released kind handler after := by
  cases transition with
  | setCallbacks =>
      exact ⟨replaced_stays released.replaced otherwise, released.unread, released.outside⟩
  | @read thread other free =>
      apply released_put released
      · intro same
        exact read_differs released.replaced other (Option.some.inj same)
      · exact released.outside thread
  | @call thread target here =>
      have distinct : ⟨kind, .user handler⟩ ≠ target := by
        intro same
        rw [← same] at here
        exact released.unread thread here
      have moved := @released_put _ _ _ s kind handler thread
        ⟨none, target :: (s.stack thread).running⟩ released (by simp)
        (List.not_mem_cons_of_ne_of_not_mem distinct (released.outside thread))
      exact ⟨moved.replaced, moved.unread, moved.outside⟩
  | @finish thread target rest free inside =>
      apply released_put released
      · intro same
        cases same
      · intro member
        apply released.outside thread
        rw [inside]
        exact List.mem_cons_of_mem target member

theorem released_stays (labels : List (Action Handler Thread)) (released : Released kind handler s)
    (otherwise : ∀ action ∈ labels, Otherwise kind handler action)
    (ran : execute (system Handler Thread) s labels = some after) :
    Released kind handler after := by
  refine invariant_of_schedule (Released kind handler) (Otherwise kind handler) ?_ labels
    released otherwise ran
  intro state action next kept allowed taken
  exact released_step kept allowed (step_transition taken)

/-- A thread that has read the pointer may call. -/
theorem call_runs {thread : Thread} {target : Target Handler}
    (here : (s.stack thread).pending = some target) :
    ∃ after, step s (.call thread) = some after ∧ after.callbacks = s.callbacks ∧
      (after.stack thread).pending = none ∧ target ∈ (after.stack thread).running := by
  refine ⟨{ s.put thread ⟨none, target :: (s.stack thread).running⟩ with
    calls := s.calls ++ [(thread, target)] }, ?_, rfl, ?_, ?_⟩
  · rw [step, callStep, here]
  · simp [State.put]
  · simp [State.put]

theorem read_then_call {thread : Thread} (free : (s.stack thread).pending = none) :
    ∃ after, execute (system Handler Thread) s [.read thread kind, .call thread] = some after ∧
      ⟨kind, s.callbacks kind⟩ ∈ (after.stack thread).running := by
  have reads : step s (.read thread kind) =
      some (s.put thread ⟨some ⟨kind, s.callbacks kind⟩, (s.stack thread).running⟩) := by
    rw [step, readStep, free]
  have pending : ((s.put thread ⟨some ⟨kind, s.callbacks kind⟩,
      (s.stack thread).running⟩).stack thread).pending = some ⟨kind, s.callbacks kind⟩ := by
    simp [State.put]
  obtain ⟨after, calls, -, -, inside⟩ := call_runs pending
  refine ⟨after, ?_, inside⟩
  simp only [execute, system, reads, calls, Option.bind_some]

/-- An installed handler can be called by any thread, once that has made the call
it is about to make. -/
theorem installed_runs {thread : Thread} (installed : s.callbacks kind = .user handler) :
    ∃ labels after, (∀ action ∈ labels, Otherwise kind handler action) ∧
      execute (system Handler Thread) s labels = some after ∧
      ⟨kind, .user handler⟩ ∈ (after.stack thread).running := by
  cases pending : (s.stack thread).pending with
  | none =>
      obtain ⟨after, ran, inside⟩ := @read_then_call _ _ _ s kind thread pending
      rw [installed] at inside
      exact ⟨_, after, by simp [Otherwise], ran, inside⟩
  | some target =>
      obtain ⟨middle, calls, same, free, -⟩ := call_runs pending
      obtain ⟨after, ran, inside⟩ := @read_then_call _ _ _ middle kind thread free
      rw [same, installed] at inside
      refine ⟨[.call thread, .read thread kind, .call thread], after, ?_, ?_, inside⟩
      · simp [Otherwise]
      · rw [execute_cons]
        have first : (system Handler Thread).step s (.call thread) = some middle := calls
        rw [first]
        exact ran

/-- Who does not have to expect the handler's code to run has taken it back from
everyone. -/
theorem released_of_unused (thread : Thread)
    (unused : ∀ labels after, (∀ action ∈ labels, Otherwise kind handler action) →
      execute (system Handler Thread) s labels = some after →
      ∀ thread, ⟨kind, .user handler⟩ ∉ (after.stack thread).running) :
    Released kind handler s := by
  constructor
  · intro installed
    obtain ⟨labels, after, otherwise, ran, inside⟩ := @installed_runs _ _ _ s _ _ thread installed
    exact unused labels after otherwise ran thread inside
  · intro other pending
    obtain ⟨after, calls, -, -, inside⟩ := call_runs pending
    refine unused [.call other] after (by simp [Otherwise]) ?_ other inside
    have first : (system Handler Thread).step s (.call other) = some after := calls
    rw [execute_cons, first]
    rfl
  · exact unused [] s (by simp) rfl

end Replaced

/-! How often a replaced handler is still called. -/

/-- The call that a thread is about to make. -/
def owed [DecidableEq Handler] (target : Target Handler) (stack : Stack Handler) : Nat :=
  if stack.pending = some target then 1 else 0

section Counted

variable [DecidableEq Handler] {s after : State Handler Thread} {thread : Thread}
  {kind : Kind} {handler : Handler}

structure Counted (thread : Thread) (kind : Kind) (handler : Handler) (total : Nat)
    (s : State Handler Thread) : Prop where
  replaced : s.callbacks kind ≠ .user handler
  total : s.calls.count (thread, ⟨kind, .user handler⟩) +
    owed ⟨kind, .user handler⟩ (s.stack thread) = total

theorem owed_put {other : Thread} {stack : Stack Handler} {target : Target Handler}
    (same : owed target stack = owed target (s.stack other)) :
    owed target ((s.put other stack).stack thread) = owed target (s.stack thread) := by
  have updated : (s.put other stack).stack = Function.update s.stack other stack := rfl
  by_cases own : thread = other
  · rw [own, updated, Function.update_self]
    exact same
  · rw [updated, Function.update_of_ne own]

theorem owed_of_ne {target : Target Handler} {stack : Stack Handler}
    (differs : stack.pending ≠ some target) : owed target stack = 0 := if_neg differs

/-- A thread makes the call that it owed, or another one. -/
theorem count_call {total : Nat} {other : Thread} {target : Target Handler}
    (counted : Counted thread kind handler total s)
    (here : (s.stack other).pending = some target) :
    (s.calls ++ [(other, target)]).count (thread, ⟨kind, .user handler⟩) +
      owed ⟨kind, .user handler⟩
        ((s.put other ⟨none, target :: (s.stack other).running⟩).stack thread) = total := by
  have before := counted.total
  by_cases own : (other, target) = (thread, ⟨kind, .user handler⟩)
  · obtain ⟨rfl, rfl⟩ := Prod.mk.inj own
    have due : owed ⟨kind, .user handler⟩ (s.stack other) = 1 := if_pos here
    have paid : owed ⟨kind, .user handler⟩ ((s.put other
        ⟨none, ⟨kind, .user handler⟩ :: (s.stack other).running⟩).stack other) = 0 := by
      apply owed_of_ne
      simp [State.put]
    rw [List.count_append, List.count_singleton_self, paid]
    rw [due] at before
    omega
  · have stays : owed ⟨kind, .user handler⟩
        ((s.put other ⟨none, target :: (s.stack other).running⟩).stack thread) =
          owed ⟨kind, .user handler⟩ (s.stack thread) := by
      by_cases mine : thread = other
      · subst mine
        have differs : target ≠ ⟨kind, .user handler⟩ := fun same => own (same ▸ rfl)
        apply owed_put
        rw [owed_of_ne (by simp), owed_of_ne]
        rw [here]
        exact fun same => differs (Option.some.inj same)
      · simp [State.put, Function.update_of_ne mine]
    rw [List.count_append, List.count_singleton, beq_eq_false_iff_ne.mpr own, stays]
    exact before

theorem counted_step {total : Nat} {action : Action Handler Thread}
    (counted : Counted thread kind handler total s) (otherwise : Otherwise kind handler action)
    (transition : Transition s action after) : Counted thread kind handler total after := by
  cases transition with
  | setCallbacks => exact ⟨replaced_stays counted.replaced otherwise, counted.total⟩
  | @read reader other free =>
      have nothing : owed ⟨kind, .user handler⟩ (s.stack reader) = 0 :=
        owed_of_ne (by simp [free])
      refine ⟨counted.replaced, ?_⟩
      rw [owed_put]
      · exact counted.total
      · rw [nothing]
        apply owed_of_ne
        exact fun same => read_differs counted.replaced other (Option.some.inj same)
  | @finish finisher target rest free inside =>
      have nothing : owed ⟨kind, .user handler⟩ (s.stack finisher) = 0 :=
        owed_of_ne (by simp [free])
      refine ⟨counted.replaced, ?_⟩
      rw [owed_put]
      · exact counted.total
      · rw [nothing]
        exact owed_of_ne (by simp)
  | @call caller target here => exact ⟨counted.replaced, count_call counted here⟩

/-- What a thread has called and what it is about to call stay the same number. -/
theorem count_stays (labels : List (Action Handler Thread))
    (replaced : s.callbacks kind ≠ .user handler)
    (otherwise : ∀ action ∈ labels, Otherwise kind handler action)
    (ran : execute (system Handler Thread) s labels = some after) :
    after.calls.count (thread, ⟨kind, .user handler⟩) +
        owed ⟨kind, .user handler⟩ (after.stack thread) =
      s.calls.count (thread, ⟨kind, .user handler⟩) +
        owed ⟨kind, .user handler⟩ (s.stack thread) := by
  have counted : Counted thread kind handler
      (s.calls.count (thread, ⟨kind, .user handler⟩) +
        owed ⟨kind, .user handler⟩ (s.stack thread)) after := by
    refine invariant_of_schedule (Counted thread kind handler _) (Otherwise kind handler) ?_
      labels ⟨replaced, rfl⟩ otherwise ran
    intro state action next kept allowed taken
    exact counted_step kept allowed (step_transition taken)
  exact counted.total

end Counted

/-- No run that leaves a handler alone has a thread in its code exactly if another
one is installed, no thread has read its pointer without calling it, and none is
in it. A handler that has been replaced is called once more by each thread that
has read its pointer and goes on, and by no other. -/
theorem unused_iff_released [DecidableEq Handler] [Inhabited Thread]
    (s : State Handler Thread) (kind : Kind) (handler : Handler) :
    ((∀ labels after, (∀ action ∈ labels, Otherwise kind handler action) →
        execute (system Handler Thread) s labels = some after →
        ∀ thread, ⟨kind, .user handler⟩ ∉ (after.stack thread).running) ↔
      Released kind handler s) ∧
    (s.callbacks kind ≠ .user handler →
      ∀ labels after, (∀ action ∈ labels, Otherwise kind handler action) →
        execute (system Handler Thread) s labels = some after →
        ∀ thread, after.calls.count (thread, ⟨kind, .user handler⟩) +
            owed ⟨kind, .user handler⟩ (after.stack thread) =
          s.calls.count (thread, ⟨kind, .user handler⟩) +
            owed ⟨kind, .user handler⟩ (s.stack thread)) := by
  constructor
  · constructor
    · exact released_of_unused default
    · intro released labels after otherwise ran
      exact (released_stays labels released otherwise ran).outside
  · intro replaced labels after otherwise ran thread
    exact count_stays labels replaced otherwise ran

/-- The handler is disabled while a thread is about to notify it. -/
def disablingSchedule : List (Action Nat Nat) :=
  [.read 4 .connection, .setCallbacks .connection none]

def disabledState : State Nat Nat where
  callbacks := setCallbacks .connection none (construct none none none (some 7))
  stack := Function.update (fun _ => {}) 4 { pending := some ⟨.connection, .user 7⟩ }

theorem disabled_handler_is_called_once :
    execute (system Nat Nat) { callbacks := construct none none none (some 7) }
        disablingSchedule = some disabledState ∧
      ¬ Released .connection 7 disabledState ∧
      ∃ after, execute (system Nat Nat) disabledState [.call 4, .read 5 .connection, .call 5] =
          some after ∧
        after.calls.count (4, ⟨.connection, .user 7⟩) +
          owed ⟨.connection, .user 7⟩ (after.stack 4) = 1 ∧
        after.calls.count (5, ⟨.connection, .user 7⟩) +
          owed ⟨.connection, .user 7⟩ (after.stack 5) = 0 := by
  have both := unused_iff_released disabledState .connection 7
  have replaced : disabledState.callbacks .connection ≠ .user 7 := by decide
  have counts := both.2 replaced [.call 4, .read 5 .connection, .call 5] _
    (by simp [Otherwise]) rfl
  refine ⟨rfl, ?_, _, rfl, counts 4, counts 5⟩
  rw [← both.1]
  intro unused
  exact unused [.call 4] _ (by simp [Otherwise]) rfl 4 (by decide)

end IMqtt.Handlers
