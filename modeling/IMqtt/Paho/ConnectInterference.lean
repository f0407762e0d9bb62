import IMqtt.Paho.ConnectAsync

/-!
# When ConnectAsync calls keep apart

`ctx.pThis` is the client of the first call of the process, and `ctx.pContext`
the promise that was stored last. A callback serves its own call exactly when
its client made that first call and its promise was the last one stored by a
call that has not returned.
-/

namespace IMqtt.Paho.ConnectAsync

open IMqtt.Defines LabelledSteps

set_option autoImplicit false

universe u v

variable {Call : Type u} {Client : Type v}

/-- Each callback logs through its own client and touches no promise but the
one of its own running call, and a returned call translates a result that was
reported for it. -/
structure Separate (client : Call → Client) (texts : Texts) (s : State Call Client) :
    Prop where
  logs : ∀ entry ∈ s.logged, entry.through = client entry.request
  promises : ∀ touch ∈ s.touched, touch.promise = some touch.request ∧ touch.running = true
  results : ∀ call status, s.phase call = .returned status →
    ∃ report, (call, report) ∈ s.reported ∧
      status = (pahoRcToReasonCode texts report.value (text "MQTTAsync_connect")).1

/-- A callback logs only if the first call of the process was made on its
client, and sets its value only while its call runs and no other call has
stored a promise since. -/
def Undisturbed (client : Call → Client) (s : State Call Client) : Action Call → Prop
  | .report call _ => s.reachedStatic.head?.map client = some (client call)
  | .setValue call _ => s.stored.getLast? = some call ∧ (s.phase call).running = true
  | _ => True

instance [DecidableEq Client] [DecidableEq Call] (client : Call → Client)
    (s : State Call Client) : ∀ action, Decidable (Undisturbed client s action)
  | .report call _ =>
      inferInstanceAs (Decidable (s.reachedStatic.head?.map client = some (client call)))
  | .setValue call _ =>
      inferInstanceAs (Decidable
        (s.stored.getLast? = some call ∧ (s.phase call).running = true))
  | .call _ | .advance _ | .connect _ _ | .finish _ => .isTrue trivial

/-- The static follows the order of the calls. -/
structure ContextFollows (client : Call → Client) (ctx : Option (Context Call Client))
    (phase : Call → Phase) (reachedStatic stored : List Call) : Prop where
  pThis : ctx.map (·.pThis) = reachedStatic.head?.map client
  pContext : ctx.bind (·.pContext) = stored.getLast?
  initialised : ∀ call, phase call = .storePromise → ctx.isSome = true

section Context

variable [DecidableEq Call] {client : Call → Client} {ctx : Option (Context Call Client)}
  {phases : Call → Phase} {reachedStatic stored : List Call} {call : Call} {phase : Phase}

theorem context_move (follows : ContextFollows client ctx phases reachedStatic stored)
    (other : phase ≠ .storePromise) :
    ContextFollows client ctx (Function.update phases call phase) reachedStatic stored := by
  constructor
  · exact follows.pThis
  · exact follows.pContext
  · intro caller here
    by_cases own : caller = call
    · rw [own, Function.update_self] at here
      exact absurd here other
    · rw [Function.update_of_ne own] at here
      exact follows.initialised caller here

theorem context_init (follows : ContextFollows client ctx phases reachedStatic stored) :
    ContextFollows client (some (ctx.getD ⟨client call, none⟩))
      (Function.update phases call .storePromise) (reachedStatic ++ [call]) stored := by
  constructor
  · have before := follows.pThis
    cases ctx with
    | none =>
        have first : reachedStatic = [] := by simpa using before.symm
        rw [first]
        rfl
    | some shared =>
        rw [List.head?_append, Option.map_or, ← before]
        rfl
  · rw [← follows.pContext]
    cases ctx <;> rfl
  · intro _ _
    rfl

theorem context_store (follows : ContextFollows client ctx phases reachedStatic stored)
    (here : phases call = .storePromise) :
    ContextFollows client (ctx.map fun ctx => { ctx with pContext := some call })
      (Function.update phases call .connect) reachedStatic (stored ++ [call]) := by
  have initialised := follows.initialised call here
  rcases Option.isSome_iff_exists.mp initialised with ⟨shared, found⟩
  constructor
  · rw [← follows.pThis, found]
    rfl
  · rw [List.getLast?_concat, found]
    rfl
  · intro _ _
    rw [found]
    rfl

end Context

section Reached

variable [DecidableEq Call] {client : Call → Client} {texts : Texts}
  {s after : State Call Client} {action : Action Call}

theorem context_follows_step (transition : Transition client texts s action after)
    (follows : ContextFollows client s.ctx s.phase s.reachedStatic s.stored) :
    ContextFollows client after.ctx after.phase after.reachedStatic after.stored := by
  cases transition with
  | initStatic _ => exact context_init follows
  | storePromise here => exact context_store follows here
  | report _ _ | setValue _ _ => exact follows
  | call _ | connect _ | finish _ _ => exact context_move follows (by simp)

theorem reached_context_follows (reached : Reached (system client texts) s) :
    ContextFollows client s.ctx s.phase s.reachedStatic s.stored := by
  apply invariant_of_step (fun s : State Call Client =>
    ContextFollows client s.ctx s.phase s.reachedStatic s.stored) _ _ reached
  · intro state start
    have begins : state = initial := start
    rw [begins]
    constructor
    · rfl
    · rfl
    · intro _ here
      cases here
  · intro state action after _ follows _ taken
    exact context_follows_step (step_transition taken) follows

/-- A callback that has logged belongs to a report. -/
def CallbacksReported (s : State Call Client) : Prop :=
  ∀ entry ∈ s.inCallback, entry ∈ s.reported

theorem callbacks_reported_step (transition : Transition client texts s action after)
    (reported : CallbacksReported s) : CallbacksReported after := by
  cases transition with
  | report _ _ =>
      intro entry member
      rcases List.mem_append.mp member with earlier | new
      · exact List.mem_append_left _ (reported entry earlier)
      · exact List.mem_append_right _ new
  | setValue _ _ =>
      intro entry member
      exact reported entry (List.mem_of_mem_erase member)
  | call _ | initStatic _ | storePromise _ | connect _ | finish _ _ => exact reported

theorem reached_callbacks_reported (reached : Reached (system client texts) s) :
    CallbacksReported s := by
  apply invariant_of_step CallbacksReported _ _ reached
  · intro state start
    have begins : state = initial := start
    rw [begins]
    intro entry member
    cases member
  · intro state action after _ reported _ taken
    exact callbacks_reported_step (step_transition taken) reported

/-- A promise holds a value that was reported for its own call. -/
def PromisesReported (s : State Call Client) : Prop :=
  ∀ call value, s.promise call = some value →
    ∃ report, (call, report) ∈ s.reported ∧ value = report.value

omit [DecidableEq Call] in
theorem last_stored (follows : ContextFollows client s.ctx s.phase s.reachedStatic s.stored)
    {ctx : Context Call Client} (shared : s.ctx = some ctx) :
    ctx.pContext = s.stored.getLast? := by
  have last := follows.pContext
  rw [shared] at last
  exact last

omit [DecidableEq Call] in
/-- Where a callback logs and what it sets, in terms of the order of the calls. -/
theorem undisturbed_report (follows : ContextFollows client s.ctx s.phase s.reachedStatic
    s.stored) {call : Call} {report : Report} {ctx : Context Call Client}
    (shared : s.ctx = some ctx) :
    Undisturbed client s (.report call report) ↔ ctx.pThis = client call := by
  have first := follows.pThis
  rw [shared] at first
  rw [Undisturbed, ← first]
  simp

omit [DecidableEq Call] in
theorem undisturbed_set_value (follows : ContextFollows client s.ctx s.phase s.reachedStatic
    s.stored) {call : Call} {report : Report} {ctx : Context Call Client}
    (shared : s.ctx = some ctx) :
    Undisturbed client s (.setValue call report) ↔
      ctx.pContext = some call ∧
        ctx.pContext.any (fun call => (s.phase call).running) = true := by
  rw [Undisturbed, ← last_stored follows shared]
  constructor
  · rintro ⟨own, running⟩
    exact ⟨own, by rw [own]; exact running⟩
  · rintro ⟨own, running⟩
    rw [own] at running
    exact ⟨own, running⟩

theorem promises_reported_step (transition : Transition client texts s action after)
    (follows : ContextFollows client s.ctx s.phase s.reachedStatic s.stored)
    (callbacks : CallbacksReported s) (allowed : Undisturbed client s action)
    (reported : PromisesReported s) : PromisesReported after := by
  cases transition with
  | report _ _ =>
      intro caller value set
      rcases reported caller value set with ⟨report, listed, same⟩
      exact ⟨report, List.mem_append_left _ listed, same⟩
  | @setValue call report ctx shared running =>
      have own := ((undisturbed_set_value follows shared).mp allowed).1
      intro caller value set
      simp only [setValue, own] at set
      by_cases target : caller = call
      · rw [target, Function.update_self, Option.some.injEq] at set
        rw [target]
        cases earlier : s.promise call with
        | none =>
            rw [earlier] at set
            exact ⟨report, callbacks _ running, set.symm⟩
        | some first =>
            rw [earlier] at set
            rcases reported call first earlier with ⟨report, listed, same⟩
            exact ⟨report, listed, set.symm.trans same⟩
      · rw [Function.update_of_ne target] at set
        exact reported caller value set
  | call _ | initStatic _ | storePromise _ | connect _ | finish _ _ => exact reported

/-- A call that has not returned moves on. -/
theorem results_move {phases : Call → Phase} {call : Call} {phase : Phase}
    {Result : Call → ReasonCode → Prop}
    (results : ∀ caller status, phases caller = .returned status → Result caller status)
    (running : ∀ status, phase ≠ .returned status) :
    ∀ caller status, Function.update phases call phase caller = .returned status →
      Result caller status := by
  intro caller status returned
  by_cases own : caller = call
  · rw [own, Function.update_self] at returned
    exact absurd returned (running status)
  · rw [Function.update_of_ne own] at returned
    exact results caller status returned

theorem separate_step (transition : Transition client texts s action after)
    (follows : ContextFollows client s.ctx s.phase s.reachedStatic s.stored)
    (promises : PromisesReported s) (allowed : Undisturbed client s action)
    (separate : Separate client texts s) : Separate client texts after := by
  cases transition with
  | call _ | initStatic _ | storePromise _ | connect _ =>
      exact ⟨separate.logs, separate.promises, results_move separate.results (by simp)⟩
  | report shared _ =>
      refine ⟨?_, separate.promises, ?_⟩
      · intro entry member
        rcases List.mem_append.mp member with earlier | new
        · exact separate.logs entry earlier
        · rw [List.mem_singleton] at new
          rw [new]
          exact (undisturbed_report follows shared).mp allowed
      · intro caller status returned
        rcases separate.results caller status returned with ⟨report, listed, same⟩
        exact ⟨report, List.mem_append_left _ listed, same⟩
  | setValue shared _ =>
      refine ⟨separate.logs, ?_, separate.results⟩
      intro touch member
      rcases List.mem_append.mp member with earlier | new
      · exact separate.promises touch earlier
      · rw [List.mem_singleton] at new
        rw [new]
        exact (undisturbed_set_value follows shared).mp allowed
  | @finish call value _ ready =>
      refine ⟨separate.logs, separate.promises, ?_⟩
      intro caller status returned
      have moved : Function.update s.phase call
          (.returned (pahoRcToReasonCode texts value (text "MQTTAsync_connect")).1) caller =
            .returned status := returned
      by_cases own : caller = call
      · rw [own, Function.update_self, Phase.returned.injEq] at moved
        rcases promises call value ready with ⟨report, listed, same⟩
        rw [own, ← moved, same]
        exact ⟨report, listed, rfl⟩
      · rw [Function.update_of_ne own] at moved
        exact separate.results caller status moved

theorem reached_separate (reached : ReachedUnder (system client texts) (Undisturbed client) s) :
    PromisesReported s ∧ Separate client texts s := by
  apply invariant_of_step
    (fun s : State Call Client => PromisesReported s ∧ Separate client texts s) _ _ reached
  · intro state start
    have begins : state = initial := start
    rw [begins]
    constructor
    · intro _ _ set
      cases set
    · constructor
      · intro _ member
        cases member
      · intro _ member
        cases member
      · intro _ _ returned
        cases returned
  · intro state action after before separate allowed taken
    have transition := step_transition taken
    have every := reached_of_reached_under before
    have follows := reached_context_follows every
    exact ⟨promises_reported_step transition follows (reached_callbacks_reported every) allowed
        separate.1,
      separate_step transition follows separate.1 allowed separate.2⟩

/-- A callback step that is disturbed breaks the separation at once. -/
theorem disturbed_step_interferes (reached : Reached (system client texts) s)
    (taken : step client texts s action = some after)
    (disturbed : ¬ Undisturbed client s action) : ¬ Separate client texts after := by
  have follows := reached_context_follows reached
  intro separate
  apply disturbed
  cases step_transition taken with
  | call _ | initStatic _ | storePromise _ | connect _ | finish _ _ => trivial
  | report shared _ =>
      apply (undisturbed_report follows shared).mpr
      exact separate.logs _ (List.mem_append_right _ (List.mem_singleton_self _))
  | setValue shared _ =>
      apply (undisturbed_set_value follows shared).mpr
      exact separate.promises _ (List.mem_append_right _ (List.mem_singleton_self _))

/-- In a run whose callbacks are all undisturbed the calls keep apart in every
state; any other callback breaks this at once. -/
theorem connect_calls_separate :
    (∀ s : State Call Client,
      ReachedUnder (system client texts) (Undisturbed client) s →
        Separate client texts s) ∧
    ∀ (s after : State Call Client) (action : Action Call),
      Reached (system client texts) s → step client texts s action = some after →
        ¬ Undisturbed client s action → ¬ Separate client texts after := by
  constructor
  · intro s reached
    exact (reached_separate reached).2
  · intro s after action reached taken disturbed
    exact disturbed_step_interferes reached taken disturbed

end Reached

/-- Library texts for runs on fixed inputs. -/
def plainTexts : Texts where
  strerror _ := []
  reasonCode _ := []

def refused : Report := .onFailure5 ⟨0, 0, -1, none⟩

/-- Two calls on one client. The first one fails, which the library reports three
times, the last time while the second call runs and is answered. -/
def successiveSchedule : List (Action Nat) :=
  [.call 0, .advance 0, .advance 0, .connect 0 0, .report 0 refused, .setValue 0 refused,
    .report 0 refused, .setValue 0 refused, .finish 0,
    .call 1, .advance 1, .advance 1, .connect 1 0, .report 0 refused,
    .report 1 (.onSuccess5 ⟨0, 0⟩), .setValue 1 (.onSuccess5 ⟨0, 0⟩), .finish 1]

theorem successive_calls_separate :
    ∃ s : State Nat Nat,
      execute (system (fun _ => 0) plainTexts) initial successiveSchedule = some s ∧
        s.phase 0 = .returned .errorGeneral ∧ s.phase 1 = .returned .okay ∧
        Separate (fun _ => 0) plainTexts s :=
  ⟨_, rfl, rfl, rfl, connect_calls_separate.1 _
    (reached_under_of_execute successiveSchedule (.start rfl) (by decide) rfl)⟩

/-- Two clients connect at the same time: the answer for the first sets the
promise of the second, whose own request was never answered. -/
def crossedSchedule : List (Action Nat) :=
  [.call 0, .advance 0, .advance 0, .connect 0 0, .call 1, .advance 1, .advance 1,
    .connect 1 0, .report 0 (.onSuccess5 ⟨0, 0⟩), .setValue 0 (.onSuccess5 ⟨0, 0⟩),
    .finish 1]

theorem crossed_answer_returns_to_other_call :
    ∃ s : State Nat Nat, execute (system id plainTexts) initial crossedSchedule = some s ∧
      s.phase 1 = .returned .okay ∧ (∀ report, (1, report) ∉ s.reported) ∧
      ¬ Separate id plainTexts s := by
  refine ⟨_, rfl, rfl, ?_, ?_⟩
  · intro report member
    have listed := List.mem_singleton.mp member
    cases listed
  · intro separate
    have own := (separate.promises ⟨0, some 1, true⟩ (List.mem_singleton_self _)).1
    cases own

end IMqtt.Paho.ConnectAsync
