import IMqtt.Paho.ConnectInterference

/-!
# When ConnectAsync can stop waiting

`ConnectAsync` waits on its promise whatever `MQTTAsync_connect` has returned.
A refused request has no callbacks, and a call from a library callback keeps
the only thread busy that could run them.
-/

namespace IMqtt.Paho.ConnectBlocking

open IMqtt.Defines IMqtt.Paho.ConnectAsync LabelledSteps

set_option autoImplicit false

universe u v

variable {Call : Type u} {Client : Type v}

/-- Who has called: a thread of the user, or the thread that the library runs
its callbacks on. -/
inductive Thread
  | user | callback
  deriving DecidableEq, Repr

/-- The library has accepted the request, and no callback for it has set its
value. -/
def Owed (s : State Call Client) (call : Call) : Prop :=
  s.accepted call = true ∧ ∀ touch ∈ s.touched, touch.request ≠ call

/-- No call waits for a promise that nobody will set, and a refused request is
reported. -/
structure Answerable (thread : Call → Thread) (s : State Call Client) : Prop where
  waits : ∀ call, s.phase call = .waiting →
    (s.promise call).isSome = true ∨ Owed s call ∧ thread call = .user
  refused : ∀ call status, s.phase call = .returned status → s.accepted call = false →
    status ≠ .okay

/-- A request is accepted and made on a thread of the user, unless the promise
is set already; a refused one finds it set to a failure. A callback for a call
that waits for an unset promise comes before another call stores its own. -/
def CanAnswer (thread : Call → Thread) (s : State Call Client) : Action Call → Prop
  | .connect call rc =>
      if rc = mqttasyncSuccess then thread call = .user ∨ (s.promise call).isSome = true
      else (s.promise call).any (fun value => decide (value ≠ mqttasyncSuccess)) = true
  | .setValue call _ =>
      s.phase call = .waiting → s.promise call = none → s.stored.getLast? = some call
  | _ => True

instance [DecidableEq Call] (thread : Call → Thread) (s : State Call Client) :
    ∀ action, Decidable (CanAnswer thread s action)
  | .connect call rc => inferInstanceAs (Decidable
      (if rc = mqttasyncSuccess then thread call = .user ∨ (s.promise call).isSome = true
        else (s.promise call).any (fun value => decide (value ≠ mqttasyncSuccess)) = true))
  | .setValue call _ => inferInstanceAs (Decidable
      (s.phase call = .waiting → s.promise call = none → s.stored.getLast? = some call))
  | .call _ | .advance _ | .report _ _ | .finish _ => .isTrue trivial

/-- Callbacks are run for accepted requests, and a request is accepted as its
call begins to wait. -/
structure RequestsKept (s : State Call Client) : Prop where
  started : ∀ call, s.accepted call = true →
    s.phase call = .waiting ∨ ∃ status, s.phase call = .returned status
  running : ∀ entry ∈ s.inCallback, s.accepted entry.1 = true
  touched : ∀ touch ∈ s.touched, s.accepted touch.request = true

/-- A call that waits for a refused request has its failure already. -/
structure AnswerKept (thread : Call → Thread) (s : State Call Client) : Prop where
  answerable : Answerable thread s
  failed : ∀ call, s.phase call = .waiting → s.accepted call = false →
    (s.promise call).any (fun value => decide (value ≠ mqttasyncSuccess)) = true

section Steps

variable [DecidableEq Call] {thread : Call → Thread} {client : Call → Client} {texts : Texts}
  {s t : State Call Client} {action : Action Call}

theorem phase_own (call : Call) (phase : Phase) : (s.go call phase).phase call = phase :=
  Function.update_self _ _ _

theorem phase_other {call other : Call} (distinct : other ≠ call) (phase : Phase) :
    (s.go call phase).phase other = s.phase other :=
  Function.update_of_ne distinct _ _

/-- `MQTTAsync_connect` has returned `rc`, and the call waits. -/
def connected (s : State Call Client) (call : Call) (rc : Int) : State Call Client :=
  { s.go call .waiting with
    accepted := Function.update s.accepted call (decide (rc = mqttasyncSuccess)) }

theorem accepted_own (call : Call) (rc : Int) :
    (connected s call rc).accepted call = decide (rc = mqttasyncSuccess) :=
  Function.update_self _ _ _

theorem accepted_other {call other : Call} (distinct : other ≠ call) (rc : Int) :
    (connected s call rc).accepted other = s.accepted other :=
  Function.update_of_ne distinct _ _

theorem connected_other {call other : Call} (distinct : other ≠ call) (rc : Int) :
    (connected s call rc).phase other = s.phase other :=
  phase_other distinct .waiting

theorem set_value_of_set {target : Option Call} {value : Int} {call : Call} {set : Int}
    (here : s.promise call = some set) : setValue s target value call = some set := by
  cases target with
  | none => exact here
  | some other =>
      by_cases own : call = other
      · rw [← own, setValue, Function.update_self, here]
        rfl
      · rw [setValue, Function.update_of_ne own, here]

theorem set_value_own (value : Int) (call : Call) :
    (setValue s (some call) value call).isSome = true := by
  rw [setValue, Function.update_self]
  rfl

/-- The phase of a call moves on, and it has not been accepted yet or returns. -/
theorem requests_move (kept : RequestsKept s) {call : Call} {phase : Phase}
    (moves : s.accepted call = false ∨ ∃ status, phase = .returned status) :
    RequestsKept (s.go call phase) := by
  refine ⟨?_, kept.running, kept.touched⟩
  intro other accepted
  by_cases own : other = call
  · rw [own, phase_own]
    rcases moves with refused | returns
    · have asked : s.accepted other = true := accepted
      rw [own, refused] at asked
      cases asked
    · exact .inr returns
  · rw [phase_other own]
    exact kept.started other accepted

omit [DecidableEq Call] in
theorem unaccepted (kept : RequestsKept s) {call : Call} (early : s.phase call ≠ .waiting)
    (unreturned : ∀ status, s.phase call ≠ .returned status) : s.accepted call = false := by
  rw [← Bool.not_eq_true]
  intro accepted
  rcases kept.started call accepted with waits | ⟨status, returned⟩
  · exact early waits
  · exact unreturned status returned

theorem requests_connect (kept : RequestsKept s) {call : Call} (rc : Int)
    (unasked : s.accepted call = false) : RequestsKept (connected s call rc) := by
  have grows : ∀ other, s.accepted other = true →
      (connected s call rc).accepted other = true := by
    intro other accepted
    have distinct : other ≠ call := by
      intro own
      rw [own, unasked] at accepted
      cases accepted
    rw [accepted_other distinct]
    exact accepted
  constructor
  · intro other accepted
    by_cases own : other = call
    · rw [own]
      exact .inl (phase_own call .waiting)
    · rw [connected_other own]
      exact kept.started other ((accepted_other own rc).symm.trans accepted)
  · intro entry member
    exact grows _ (kept.running entry member)
  · intro touch member
    exact grows _ (kept.touched touch member)

theorem requests_kept_step (kept : RequestsKept s)
    (transition : Transition client texts s action t) : RequestsKept t := by
  cases transition with
  | call here =>
      exact requests_move kept (.inl (unaccepted kept (by simp [here]) (by simp [here])))
  | @initStatic call here =>
      have moved : RequestsKept (s.go call .storePromise) :=
        requests_move kept (.inl (unaccepted kept (by simp [here]) (by simp [here])))
      exact ⟨moved.started, moved.running, moved.touched⟩
  | @storePromise call here =>
      have moved : RequestsKept (s.go call .connect) :=
        requests_move kept (.inl (unaccepted kept (by simp [here]) (by simp [here])))
      exact ⟨moved.started, moved.running, moved.touched⟩
  | connect here =>
      exact requests_connect kept _ (unaccepted kept (by simp [here]) (by simp [here]))
  | @report call report ctx shared accepted =>
      refine ⟨kept.started, ?_, kept.touched⟩
      intro entry member
      rw [List.mem_append, List.mem_singleton] at member
      rcases member with earlier | rfl
      · exact kept.running entry earlier
      · exact accepted
  | @setValue call report ctx shared running =>
      refine ⟨kept.started, ?_, ?_⟩
      · intro entry member
        exact kept.running entry (List.mem_of_mem_erase member)
      · intro touch member
        rw [List.mem_append, List.mem_singleton] at member
        rcases member with earlier | rfl
        · exact kept.touched touch earlier
        · exact kept.running _ running
  | finish here ready => exact requests_move kept (.inr ⟨_, rfl⟩)

theorem reached_requests_kept
    {allowed : State Call Client → Action Call → Prop}
    (reached : ReachedUnder (system client texts) allowed s) : RequestsKept s := by
  apply invariant_of_step RequestsKept _ _ reached
  · intro start begins
    have empty : start = initial := begins
    rw [empty]
    constructor
    · intro call accepted
      cases accepted
    · intro entry member
      cases member
    · intro touch member
      cases member
  · intro before action after _ kept _ taken
    exact requests_kept_step kept (step_transition taken)

/-- A step of one call that does not end in the wait changes nothing for the
other calls. -/
theorem answer_move (kept : AnswerKept thread s) {call : Call} {phase : Phase}
    (early : phase ≠ .waiting)
    (returns : ∀ status, phase = .returned status → s.accepted call = false →
      status ≠ .okay) : AnswerKept thread (s.go call phase) := by
  have waited : ∀ other, (s.go call phase).phase other = .waiting →
      s.phase other = .waiting := by
    intro other waits
    by_cases own : other = call
    · rw [own, phase_own] at waits
      exact absurd waits early
    · rw [phase_other own] at waits
      exact waits
  constructor
  · constructor
    · intro other waits
      exact kept.answerable.waits other (waited other waits)
    · intro other status returned refused
      by_cases own : other = call
      · rw [own] at returned refused
        rw [phase_own] at returned
        exact returns status returned refused
      · rw [phase_other own] at returned
        exact kept.answerable.refused other status returned refused
  · intro other waits refused
    exact kept.failed other (waited other waits) refused

theorem isSome_of_failed {promise : Option Int}
    (failed : promise.any (fun value => decide (value ≠ mqttasyncSuccess)) = true) :
    promise.isSome = true := by
  cases promise with
  | none => cases failed
  | some value => rfl

/-- The call itself, as it begins to wait. -/
theorem connected_call_answerable (requests : RequestsKept s) {call : Call} {rc : Int}
    (here : s.phase call = .connect) (can : CanAnswer thread s (.connect call rc)) :
    (s.promise call).isSome = true ∨ Owed (connected s call rc) call ∧ thread call = .user := by
  rw [CanAnswer] at can
  by_cases success : rc = mqttasyncSuccess
  · rw [if_pos success] at can
    rcases can with user | set
    · have unasked : s.accepted call = false :=
        unaccepted requests (by simp [here]) (by simp [here])
      refine .inr ⟨⟨?_, ?_⟩, user⟩
      · rw [accepted_own]
        exact decide_eq_true success
      · intro touch member own
        have accepted := requests.touched touch member
        rw [own, unasked] at accepted
        cases accepted
    · exact .inl set
  · rw [if_neg success] at can
    exact .inl (isSome_of_failed can)

theorem answer_connect (requests : RequestsKept s) (kept : AnswerKept thread s) {call : Call}
    {rc : Int} (here : s.phase call = .connect)
    (can : CanAnswer thread s (.connect call rc)) :
    AnswerKept thread (connected s call rc) := by
  constructor
  · constructor
    · intro other waits
      by_cases own : other = call
      · rw [own]
        exact connected_call_answerable requests here can
      · rw [connected_other own] at waits
        rcases kept.answerable.waits other waits with set | ⟨⟨asked, unset⟩, user⟩
        · exact .inl set
        · exact .inr ⟨⟨(accepted_other own rc).trans asked, unset⟩, user⟩
    · intro other status returned refused
      by_cases own : other = call
      · have waits : (connected s call rc).phase call = .waiting := phase_own call .waiting
        rw [own, waits] at returned
        cases returned
      · rw [connected_other own] at returned
        rw [accepted_other own] at refused
        exact kept.answerable.refused other status returned refused
  · intro other waits refused
    by_cases own : other = call
    · rw [own, accepted_own] at refused
      rw [CanAnswer, if_neg (of_decide_eq_false refused)] at can
      rw [own]
      exact can
    · rw [connected_other own] at waits
      rw [accepted_other own] at refused
      exact kept.failed other waits refused

omit [DecidableEq Call] in
/-- What a callback has done about its own request takes nothing from another. -/
theorem owed_of_other {call : Call} {promise : Call → Option Int}
    {inCallback : List (Call × Report)} {touch : Touch Call} (owed : Owed s call)
    (other : touch.request ≠ call) :
    Owed { s with
      promise := promise, inCallback := inCallback, touched := s.touched ++ [touch] } call := by
  refine ⟨owed.1, ?_⟩
  intro entry member
  rw [List.mem_append, List.mem_singleton] at member
  rcases member with earlier | rfl
  · exact owed.2 entry earlier
  · exact other

theorem set_value_any {target : Option Call} {value : Int} {call : Call} {failure : Int → Bool}
    (failed : (s.promise call).any failure = true) :
    (setValue s target value call).any failure = true := by
  cases promised : s.promise call with
  | none =>
      rw [promised] at failed
      cases failed
  | some set =>
      rw [set_value_of_set promised, ← promised]
      exact failed

theorem answer_set_value (kept : AnswerKept thread s) {call : Call} {report : Report}
    {ctx : Context Call Client} (stored : ctx.pContext = s.stored.getLast?)
    (can : CanAnswer thread s (.setValue call report)) (touch : Touch Call)
    (request : touch.request = call) :
    AnswerKept thread { s with
      promise := setValue s ctx.pContext report.value
      inCallback := s.inCallback.erase (call, report)
      touched := s.touched ++ [touch] } := by
  refine ⟨⟨?_, kept.answerable.refused⟩, ?_⟩
  · intro other waits
    cases promised : s.promise other with
    | some value =>
        have set := @set_value_of_set _ _ _ s ctx.pContext report.value other value promised
        exact .inl (Option.isSome_iff_exists.mpr ⟨value, set⟩)
    | none =>
        by_cases own : other = call
        · rw [own] at waits promised
          have target := stored.trans (can waits promised)
          refine .inl ?_
          rw [own, target]
          exact set_value_own report.value call
        · -- the callback is for another request, so this one is still owed
          rcases kept.answerable.waits other waits with set | ⟨owed, user⟩
          · rw [promised] at set
            cases set
          · have different : touch.request ≠ other := by
              rw [request]
              exact fun same => own same.symm
            exact .inr ⟨owed_of_other owed different, user⟩
  · intro other waits refused
    exact set_value_any (kept.failed other waits refused)

theorem answer_kept_step
    (follows : ContextFollows client s.ctx s.phase s.reachedStatic s.stored)
    (requests : RequestsKept s) (kept : AnswerKept thread s)
    (can : CanAnswer thread s action) (transition : Transition client texts s action t) :
    AnswerKept thread t := by
  cases transition with
  | @call call here => exact answer_move kept (by simp) (by simp)
  | @initStatic call here =>
      have moved : AnswerKept thread (s.go call .storePromise) :=
        answer_move kept (by simp) (by simp)
      exact ⟨⟨moved.answerable.waits, moved.answerable.refused⟩, moved.failed⟩
  | @storePromise call here =>
      have moved : AnswerKept thread (s.go call .connect) :=
        answer_move kept (by simp) (by simp)
      exact ⟨⟨moved.answerable.waits, moved.answerable.refused⟩, moved.failed⟩
  | connect here => exact answer_connect requests kept here can
  | report shared accepted =>
      exact ⟨⟨kept.answerable.waits, kept.answerable.refused⟩, kept.failed⟩
  | setValue shared running => exact answer_set_value kept (last_stored follows shared) can _ rfl
  | @finish call value here ready =>
      refine answer_move kept (by simp) ?_
      intro status returned refused
      have failed := kept.failed call here refused
      rw [ready, Option.any_some, decide_eq_true_eq] at failed
      rw [← Phase.returned.inj returned]
      intro okay
      exact failed ((paho_rc_okay_iff _ _ _).mp okay)

theorem reached_answer_kept
    (reached : ReachedUnder (system client texts) (CanAnswer thread) s) :
    AnswerKept thread s := by
  apply invariant_of_step (AnswerKept thread) _ _ reached
  · intro start begins
    have empty : start = initial := begins
    rw [empty]
    constructor
    · constructor
      · intro call waits
        cases waits
      · intro call status returned
        cases returned
    · intro call waits
      cases waits
  · intro before action after reached kept can taken
    have follows := reached_context_follows (reached_of_reached_under reached)
    exact answer_kept_step follows (reached_requests_kept reached) kept can
      (step_transition taken)

omit [DecidableEq Call] in
/-- A call that waits for an unset promise is stuck unless it is owed. -/
theorem stuck_of_unowed (call : Call) (waits : s.phase call = .waiting)
    (unset : s.promise call = none) (unowed : Owed s call → thread call ≠ .user) :
    ¬ Answerable thread s := by
  intro answerable
  rcases answerable.waits call waits with set | ⟨owed, user⟩
  · rw [unset] at set
    cases set
  · exact unowed owed user

theorem unanswered_connect {call : Call} {rc : Int}
    (unset : s.promise call = none)
    (cannot : ¬ CanAnswer thread s (.connect call rc)) :
    ¬ Answerable thread (connected s call rc) := by
  apply stuck_of_unowed call
  · exact phase_own call .waiting
  · exact unset
  · intro owed user
    apply cannot
    have asked := owed.1
    rw [accepted_own, decide_eq_true_eq] at asked
    rw [CanAnswer, if_pos asked]
    exact .inl user

theorem finish_taken {call : Call} {value : Int} (waits : s.phase call = .waiting)
    (set : s.promise call = some value) :
    step client texts s (.finish call) =
      some (s.go call
        (.returned (pahoRcToReasonCode texts value (text "MQTTAsync_connect")).1)) := by
  rw [step, set]
  exact if_pos waits

/-- A refused request whose promise says success is reported as such. -/
theorem refused_connect_okay {call : Call} {rc : Int} {value : Int}
    (set : s.promise call = some value)
    (cannot : ¬ CanAnswer thread s (.connect call rc)) :
    ∃ after, step client texts (connected s call rc) (.finish call) = some after ∧
      ¬ Answerable thread after := by
  have failure : rc ≠ mqttasyncSuccess := by
    intro success
    apply cannot
    rw [CanAnswer, if_pos success, set]
    exact .inr rfl
  have success : value = mqttasyncSuccess := by
    rw [CanAnswer, if_neg failure, set, Option.any_some, decide_eq_true_eq] at cannot
    exact not_not.mp cannot
  have waits : (connected s call rc).phase call = .waiting := phase_own call .waiting
  refine ⟨_, finish_taken waits set, ?_⟩
  intro answerable
  refine answerable.refused call _ (phase_own call _) ?_ ?_
  · have refused := @accepted_own _ _ _ s call rc
    exact refused.trans (decide_eq_false failure)
  · exact (paho_rc_okay_iff _ _ _).mpr success

theorem unanswered_set_value {call : Call} {report : Report} {ctx : Context Call Client}
    (stored : ctx.pContext = s.stored.getLast?)
    (cannot : ¬ CanAnswer thread s (.setValue call report)) (touch : Touch Call)
    (request : touch.request = call) :
    ¬ Answerable thread { s with
      promise := setValue s ctx.pContext report.value
      inCallback := s.inCallback.erase (call, report)
      touched := s.touched ++ [touch] } := by
  rw [CanAnswer, ← stored] at cannot
  push Not at cannot
  rcases cannot with ⟨waits, unset, elsewhere⟩
  apply stuck_of_unowed call
  · exact waits
  · cases target : ctx.pContext with
    | none => exact unset
    | some other =>
        have distinct : call ≠ other := by
          intro own
          rw [own] at elsewhere
          exact elsewhere target
        exact (Function.update_of_ne distinct _ _).trans unset
  · intro owed
    exact absurd request
      (owed.2 touch (List.mem_append_right _ (List.mem_singleton_self touch)))

/-- A step that cannot be answered leaves a call stuck, or lets a refused one
return `OKAY`. -/
theorem unanswered_step (reached : Reached (system client texts) s)
    (taken : step client texts s action = some t)
    (cannot : ¬ CanAnswer thread s action) :
    ∃ schedule later, execute (system client texts) t schedule = some later ∧
      ¬ Answerable thread later := by
  cases step_transition taken with
  | call _ | initStatic _ | storePromise _ | report _ _ | finish _ _ =>
      exact absurd trivial cannot
  | @connect call rc _ =>
      cases promised : s.promise call with
      | none => exact ⟨[], _, rfl, unanswered_connect promised cannot⟩
      | some value =>
          rcases @refused_connect_okay _ _ _ thread client texts s call rc value promised
            cannot with ⟨after, finished, breaks⟩
          refine ⟨[.finish call], after, ?_, breaks⟩
          rw [execute_cons]
          exact Option.bind_eq_some_iff.mpr ⟨after, finished, rfl⟩
  | setValue shared _ =>
      have stored := last_stored (reached_context_follows reached) shared
      exact ⟨[], _, rfl, unanswered_set_value stored cannot _ rfl⟩

/-- In a run whose steps can all be answered no call is ever stuck and every
refused request is reported; any other step breaks this. -/
theorem connect_calls_answerable (thread : Call → Thread) (client : Call → Client)
    (texts : Texts) :
    (∀ s : State Call Client,
      ReachedUnder (system client texts) (CanAnswer thread) s → Answerable thread s) ∧
    ∀ (s after : State Call Client) (action : Action Call),
      Reached (system client texts) s → step client texts s action = some after →
        ¬ CanAnswer thread s action →
        ∃ schedule later, execute (system client texts) after schedule = some later ∧
          ¬ Answerable thread later := by
  constructor
  · intro s reached
    exact (reached_answer_kept reached).answerable
  · intro s after action reached taken cannot
    exact unanswered_step reached taken cannot

end Steps

/-- The library accepts the first request and reports two failures; the second
one comes when that call has returned and answers the next call, whose request
is then refused. A third call is accepted and succeeds. -/
def lateAnswerSchedule : List (Action Nat) :=
  [.call 0, .advance 0, .advance 0, .connect 0 0, .report 0 refused, .setValue 0 refused,
    .finish 0,
    .call 1, .advance 1, .advance 1, .report 0 refused, .setValue 0 refused,
    .connect 1 (-1), .finish 1,
    .call 2, .advance 2, .advance 2, .connect 2 0, .report 2 (.onSuccess5 ⟨0, 0⟩),
    .setValue 2 (.onSuccess5 ⟨0, 0⟩), .finish 2]

theorem late_answer_returns_refused_call :
    ∃ s : State Nat Nat,
      execute (system (fun _ => 0) plainTexts) initial lateAnswerSchedule = some s ∧
        s.phase 1 = .returned .errorGeneral ∧ s.accepted 1 = false ∧
        s.phase 2 = .returned .okay ∧ Answerable (fun _ => .user) s :=
  ⟨_, rfl, rfl, rfl, rfl, (connect_calls_answerable (fun _ => .user) (fun _ => 0) plainTexts).1 _
    (reached_under_of_execute lateAnswerSchedule (.start rfl) (by decide) rfl)⟩

/-- The call waits for `rc` of `MQTTAsync_connect`. -/
def waitingSchedule (rc : Int) : List (Action Nat) :=
  [.call 0, .advance 0, .advance 0, .connect 0 rc]

/-- The library refuses the request of a user's thread, and accepts one that a
library callback makes: neither call has a callback that could still come. -/
theorem connect_waits_unanswered :
    (∃ s : State Nat Nat,
      execute (system id plainTexts) initial (waitingSchedule (-1)) = some s ∧
        s.phase 0 = .waiting ∧ s.promise 0 = none ∧ s.accepted 0 = false ∧
        ¬ Answerable (fun _ => .user) s) ∧
    ∃ s : State Nat Nat,
      execute (system id plainTexts) initial (waitingSchedule 0) = some s ∧
        s.phase 0 = .waiting ∧ s.promise 0 = none ∧ ¬ Answerable (fun _ => .callback) s := by
  constructor
  · refine ⟨_, rfl, rfl, rfl, rfl, ?_⟩
    apply stuck_of_unowed 0 rfl rfl
    intro owed
    cases owed.1
  · refine ⟨_, rfl, rfl, rfl, ?_⟩
    apply stuck_of_unowed 0 rfl rfl
    intro _ user
    cases user

end IMqtt.Paho.ConnectBlocking
