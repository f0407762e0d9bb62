import Mathlib.Logic.Function.Basic
import IMqtt.Library.LabelledSteps
import IMqtt.Paho.Results

/-!
# PahoClient::ConnectAsync and its callbacks

Any number of calls on any number of clients, from any threads, with the
function-local static `ctx` that they share. The promise of a call lives on its
stack until it returns. The library may run a connect callback for a request it
has accepted at any time and any number of times; a callback first logs through
`ctx.pThis` and then sets the promise at `ctx.pContext`.
-/

namespace IMqtt.Paho.ConnectAsync

open IMqtt.Defines LabelledSteps

set_option autoImplicit false

universe u v

variable {Call : Type u} {Client : Type v}

/-- `PahoClient::Context`; the promise is named by the call it belongs to. -/
structure Context (Call : Type u) (Client : Type v) where
  pThis : Client
  pContext : Option Call

inductive Phase
  | idle | initStatic | storePromise | connect | waiting
  | returned (status : ReasonCode)
  deriving DecidableEq, Repr

/-- The call has not returned, so its promise exists. -/
def Phase.running : Phase → Bool
  | .idle | .returned _ => false
  | _ => true

/-- The data a connect callback is run with. -/
inductive Report
  | onSuccess5 (data : SuccessData)
  | onFailure5 (data : FailureData)
  deriving DecidableEq, Repr

/-- The value the callback hands to `set_value`. -/
def Report.value : Report → Int
  | .onSuccess5 _ => mqttasyncSuccess
  | .onFailure5 data => data.code

def Report.lines (texts : Texts) : Report → List LogEntry
  | .onSuccess5 data => printDetailsOnSuccess texts (text "MQTTAsync_connect") data
  | .onFailure5 data => printDetailsOnFailure texts (text "MQTTAsync_connect") data

/-- Lines that a callback for `request` logged through a client. -/
structure Logged (Call : Type u) (Client : Type v) where
  request : Call
  through : Client
  lines : List LogEntry
  deriving DecidableEq

/-- A `set_value` that a callback for `request` made, on the promise of which
call, and whether that call was still running. -/
structure Touch (Call : Type u) where
  request : Call
  promise : Option Call
  running : Bool
  deriving DecidableEq

structure State (Call : Type u) (Client : Type v) where
  ctx : Option (Context Call Client)
  phase : Call → Phase
  promise : Call → Option Int
  /-- `MQTTAsync_connect` has accepted the request of the call. -/
  accepted : Call → Bool
  /-- The callbacks that have logged and not yet set their value. -/
  inCallback : List (Call × Report)
  /-- The calls in the order they came to the static and stored their promise,
  the reports of the library, and what the callbacks did. -/
  reachedStatic : List Call
  stored : List Call
  reported : List (Call × Report)
  logged : List (Logged Call Client)
  touched : List (Touch Call)

inductive Action (Call : Type u)
  | call (call : Call)
  /-- The next statement of the call up to `MQTTAsync_connect`. -/
  | advance (call : Call)
  | connect (call : Call) (rc : Int)
  | report (call : Call) (report : Report)
  | setValue (call : Call) (report : Report)
  | finish (call : Call)
  deriving DecidableEq

variable [DecidableEq Call]

def State.go (s : State Call Client) (call : Call) (phase : Phase) : State Call Client :=
  { s with phase := Function.update s.phase call phase }

/-- `static auto ctx{Context(this, nullptr)}` runs its initialiser once. -/
def initStatic (client : Call → Client) (s : State Call Client) (call : Call) :
    State Call Client :=
  { s.go call .storePromise with
    ctx := some (s.ctx.getD ⟨client call, none⟩)
    reachedStatic := s.reachedStatic ++ [call] }

/-- `ctx.pContext = &rcPromise`. -/
def storePromise (s : State Call Client) (call : Call) : State Call Client :=
  { s.go call .connect with
    ctx := s.ctx.map fun ctx => { ctx with pContext := some call }
    stored := s.stored ++ [call] }

/-- `set_value`, where a promise that is set already throws and the callback
catches. -/
def setValue (s : State Call Client) (target : Option Call) (value : Int) :
    Call → Option Int :=
  match target with
  | some call => Function.update s.promise call (some ((s.promise call).getD value))
  | none => s.promise

def step (client : Call → Client) (texts : Texts) (s : State Call Client) :
    Action Call → Option (State Call Client)
  | .call call => if s.phase call = .idle then some (s.go call .initStatic) else none
  | .advance call =>
      match s.phase call with
      | .initStatic => some (initStatic client s call)
      | .storePromise => some (storePromise s call)
      | _ => none
  | .connect call rc =>
      if s.phase call = .connect then
        some { s.go call .waiting with
          accepted := Function.update s.accepted call (decide (rc = mqttasyncSuccess)) }
      else none
  | .report call report =>
      match s.ctx with
      | some ctx =>
          if s.accepted call = true then
            some { s with
              inCallback := s.inCallback ++ [(call, report)]
              reported := s.reported ++ [(call, report)]
              logged := s.logged ++ [⟨call, ctx.pThis, report.lines texts⟩] }
          else none
      | none => none
  | .setValue call report =>
      match s.ctx with
      | some ctx =>
          if (call, report) ∈ s.inCallback then
            some { s with
              promise := setValue s ctx.pContext report.value
              inCallback := s.inCallback.erase (call, report)
              touched := s.touched ++
                [⟨call, ctx.pContext, ctx.pContext.any fun call => (s.phase call).running⟩] }
          else none
      | none => none
  | .finish call =>
      match s.promise call with
      | some value =>
          if s.phase call = .waiting then
            some (s.go call
              (.returned (pahoRcToReasonCode texts value (text "MQTTAsync_connect")).1))
          else none
      | none => none

def initial : State Call Client where
  ctx := none
  phase := fun _ => .idle
  promise := fun _ => none
  accepted := fun _ => false
  inCallback := []
  reachedStatic := []
  stored := []
  reported := []
  logged := []
  touched := []

def system (client : Call → Client) (texts : Texts) :
    System (State Call Client) (Action Call) where
  initial s := s = initial
  step := step client texts

/-! What one step can do. -/

inductive Transition (client : Call → Client) (texts : Texts) (s : State Call Client) :
    Action Call → State Call Client → Prop
  | call {call : Call} (here : s.phase call = .idle) :
      Transition client texts s (.call call) (s.go call .initStatic)
  | initStatic {call : Call} (here : s.phase call = .initStatic) :
      Transition client texts s (.advance call) (initStatic client s call)
  | storePromise {call : Call} (here : s.phase call = .storePromise) :
      Transition client texts s (.advance call) (storePromise s call)
  | connect {call : Call} {rc : Int} (here : s.phase call = .connect) :
      Transition client texts s (.connect call rc)
        { s.go call .waiting with
          accepted := Function.update s.accepted call (decide (rc = mqttasyncSuccess)) }
  | report {call : Call} {report : Report} {ctx : Context Call Client}
      (shared : s.ctx = some ctx) (accepted : s.accepted call = true) :
      Transition client texts s (.report call report)
        { s with
          inCallback := s.inCallback ++ [(call, report)]
          reported := s.reported ++ [(call, report)]
          logged := s.logged ++ [⟨call, ctx.pThis, report.lines texts⟩] }
  | setValue {call : Call} {report : Report} {ctx : Context Call Client}
      (shared : s.ctx = some ctx) (running : (call, report) ∈ s.inCallback) :
      Transition client texts s (.setValue call report)
        { s with
          promise := setValue s ctx.pContext report.value
          inCallback := s.inCallback.erase (call, report)
          touched := s.touched ++
            [⟨call, ctx.pContext, ctx.pContext.any fun call => (s.phase call).running⟩] }
  | finish {call : Call} {value : Int} (here : s.phase call = .waiting)
      (ready : s.promise call = some value) :
      Transition client texts s (.finish call)
        (s.go call
          (.returned (pahoRcToReasonCode texts value (text "MQTTAsync_connect")).1))

theorem step_transition {client : Call → Client} {texts : Texts}
    {s after : State Call Client} {action : Action Call}
    (taken : step client texts s action = some after) :
    Transition client texts s action after := by
  cases action with
  | call call =>
      rcases guarded_some taken with ⟨here, rfl⟩
      exact .call here
  | advance call =>
      cases here : s.phase call <;> simp only [step, here] at taken
      case initStatic =>
        cases taken
        exact .initStatic here
      case storePromise =>
        cases taken
        exact .storePromise here
      all_goals cases taken
  | connect call rc =>
      rcases guarded_some taken with ⟨here, rfl⟩
      exact .connect here
  | report call report =>
      cases shared : s.ctx with
      | none => simp only [step, shared, reduceCtorEq] at taken
      | some ctx =>
          simp only [step, shared] at taken
          rcases guarded_some taken with ⟨accepted, rfl⟩
          rw [← shared]
          exact .report shared accepted
  | setValue call report =>
      cases shared : s.ctx with
      | none => simp only [step, shared, reduceCtorEq] at taken
      | some ctx =>
          simp only [step, shared] at taken
          rcases guarded_some taken with ⟨running, rfl⟩
          rw [← shared]
          exact .setValue shared running
  | finish call =>
      cases ready : s.promise call with
      | none => simp only [step, ready, reduceCtorEq] at taken
      | some value =>
          simp only [step, ready] at taken
          rcases guarded_some taken with ⟨here, rfl⟩
          exact .finish here ready

end IMqtt.Paho.ConnectAsync
