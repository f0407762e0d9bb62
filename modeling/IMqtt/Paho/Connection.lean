import IMqtt.Library.LabelledSteps
import IMqtt.Mosquitto.Connection
import IMqtt.Paho.ConnectAsync
import IMqtt.Paho.ConnectOptions

/-!
# The connection of one PahoClient and the user's connection handler

`ConnectAsync`, `DisconnectAsync`, the callbacks that the constructor installs and those of a
disconnect request. The library runs its callbacks in the order of the events
they are for. A connection that the client has asked to end is reported through
the request's own callbacks only, and these do not call the user's handler.
-/

namespace IMqtt.Paho.Connection

open IMqtt.Defines LabelledSteps
open IMqtt.Mosquitto.Connection (Notification success)
open IMqtt.Paho.ConnectAsync (Report)
open IMqtt.Paho.ConnectOptions (MQTTAsyncConnectOptions)

set_option autoImplicit false

/-- The callbacks of the client for the end of a connection that it has not
asked for. -/
inductive EndCallback
  | connectionLost
  | disconnected (reason : Int)
  deriving DecidableEq, Repr

/-- A callback that the library has still to run. -/
inductive Callback
  | connected
  | ended (callback : EndCallback)
  | disconnectReport (report : Report)
  deriving DecidableEq, Repr

structure State where
  /-- `MQTTAsync_connect` has accepted a request; automatic reconnects follow. -/
  attempting : Bool := false
  /-- The calls of `ConnectAsync` that have not returned. -/
  waiting : Nat := 0
  link : Bool := false
  /-- The client has asked the library to end the connection. -/
  requested : Bool := false
  pending : List Callback := []
  notified : List Notification := []
  log : List LogEntry := []
  deriving DecidableEq, Repr

inductive Action
  /-- User calls, with what the library returns. -/
  | connectAsync (options : MQTTAsyncConnectOptions) (rc : Int)
  | connectReturns (value : Int)
  | disconnectAsync (rc : Int)
  /-- What happens to the connection. -/
  | established
  | lost (callbacks : List EndCallback)
  | disconnectCompleted (report : Report)
  | disconnectFailed (data : FailureData)
  /-- The library runs the next callback. -/
  | callback
  deriving DecidableEq, Repr

/-- `PahoClient::ConnectAsync` up to its wait, where `MQTTAsync_connect` returns
`rc`; what it waits for is in `ConnectAsync.lean`. -/
def connectAsync (options : MQTTAsyncConnectOptions) (rc : Int) (s : State) : State :=
  { s with
    attempting := s.attempting || decide (rc = mqttasyncSuccess)
    waiting := s.waiting + 1
    log := s.log ++
      [⟨.info, text "Start connecting to broker"⟩,
        ⟨.debug, text "Reconnect delay min: " ++ toStr options.minRetryInterval.toInt ++
          text ", max: " ++ toStr options.maxRetryInterval.toInt⟩] ++
      if rc > 0 then
        [⟨.error, text "MQTTAsync_connect returned MQTT error: " ++
          (mqttReasonCodeToStringRepr rc).1⟩]
      else [] }

/-- The rest of it, when the promise holds `value`. -/
def connectReturns (texts : Texts) (value : Int) (s : State) : State :=
  { s with
    waiting := s.waiting - 1
    log := s.log ++ [(pahoRcToReasonCode texts value (text "MQTTAsync_connect")).2] }

/-- `PahoClient::DisconnectAsync`, where `MQTTAsync_disconnect` returns `rc`. -/
def disconnectAsync (texts : Texts) (rc : Int) (s : State) : ReasonCode × State :=
  let (status, line) := pahoRcToReasonCode texts rc (text "MQTTAsync_disconnect")
  (status, { s with
    requested := s.requested || (s.link && decide (rc = mqttasyncSuccess))
    log := s.log ++ [⟨.info, text "Disconnecting from broker"⟩, line] })

/-- The user calls of a callback. -/
def Callback.notifications : Callback → List Notification
  | .connected => [⟨.connect, success⟩]
  | .ended .connectionLost => [⟨.disconnect, success⟩]
  | .ended (.disconnected reason) => [⟨.disconnect, reason⟩]
  | .disconnectReport _ => []

def Callback.lines (texts : Texts) : Callback → List LogEntry
  | .connected => [⟨.info, text "Paho connected to broker"⟩]
  | .ended .connectionLost => [⟨.warning, text "Paho disconnected from broker"⟩]
  | .ended (.disconnected reason) =>
      [⟨.warning, text "Paho disconnected from broker, rc: " ++
        (mqtt5ReasonCodeToStringRepr reason).1⟩]
  | .disconnectReport (.onSuccess5 data) =>
      printDetailsOnSuccess texts (text "MQTTAsync_disconnect") data
  | .disconnectReport (.onFailure5 data) =>
      printDetailsOnFailure texts (text "MQTTAsync_disconnect") data

def runCallback (texts : Texts) (callback : Callback) (s : State) : State :=
  { s with
    notified := s.notified ++ callback.notifications
    log := s.log ++ callback.lines texts }

def callbackStep (texts : Texts) (s : State) : Option State :=
  match s.pending with
  | [] => none
  | callback :: rest => some { runCallback texts callback s with pending := rest }

def step (texts : Texts) (s : State) : Action → Option State
  | .connectAsync options rc => some (connectAsync options rc s)
  | .connectReturns value =>
      if 0 < s.waiting then some (connectReturns texts value s) else none
  | .disconnectAsync rc => some (disconnectAsync texts rc s).2
  | .established =>
      if s.attempting = true ∧ s.link = false then
        some { s with link := true, requested := false, pending := s.pending ++ [.connected] }
      else none
  | .lost callbacks =>
      if s.link = true ∧ s.requested = false then
        some { s with link := false, pending := s.pending ++ callbacks.map .ended }
      else none
  | .disconnectCompleted report =>
      if s.link = true ∧ s.requested = true then
        some { s with
          link := false
          requested := false
          pending := s.pending ++ [.disconnectReport report] }
      else none
  | .disconnectFailed data =>
      if s.link = true ∧ s.requested = true then
        some { s with
          requested := false
          pending := s.pending ++ [.disconnectReport (.onFailure5 data)] }
      else none
  | .callback => callbackStep texts s

def system (texts : Texts) : System State Action where
  initial s := s = {}
  step := step texts

/-! What one step can do. -/

inductive Transition (texts : Texts) (s : State) : Action → State → Prop
  | connectAsync {options : MQTTAsyncConnectOptions} {rc : Int} :
      Transition texts s (.connectAsync options rc) (connectAsync options rc s)
  | connectReturns {value : Int} (waiting : 0 < s.waiting) :
      Transition texts s (.connectReturns value) (connectReturns texts value s)
  | disconnectAsync {rc : Int} :
      Transition texts s (.disconnectAsync rc) (disconnectAsync texts rc s).2
  | established (attempting : s.attempting = true) (down : s.link = false) :
      Transition texts s .established
        { s with link := true, requested := false, pending := s.pending ++ [.connected] }
  | lost {callbacks : List EndCallback} (up : s.link = true)
      (unasked : s.requested = false) :
      Transition texts s (.lost callbacks)
        { s with link := false, pending := s.pending ++ callbacks.map .ended }
  | disconnectCompleted {report : Report} (up : s.link = true) (asked : s.requested = true) :
      Transition texts s (.disconnectCompleted report)
        { s with
          link := false
          requested := false
          pending := s.pending ++ [.disconnectReport report] }
  | disconnectFailed {data : FailureData} (up : s.link = true)
      (asked : s.requested = true) :
      Transition texts s (.disconnectFailed data)
        { s with
          requested := false
          pending := s.pending ++ [.disconnectReport (.onFailure5 data)] }
  | callback {callback : Callback} {rest : List Callback}
      (next : s.pending = callback :: rest) :
      Transition texts s .callback { runCallback texts callback s with pending := rest }

theorem step_transition {texts : Texts} {s after : State} {action : Action}
    (taken : step texts s action = some after) : Transition texts s action after := by
  cases action with
  | connectAsync options rc =>
      cases taken
      exact .connectAsync
  | connectReturns value =>
      rcases guarded_some taken with ⟨waiting, rfl⟩
      exact .connectReturns waiting
  | disconnectAsync rc =>
      cases taken
      exact .disconnectAsync
  | established =>
      rcases guarded_some taken with ⟨⟨attempting, down⟩, rfl⟩
      exact .established attempting down
  | lost callbacks =>
      rcases guarded_some taken with ⟨⟨up, unasked⟩, rfl⟩
      exact .lost up unasked
  | disconnectCompleted report =>
      rcases guarded_some taken with ⟨⟨up, asked⟩, rfl⟩
      exact .disconnectCompleted up asked
  | disconnectFailed data =>
      rcases guarded_some taken with ⟨⟨up, asked⟩, rfl⟩
      exact .disconnectFailed up asked
  | callback =>
      cases next : s.pending with
      | nil => simp only [step, callbackStep, next, reduceCtorEq] at taken
      | cons callback rest =>
          simp only [step, callbackStep, next, Option.some.injEq] at taken
          rw [← taken]
          exact .callback next

end IMqtt.Paho.Connection
