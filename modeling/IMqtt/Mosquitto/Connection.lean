import IMqtt.Interface.Client
import IMqtt.Library.LabelledSteps
import IMqtt.Mosquitto.Library

/-!
# One MosquittoClient from its construction on

The constructor has started the network thread. The user calls `ConnectAsync`
and `DisconnectAsync`, the library runs its callbacks on the network thread,
and the destructor goes its own steps; all of them interleave. The network
thread ends only after `mosquitto_disconnect_v5` has been called, and
`mosquitto_connect_async` does not start one.
-/

namespace IMqtt.Mosquitto.Connection

open IMqtt.Defines IMqtt.Client LabelledSteps

set_option autoImplicit false

/-- `Mqtt5ReasonCode::SUCCESS`. -/
def success : Int := 0

inductive ConnectionType
  | connect | disconnect
  deriving DecidableEq, Repr

/-- One call of `OnConnectionStatusChanged`. -/
structure Notification where
  type : ConnectionType
  rc : Int
  deriving DecidableEq, Repr

/-- The connection callback the network thread is in, if any: its first part,
with the flag and the log line, and the call of the user's handler. -/
inductive Callback
  | idle
  | onConnectCb (mqttRc : Int)
  | notifyConnect (mqttRc : Int)
  | onDisconnectCb (mqttRc : Int)
  | notifyDisconnect (mqttRc : Int)
  deriving DecidableEq, Repr

/-- Where the destructor stands; `loopStop` is in front of the call of
`mosquitto_loop_stop` and `stopping` in it. -/
inductive Destructor
  | alive | test | disconnect | loopStop | stopping | destroyed
  deriving DecidableEq, Repr

structure State where
  connected : Bool := false
  /-- The network thread is running. -/
  netThread : Bool := true
  /-- `mosquitto_connect_async` has succeeded, and the library is connected. -/
  attempting : Bool := false
  link : Bool := false
  callback : Callback := .idle
  destructor : Destructor := .alive
  notified : List Notification := []
  log : List LogEntry := []
  /-- `mosquitto_disconnect_v5` has been called for the instance, and has been
  since the last `ConnectAsync`. -/
  disconnectCalled : Bool := false
  disconnectSinceConnect : Bool := false
  /-- A `ConnectAsync` has returned `OKAY` and no `DisconnectAsync` has been
  called since. -/
  connectStands : Bool := false
  deriving DecidableEq, Repr

inductive Action
  /-- User calls, with what the library returns. -/
  | connectAsync (rc : Int)
  | disconnectAsync (rc : Int)
  /-- What happens on the network thread. -/
  | accepted
  | refused (mqttRc : Int)
  | ended (mqttRc : Int)
  | callback
  | threadEnd
  /-- The next step of the destructor, with what a disconnect returns. -/
  | destructor (rc : Int)
  deriving DecidableEq, Repr

def State.logLine (s : State) (level : LogLevel) (txt : Str) : State :=
  { s with log := s.log ++ [⟨level, txt⟩] }

/-- The parameters of the client and the texts of the library. -/
structure Setting where
  params : InitializeParameters := {}
  strerror : Int → Str := fun _ => []

/-- `MosquittoClient::ConnectAsync`, where `mosquitto_connect_async` returns
`rc`. -/
def connectAsync (setting : Setting) (rc : Int) (s : State) : ReasonCode × State :=
  let asked := s.logLine .info
    (text "Connecting to broker async: " ++ brokerAddress setting.params)
  let (status, line) := mosqRcToReasonCode setting.strerror rc (text "mosquitto_connect_async")
  (status, { asked with
    attempting := asked.attempting || decide (rc = mosqErrSuccess)
    log := asked.log ++ [line]
    disconnectSinceConnect := false
    connectStands := asked.connectStands || decide (status = .okay) })

/-- `MosquittoClient::DisconnectAsync`, where `mosquitto_disconnect_v5` returns
`rc`. -/
def disconnectAsync (setting : Setting) (rc : Int) (s : State) : ReasonCode × State :=
  let asked := s.logLine .info (text "Disconnecting from broker")
  let (status, line) := mosqRcToReasonCode setting.strerror rc (text "mosquitto_disconnect_v5")
  (status, { asked with
    log := asked.log ++ [line]
    disconnectCalled := true
    disconnectSinceConnect := true
    connectStands := false })

/-- `onConnectCb` up to the call of the user's handler. -/
def onConnectCb (mqttRc : Int) (s : State) : State :=
  let established := decide (mqttRc = success)
  let logLvl := if established then LogLevel.info else .warning
  let txt := text "Mosquitto connected to broker, rc: " ++
    (mqtt5ReasonCodeToStringRepr mqttRc).1
  { s.logLine logLvl txt with
    connected := s.connected || established
    callback := .notifyConnect mqttRc }

/-- `onDisconnectCb` up to the call of the user's handler. -/
def onDisconnectCb (mqttRc : Int) (s : State) : State :=
  let txt := text "Mosquitto disconnected from broker, rc: " ++
    (mqtt5ReasonCodeToStringRepr mqttRc).1
  { s.logLine .warning txt with connected := false, callback := .notifyDisconnect mqttRc }

def notify (type : ConnectionType) (mqttRc : Int) (s : State) : State :=
  { s with notified := s.notified ++ [⟨type, mqttRc⟩], callback := .idle }

def callbackStep (s : State) : Option State :=
  match s.callback with
  | .idle => none
  | .onConnectCb mqttRc => some (onConnectCb mqttRc s)
  | .notifyConnect mqttRc => some (notify .connect mqttRc s)
  | .onDisconnectCb mqttRc => some (onDisconnectCb mqttRc s)
  | .notifyDisconnect mqttRc => some (notify .disconnect mqttRc s)

def destructorStep (setting : Setting) (rc : Int) (s : State) : Option State :=
  match s.destructor with
  | .alive =>
      some { s.logLine .info (text "Deinitializing mosquitto instance") with
        destructor := .test }
  | .test => some { s with destructor := if s.connected then .disconnect else .loopStop }
  | .disconnect => some { (disconnectAsync setting rc s).2 with destructor := .loopStop }
  | .loopStop => some { s with destructor := .stopping }
  | .stopping => if s.netThread = false then some { s with destructor := .destroyed } else none
  | .destroyed => none

/-- The network thread is between two callbacks. -/
def State.between (s : State) : Prop := s.netThread = true ∧ s.callback = .idle

instance (s : State) : Decidable s.between :=
  inferInstanceAs (Decidable (s.netThread = true ∧ s.callback = .idle))

def step (setting : Setting) (s : State) : Action → Option State
  | .connectAsync rc =>
      if s.destructor ≠ .destroyed then some (connectAsync setting rc s).2 else none
  | .disconnectAsync rc =>
      if s.destructor ≠ .destroyed then some (disconnectAsync setting rc s).2 else none
  | .accepted =>
      if s.between ∧ s.attempting = true ∧ s.link = false then
        some { s with link := true, callback := .onConnectCb success }
      else none
  | .refused mqttRc =>
      if s.between ∧ s.attempting = true ∧ s.link = false ∧ mqttRc ≠ success then
        some { s with callback := .onConnectCb mqttRc }
      else none
  | .ended mqttRc =>
      if s.between ∧ s.link = true then
        some { s with link := false, callback := .onDisconnectCb mqttRc }
      else none
  | .callback => callbackStep s
  | .threadEnd =>
      if s.between ∧ s.link = false ∧ s.disconnectCalled = true then
        some { s with netThread := false }
      else none
  | .destructor rc => destructorStep setting rc s

def system (setting : Setting) : System State Action where
  initial s := s = {}
  step := step setting

/-! What one step can do. -/

inductive Transition (setting : Setting) (s : State) : Action → State → Prop
  | connectAsync {rc : Int} (living : s.destructor ≠ .destroyed) :
      Transition setting s (.connectAsync rc) (connectAsync setting rc s).2
  | disconnectAsync {rc : Int} (living : s.destructor ≠ .destroyed) :
      Transition setting s (.disconnectAsync rc) (disconnectAsync setting rc s).2
  | accepted (between : s.between) (attempting : s.attempting = true)
      (down : s.link = false) :
      Transition setting s .accepted
        { s with link := true, callback := .onConnectCb success }
  | refused {mqttRc : Int} (between : s.between) (attempting : s.attempting = true)
      (down : s.link = false) (failure : mqttRc ≠ success) :
      Transition setting s (.refused mqttRc) { s with callback := .onConnectCb mqttRc }
  | ended {mqttRc : Int} (between : s.between) (up : s.link = true) :
      Transition setting s (.ended mqttRc)
        { s with link := false, callback := .onDisconnectCb mqttRc }
  | onConnectCb {mqttRc : Int} (here : s.callback = .onConnectCb mqttRc) :
      Transition setting s .callback (onConnectCb mqttRc s)
  | onDisconnectCb {mqttRc : Int} (here : s.callback = .onDisconnectCb mqttRc) :
      Transition setting s .callback (onDisconnectCb mqttRc s)
  | notify {type : ConnectionType} {mqttRc : Int}
      (here : s.callback = match type with
        | .connect => .notifyConnect mqttRc
        | .disconnect => .notifyDisconnect mqttRc) :
      Transition setting s .callback (notify type mqttRc s)
  | threadEnd (between : s.between) (down : s.link = false)
      (requested : s.disconnectCalled = true) :
      Transition setting s .threadEnd { s with netThread := false }
  | enter {rc : Int} (here : s.destructor = .alive) :
      Transition setting s (.destructor rc)
        { s.logLine .info (text "Deinitializing mosquitto instance") with
          destructor := .test }
  | testLinked {rc : Int} (here : s.destructor = .test) (flag : s.connected = true) :
      Transition setting s (.destructor rc) { s with destructor := .disconnect }
  | testUnlinked {rc : Int} (here : s.destructor = .test) (flag : s.connected = false) :
      Transition setting s (.destructor rc) { s with destructor := .loopStop }
  | disconnect {rc : Int} (here : s.destructor = .disconnect) :
      Transition setting s (.destructor rc)
        { (disconnectAsync setting rc s).2 with destructor := .loopStop }
  | loopStop {rc : Int} (here : s.destructor = .loopStop) :
      Transition setting s (.destructor rc) { s with destructor := .stopping }
  | stopped {rc : Int} (here : s.destructor = .stopping) (ended : s.netThread = false) :
      Transition setting s (.destructor rc) { s with destructor := .destroyed }

theorem callback_transition {setting : Setting} {s after : State}
    (taken : callbackStep s = some after) : Transition setting s .callback after := by
  cases here : s.callback <;> rw [callbackStep, here] at taken
  case idle => cases taken
  case onConnectCb mqttRc =>
    cases taken
    exact .onConnectCb here
  case notifyConnect mqttRc =>
    cases taken
    exact .notify here
  case onDisconnectCb mqttRc =>
    cases taken
    exact .onDisconnectCb here
  case notifyDisconnect mqttRc =>
    cases taken
    exact .notify here

theorem destructor_transition {setting : Setting} {rc : Int} {s after : State}
    (taken : destructorStep setting rc s = some after) :
    Transition setting s (.destructor rc) after := by
  cases here : s.destructor <;> rw [destructorStep, here] at taken
  case alive =>
    cases taken
    exact .enter here
  case test =>
    rw [Option.some.injEq] at taken
    rw [← taken]
    by_cases flag : s.connected = true
    · rw [if_pos flag]
      exact .testLinked here flag
    · rw [if_neg flag]
      rw [Bool.not_eq_true] at flag
      exact .testUnlinked here flag
  case disconnect =>
    cases taken
    exact .disconnect here
  case loopStop =>
    cases taken
    exact .loopStop here
  case stopping =>
    rcases guarded_some taken with ⟨ended, rfl⟩
    exact .stopped here ended
  case destroyed => cases taken

theorem step_transition {setting : Setting} {s after : State} {action : Action}
    (taken : step setting s action = some after) : Transition setting s action after := by
  cases action with
  | connectAsync rc =>
      rcases guarded_some taken with ⟨living, rfl⟩
      exact .connectAsync living
  | disconnectAsync rc =>
      rcases guarded_some taken with ⟨living, rfl⟩
      exact .disconnectAsync living
  | accepted =>
      rcases guarded_some taken with ⟨⟨between, attempting, down⟩, rfl⟩
      exact .accepted between attempting down
  | refused mqttRc =>
      rcases guarded_some taken with ⟨⟨between, attempting, down, failure⟩, rfl⟩
      exact .refused between attempting down failure
  | ended mqttRc =>
      rcases guarded_some taken with ⟨⟨between, up⟩, rfl⟩
      exact .ended between up
  | callback => exact callback_transition taken
  | threadEnd =>
      rcases guarded_some taken with ⟨⟨between, down, requested⟩, rfl⟩
      exact .threadEnd between down requested
  | destructor rc => exact destructor_transition taken

end IMqtt.Mosquitto.Connection
