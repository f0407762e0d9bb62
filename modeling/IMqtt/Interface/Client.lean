import IMqtt.Interface.Defines

/-!
# IMqttClient::InitializeParameters

The parameters of both back ends with their defaults, over every build option,
the experimental one excepted. An `int` has 32 bits.
-/

namespace IMqtt.Client

open IMqtt.Defines

set_option autoImplicit false

structure InitializeParameters where
  hostAddress : Str := text "localhost"
  port : Int32 := 1883
  clientId : Str := text "clientId"
  mqttUsername : Str := []
  mqttPassword : Str := []
  cleanSession : Bool := true
  keepAliveInterval : Int32 := 10
  reconnectDelayMin : Int32 := 1
  reconnectDelayMinLower : Int32 := 0
  reconnectDelayMinUpper : Int32 := 0
  reconnectDelayMax : Int32 := 30
  allowLocalTopics : Bool := false
  caFilePath : Str := []
  caDirPath : Str := []
  clientCertFilePath : Str := []
  privateKeyFilePath : Str := []
  privateKeyPassword : Str := []
  disableDefaultCaStore : Bool := false
  autoReconnect : Bool := true
  httpProxy : Str := []
  httpsProxy : Str := []
  exponentialBackoff : Bool := false
  deriving DecidableEq, Repr

/-- The check that both constructors make. -/
def reconnectDelayRefused (params : InitializeParameters) : Prop :=
  params.reconnectDelayMinLower < 0 ∨ params.reconnectDelayMinUpper < 0 ∨
    params.reconnectDelayMinLower > params.reconnectDelayMinUpper

instance (params : InitializeParameters) : Decidable (reconnectDelayRefused params) :=
  inferInstanceAs (Decidable (params.reconnectDelayMinLower < 0 ∨
    params.reconnectDelayMinUpper < 0 ∨
    params.reconnectDelayMinLower > params.reconnectDelayMinUpper))

theorem default_reconnect_delay_accepted : ¬ reconnectDelayRefused {} := by
  decide

/-- `params.hostAddress + ":" + to_string(params.port)`. -/
def brokerAddress (params : InitializeParameters) : Str :=
  params.hostAddress ++ text ":" ++ toStr params.port.toInt

/-- `s.empty() ? nullptr : s.c_str()`. -/
def pathOrNull (path : Str) : Option Str :=
  if path = [] then none else some path

inductive LogLevelLib
  | trace | debug | info | warning | error | fatal | none
  deriving DecidableEq, Repr

/-- `InitLogMqttLib` gives the level that was passed first; `given` is that
level once there is one. -/
def initLogMqttLib (level : LogLevelLib) (given : Option LogLevelLib) :
    LogLevelLib × Option LogLevelLib :=
  (given.getD level, some (given.getD level))

end IMqtt.Client
