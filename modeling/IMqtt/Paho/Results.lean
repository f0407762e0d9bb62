import IMqtt.Interface.Defines

/-!
# What the Paho library reports and how the wrapper reads it

The data of `MQTTAsync_successData5` and `MQTTAsync_failureData5` that the
wrapper looks at, the lines it logs for them, and the translation of return
codes.
-/

namespace IMqtt.Paho

open IMqtt.Defines

set_option autoImplicit false

def mqttasyncSuccess : Int := 0
def mqttasyncDisconnected : Int := -3

/-- `MQTTAsync_strerror` and `MQTTReasonCode_toString`. -/
structure Texts where
  strerror : Int → Str
  reasonCode : Int → Str

structure SuccessData where
  token : Int
  reasonCode : Int
  deriving DecidableEq, Repr

structure FailureData where
  token : Int
  reasonCode : Int
  code : Int
  message : Option Str
  deriving DecidableEq, Repr

def printDetailsOnSuccess (texts : Texts) (details : Str) (data : SuccessData) :
    List LogEntry :=
  [⟨.debug, details ++ text ": okay for token: " ++ toStr data.token ++
    text ", MQTT5 rc: " ++ texts.reasonCode data.reasonCode⟩]

def printDetailsOnFailure (texts : Texts) (details : Str) (data : FailureData) :
    List LogEntry :=
  ⟨.error, details ++ text ": failed for token: " ++ toStr data.token ++
      text ", MQTT5 rc: " ++ texts.reasonCode data.reasonCode ++
      text ", Paho rc: " ++ texts.strerror data.code⟩ ::
    (data.message.map fun message =>
      (⟨.error, details ++ text ": failed for token: " ++ toStr data.token ++
        text ", Paho description: " ++ message⟩ : LogEntry)).toList

/-- `pahoRcToReasonCode`, with the line it logs. -/
def pahoRcToReasonCode (texts : Texts) (rc : Int) (details : Str) :
    ReasonCode × LogEntry :=
  let (status, logLvl) : ReasonCode × LogLevel :=
    if rc = mqttasyncSuccess then (.okay, .debug)
    else if rc = mqttasyncDisconnected then (.errorNoConnection, .warning)
    else (.errorGeneral, .error)
  (status, ⟨logLvl, details ++ text ": " ++ (reasonCodeToStringRepr status).1 ++
    text ", Paho: " ++ texts.strerror rc⟩)

theorem paho_rc_okay_iff (texts : Texts) (rc : Int) (details : Str) :
    (pahoRcToReasonCode texts rc details).1 = .okay ↔ rc = mqttasyncSuccess := by
  rw [pahoRcToReasonCode]
  split_ifs <;> simp_all

end IMqtt.Paho
