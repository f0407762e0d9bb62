import IMqtt.Interface.Callbacks
import IMqtt.Interface.Client
import IMqtt.Mosquitto.Publish

/-!
# SubscribeAsync, UnSubscribeAsync and the completion callbacks of MosquittoClient

The options of a subscription are bits of one int. `token` is handed to the
library, which stores the message id there.
-/

namespace IMqtt.Mosquitto.Commands

open IMqtt.Callbacks IMqtt.Client IMqtt.Defines IMqtt.Message

set_option autoImplicit false

/-- `MQTT_SUB_OPT_NO_LOCAL` and `MQTT_SUB_OPT_SEND_RETAIN_NEVER`. -/
def noLocalOption : UInt32 := 0x04
def sendRetainNever : UInt32 := 0x20

/-- The arguments of `mosquitto_subscribe_v5` that the wrapper chooses. -/
structure SubscribeCall where
  sub : Str
  qos : Int
  options : UInt32
  deriving DecidableEq, Repr

/-- The return code of a command and what was stored through `mid`. -/
structure Answer where
  rc : Int
  mid : Option Int
  deriving DecidableEq, Repr

def subscribeOptions (params : InitializeParameters) (getRetained : Bool) : UInt32 :=
  let options : UInt32 := 0
  let options := if params.allowLocalTopics then options else options ||| noLocalOption
  if getRetained then options else options ||| sendRetainNever

def subscribeCall (params : InitializeParameters) (topic : Str) (qos : QOS)
    (getRetained : Bool) : SubscribeCall where
  sub := topic
  qos := qos.toInt
  options := subscribeOptions params getRetained

def subscribeAsync (strerror : Int → Str) (params : InitializeParameters)
    (library : SubscribeCall → Answer) (topic : Str) (qos : QOS) (token : Option Int)
    (getRetained : Bool) : Submitted :=
  let answer := library (subscribeCall params topic qos getRetained)
  let (status, line) :=
    mosqRcToReasonCode strerror answer.rc (text "mosquitto_subscribe_v5")
  { status := status
    token := token.map fun token => answer.mid.getD token
    log := [⟨.debug, text "Subscribing to topic: \"" ++ topic ++ text "\""⟩, line] }

def unSubscribeAsync (strerror : Int → Str) (library : Str → Answer) (topic : Str)
    (token : Option Int) : Submitted :=
  let answer := library topic
  let (status, line) :=
    mosqRcToReasonCode strerror answer.rc (text "mosquitto_unsubscribe_v5")
  { status := status
    token := token.map fun token => answer.mid.getD token
    log := [⟨.debug, text "Unsubscribing from topic: \"" ++ topic ++ text "\""⟩, line] }

def onSubscribeCb (messageId : Int) (grantedQos : List Int) : Completed where
  calls := [.onSubscribe messageId]
  log := grantedQos.map fun qos =>
    ⟨.debug, text "Mosquitto Subscribe completed with QOS: " ++ toStr qos⟩

def onUnSubscribeCb (messageId : Int) : Completed where
  calls := [.onUnSubscribe messageId]
  log := [⟨.debug, text "Mosquitto UnSubscribe completed"⟩]

def onPublishCb (messageId mqttRc : Int) : Completed where
  calls := [.onPublish messageId mqttRc]
  log := [⟨.debug, text "Mosquitto publish completed for token: " ++ toStr messageId ++
    text ", rc: " ++ (mqtt5ReasonCodeToStringRepr mqttRc).1⟩]

end IMqtt.Mosquitto.Commands
