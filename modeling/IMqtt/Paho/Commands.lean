import IMqtt.Interface.Callbacks
import IMqtt.Interface.Client
import IMqtt.Paho.ConnectAsync
import IMqtt.Paho.Publish

/-!
# SubscribeAsync, UnSubscribeAsync and the completion callbacks of PahoClient

The options of a call are the initialiser's with the fields that the wrapper
sets. `token` gets `callOptions.token` whatever the library has returned, and
of the failure callbacks only that of a publish reports to the user.
-/

namespace IMqtt.Paho.Commands

open IMqtt.Callbacks IMqtt.Client IMqtt.Defines IMqtt.Message
open IMqtt.Paho.ConnectAsync (Report)

set_option autoImplicit false

/-- `MQTTSubscribe_options`. -/
structure SubscribeOptions where
  noLocal : UInt8
  retainAsPublished : UInt8
  retainHandling : UInt8
  deriving DecidableEq, Repr

/-- `MQTTSubscribe_options_initializer`. -/
def subscribeOptionsInitializer : SubscribeOptions := ⟨0, 0, 0⟩

/-- The arguments of `MQTTAsync_subscribe` that the wrapper chooses. -/
structure SubscribeCall where
  topic : Str
  qos : Int
  subscribeOptions : SubscribeOptions
  deriving DecidableEq, Repr

/-- The return code of a command and `callOptions.token` behind it. -/
structure Answer where
  rc : Int
  token : Int
  deriving DecidableEq, Repr

def subscribeCall (params : InitializeParameters) (topic : Str) (qos : QOS)
    (getRetained : Bool) : SubscribeCall where
  topic := topic
  qos := qos.toInt
  subscribeOptions :=
    { subscribeOptionsInitializer with
      noLocal := if params.allowLocalTopics then 0 else 1
      retainAsPublished := if getRetained then 0 else 2 }

def subscribeAsync (texts : Texts) (params : InitializeParameters)
    (library : SubscribeCall → Answer) (topic : Str) (qos : QOS) (token : Option Int)
    (getRetained : Bool) : Submitted :=
  let answer := library (subscribeCall params topic qos getRetained)
  let (status, line) := pahoRcToReasonCode texts answer.rc (text "MQTTAsync_subscribe")
  { status := status
    token := token.map fun _ => answer.token
    log := [⟨.trace, text "Subscribing to topic: \"" ++ topic ++ text "\""⟩, line] }

def unSubscribeAsync (texts : Texts) (library : Str → Answer) (topic : Str)
    (token : Option Int) : Submitted :=
  let answer := library topic
  let (status, line) := pahoRcToReasonCode texts answer.rc (text "MQTTAsync_unsubscribe")
  { status := status
    token := token.map fun _ => answer.token
    log := [⟨.trace, text "Unsubscribing from topic: \"" ++ topic ++ text "\""⟩, line] }

/-- The callbacks of `MQTTAsync_subscribe`. -/
def subscribeCompleted (texts : Texts) : Report → Completed
  | .onSuccess5 data =>
      { calls := [.onSubscribe data.token]
        log := printDetailsOnSuccess texts (text "MQTTAsync_subscribe") data }
  | .onFailure5 data =>
      { calls := []
        log := printDetailsOnFailure texts (text "MQTTAsync_subscribe") data }

/-- The callbacks of `MQTTAsync_unsubscribe`. -/
def unSubscribeCompleted (texts : Texts) : Report → Completed
  | .onSuccess5 data =>
      { calls := [.onUnSubscribe data.token]
        log := printDetailsOnSuccess texts (text "MQTTAsync_unsubscribe") data }
  | .onFailure5 data =>
      { calls := []
        log := printDetailsOnFailure texts (text "MQTTAsync_unsubscribe") data }

/-- The callbacks of `MQTTAsync_sendMessage`. -/
def publishCompleted (texts : Texts) : Report → Completed
  | .onSuccess5 data =>
      { calls := [.onPublish data.token data.reasonCode]
        log := printDetailsOnSuccess texts (text "MQTTAsync_sendMessage") data ++
          [⟨.debug, text "Paho Publish finished for token: " ++ toStr data.token⟩] }
  | .onFailure5 data =>
      { calls := [.onPublish data.token data.reasonCode]
        log := printDetailsOnFailure texts (text "MQTTAsync_sendMessage") data }

end IMqtt.Paho.Commands
