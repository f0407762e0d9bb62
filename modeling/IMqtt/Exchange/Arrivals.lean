import IMqtt.Exchange.AnyClients

/-!
# What the two back ends make of one PUBLISH

The publisher is any MQTT5 client here, so a property may be there or not. The
two clients hand over the same message unless the content type gets in the way
of the response topic, or the Paho library gives the topic without its length.
-/

namespace IMqtt.Exchange.Arrivals

open IMqtt.Defines IMqtt.Message IMqtt.Exchange.AnyClients
open IMqtt.Mosquitto.RoundTrip (take_uint16_length)
open IMqtt.Mosquitto.Receive (receivedPairs)

set_option autoImplicit false

def contentTypeOf (properties : List Property) : Option Str :=
  (first .contentType properties).bind Property.string?

def responseTopicOf (properties : List Property) : Option Str :=
  (first .responseTopic properties).bind Property.string?

def correlationDataOf (properties : List Property) : Option (List UInt8) :=
  (first .correlationData properties).bind Property.binary?

def formatIndicatorOf (properties : List Property) : FormatIndicator :=
  if (first .payloadFormatIndicator properties).bind Property.byte? = some 1 then .utf8
  else .unspecified

/-- What MQTT5 permits: no U+0000, and sizes of 16 bits. -/
structure Permitted (properties : List Property) : Prop where
  once : Paho.ReceiveOrder.AtMostOnce properties
  userPairs : UserProps.PlainPairs properties
  responseTopic : ∀ value, responseTopicOf properties = some value → 0 ∉ value
  contentType : ∀ value, contentTypeOf properties = some value → 0 ∉ value
  correlationData : ∀ value, correlationDataOf properties = some value → value.length ≤ 65535

/-- There is no content type, or it is as empty as the response topic. -/
def Unmixed (properties : List Property) : Prop :=
  (contentTypeOf properties).getD [] = [] ∧
    (contentTypeOf properties = some [] → (responseTopicOf properties).getD [] = [])

instance (properties : List Property) : Decidable (Unmixed properties) :=
  inferInstanceAs (Decidable (_ ∧ (_ → _)))

/-- A C string that was one before. -/
theorem elim_c_str {value : Option Str} (plain : ∀ bytes, value = some bytes → 0 ∉ bytes)
    (otherwise : Str) : value.elim otherwise cStr = value.getD otherwise := by
  cases found : value with
  | none => rfl
  | some bytes => exact c_str_of_no_nul (plain bytes found)

section Permitted

variable {arrived : WirePublish} (permitted : Permitted arrived.properties)

include permitted

theorem mosquitto_decodes (pMsg : Mosquitto.MosquittoMessage) :
    Mosquitto.Receive.decoded pMsg arrived.properties =
      { Mosquitto.Receive.startMessage pMsg with
        userProps := FirstWins.insertAll ∅ (userPairs arrived.properties)
        correlationDataProps := (correlationDataOf arrived.properties).getD []
        responseTopic := (contentTypeOf arrived.properties).getD
          ((responseTopicOf arrived.properties).getD [])
        payloadFormatIndicator := formatIndicatorOf arrived.properties } := by
  have answered := elim_c_str permitted.responseTopic []
  have typed := elim_c_str permitted.contentType
    ((responseTopicOf arrived.properties).getD [])
  have correlated : (correlationDataOf arrived.properties).elim [] (fun value =>
      value.take (UInt16.ofNat value.length).toNat) =
        (correlationDataOf arrived.properties).getD [] := by
    cases found : correlationDataOf arrived.properties with
    | none => rfl
    | some value => exact take_uint16_length (permitted.correlationData value found)
  have formatted : ∀ byte : Option UInt8,
      (if byte.getD 0 = 1 then FormatIndicator.utf8 else .unspecified) =
        if byte = some 1 then .utf8 else .unspecified := by
    intro byte
    cases byte <;> simp
  rw [← typed, ← answered, ← correlated, formatIndicatorOf, ← formatted,
    ← UserProps.received_pairs_plain permitted.userPairs]
  rfl

theorem paho_decodes {pTopic : List UInt8} {topicLen : Int} {msg : Paho.MQTTAsyncMessage}
    (array : msg.properties.map Paho.MQTTProperty.property = arrived.properties) :
    (Paho.Receive.onMessageCb pTopic topicLen msg).handed =
      { Paho.Receive.startMessage pTopic topicLen msg with
        userProps := FirstWins.insertAll ∅ (userPairs arrived.properties)
        correlationDataProps := (correlationDataOf arrived.properties).getD []
        responseTopic := (responseTopicOf arrived.properties).getD []
        payloadFormatIndicator := formatIndicatorOf arrived.properties
        payloadContentType := (contentTypeOf arrived.properties).getD [] } := by
  have once : Paho.ReceiveOrder.AtMostOnce (msg.properties.map Paho.MQTTProperty.property) := by
    rw [array]
    exact permitted.once
  have decoded := Paho.ReceiveOrder.decoded pTopic topicLen once
  rw [array] at decoded
  apply Paho.ReceiveOrder.message_ext
  · exact Paho.ReceiveOrder.received_arguments msg.properties _
  · exact UserProps.paho_user_props pTopic topicLen array
  · exact decoded.correlationDataProps
  · exact decoded.responseTopic
  · exact decoded.payloadFormatIndicator
  · exact decoded.payloadContentType

end Permitted

/-- A response topic and no content type. -/
def question : WirePublish where
  topic := text "t"
  payload := [0]
  qos := 1
  retain := false
  properties := [.other 2, .responseTopic (text "r"), .userProperty (text "k") (text "v"),
    .userProperty (text "k") (text "w")]

def questionMsg : Paho.MQTTAsyncMessage where
  payload := [0]
  payloadlen := 1
  qos := 1
  retained := 0
  msgid := 1
  properties := [.other 2, .responseTopic ⟨text "r", 1⟩,
    .userProperty ⟨text "k", 1⟩ ⟨text "v", 1⟩, .userProperty ⟨text "k", 1⟩ ⟨text "w", 1⟩]

end IMqtt.Exchange.Arrivals
