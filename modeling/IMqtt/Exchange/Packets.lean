import IMqtt.Mosquitto.RoundTrip
import IMqtt.Paho.RoundTrip

/-!
# Both back ends publish the same packet

The two encoders add the same properties in different orders, the user
properties first in both.
-/

namespace IMqtt.Exchange.Packets

open IMqtt.Defines IMqtt.Message
open IMqtt.Mosquitto.RoundTrip

set_option autoImplicit false

/-- The payload bytes that a PUBLISH of the library carries. -/
def mosquittoPayload (packet : Mosquitto.PublishCall) : List UInt8 :=
  packet.payload.take packet.payloadlen.toNat

def pahoPayload (packet : Paho.SendCall) : List UInt8 :=
  packet.msg.payload.take packet.msg.payloadlen.toNat

def pahoProperties (packet : Paho.SendCall) : List Property :=
  packet.msg.properties.map Paho.MQTTProperty.property

/-- The two calls describe one PUBLISH. -/
structure SamePacket (mosquitto : Mosquitto.PublishCall) (paho : Paho.SendCall) : Prop where
  topic : cStr mosquitto.topic = cStr paho.destinationName
  payload : mosquittoPayload mosquitto = pahoPayload paho
  qos : mosquitto.qos = paho.msg.qos
  retain : mosquitto.retain = true ↔ paho.msg.retained ≠ 0
  properties : mosquitto.properties.Perm (pahoProperties paho)
  userPairs : userPairs mosquitto.properties = userPairs (pahoProperties paho)

/-- MQTT5 strings have no U+0000, and every size fits 16 bits. -/
structure Wellformed (message : IMqttMessage) : Prop where
  transportable : Transportable message
  topic : message.topic.length ≤ 65535
  userProps : ∀ prop ∈ message.userProps.toList,
    prop.1.length ≤ 65535 ∧ prop.2.length ≤ 65535
  responseTopic : message.responseTopic.length ≤ 65535
  payloadContentType : message.payloadContentType.length ≤ 65535

theorem sized_of_wellformed {message : IMqttMessage} (wellformed : Wellformed message) :
    Paho.RoundTrip.Sized message := by
  have payload := wellformed.transportable.payload
  constructor
  · omega
  · exact wellformed.userProps
  · exact wellformed.transportable.correlationDataProps
  · exact wellformed.responseTopic
  · exact wellformed.payloadContentType

/-- The properties of a message, the user properties first. -/
def carried (message : IMqttMessage) (others : List Property) : List Property :=
  message.userProps.toList.map (fun prop => .userProperty prop.1 prop.2) ++ others

theorem mosquitto_properties {message : IMqttMessage} (wellformed : Wellformed message) :
    Mosquitto.Publish.wireProperties message =
      carried message
        [.correlationData message.correlationDataProps, .responseTopic message.responseTopic,
          .contentType message.payloadContentType,
          .payloadFormatIndicator
            (if message.payloadFormatIndicator = .utf8 then 1 else 0)] := by
  have plain := wellformed.transportable
  have users : message.userProps.toList.map Mosquitto.Publish.userProperty =
      message.userProps.toList.map fun prop => .userProperty prop.1 prop.2 := by
    apply List.map_congr_left
    intro prop member
    have clean := plain.userProps prop member
    rw [Mosquitto.Publish.userProperty, c_str_of_no_nul clean.1, c_str_of_no_nul clean.2]
  rw [Mosquitto.Publish.wireProperties, carried, users,
    take_uint16_length plain.correlationDataProps, c_str_of_no_nul plain.responseTopic,
    c_str_of_no_nul plain.payloadContentType]

theorem paho_properties {message : IMqttMessage} (wellformed : Wellformed message) :
    ((Paho.Publish.wireProperties message).map Paho.MQTTProperty.copy).map
        Paho.MQTTProperty.property =
      carried message
        [.responseTopic message.responseTopic, .correlationData message.correlationDataProps,
          .payloadFormatIndicator (if message.payloadFormatIndicator = .utf8 then 1 else 0),
          .contentType message.payloadContentType] := by
  have sized := sized_of_wellformed wellformed
  have users : ((message.userProps.toList.map Paho.Publish.userProperty).map
      Paho.MQTTProperty.copy).map Paho.MQTTProperty.property =
        message.userProps.toList.map fun prop => .userProperty prop.1 prop.2 := by
    rw [List.map_map, List.map_map]
    apply List.map_congr_left
    intro prop member
    have sizes := sized.userProps prop member
    simp only [Function.comp_apply, Paho.Publish.userProperty, Paho.MQTTProperty.copy,
      Paho.MQTTProperty.property, Paho.RoundTrip.bytes_short sizes.1,
      Paho.RoundTrip.bytes_short sizes.2]
  rw [Paho.Publish.wireProperties, List.map_append, List.map_append, users, carried]
  simp only [List.map_cons, List.map_nil, Paho.MQTTProperty.copy, Paho.MQTTProperty.property,
    Paho.RoundTrip.bytes_short sized.responseTopic,
    Paho.RoundTrip.bytes_short sized.correlationDataProps,
    Paho.RoundTrip.bytes_short sized.payloadContentType]

theorem carried_user_pairs (message : IMqttMessage) {others : List Property}
    (unpaired : userPairs others = []) :
    userPairs (carried message others) = message.userProps.toList := by
  unfold userPairs at unpaired
  rw [carried, userPairs, List.filterMap_append, unpaired, List.append_nil,
    List.filterMap_map]
  exact List.filterMap_some

/-- Whatever is handed to the two libraries for one message is one packet. -/
theorem same_packet {mosquitto : Mosquitto.Library} {paho : Paho.Library}
    (mosquittoLawful : mosquitto.Lawful) (pahoLawful : paho.Lawful)
    {message : IMqttMessage} (wellformed : Wellformed message)
    {mosquittoToken pahoToken : Option Int}
    (mosquittoAdds : Mosquitto.Publish.AddsSucceed
      (Mosquitto.Publish.publishAsync mosquitto message mosquittoToken).2.calls)
    (pahoAdds : Paho.Publish.AddsSucceed
      (Paho.Publish.publishAsync paho message pahoToken).2.calls) :
    ∃ left right,
      Mosquitto.Publish.packets
        (Mosquitto.Publish.publishAsync mosquitto message mosquittoToken).2.calls = [left] ∧
      Paho.Publish.packets
        (Paho.Publish.publishAsync paho message pahoToken).2.calls = [right] ∧
      SamePacket left right := by
  refine ⟨_, _, Mosquitto.Publish.publish_async_packets mosquittoLawful mosquittoAdds,
    Paho.Publish.publish_async_packets pahoLawful pahoAdds, ?_⟩
  have sized := sized_of_wellformed wellformed
  have left := mosquitto_properties wellformed
  have right := paho_properties wellformed
  constructor
  · rfl
  · rw [mosquittoPayload, pahoPayload]
    simp only [Mosquitto.Publish.publishCall, Paho.Publish.sendCall,
      Paho.cast_int_of_lt sized.payload, Int.toNat_natCast, List.take_length]
    exact take_uint16_length wellformed.transportable.payload
  · rfl
  · simp only [Mosquitto.Publish.publishCall, Paho.Publish.sendCall]
    cases message.retain <;> simp
  · simp only [Mosquitto.Publish.publishCall, Paho.Publish.sendCall, pahoProperties]
    rw [left, right]
    apply List.Perm.append_left
    -- correlation data and response topic change places, as do the last two
    exact (List.Perm.swap _ _ _).trans
      (((List.Perm.swap _ _ _).cons _).cons _)
  · simp only [Mosquitto.Publish.publishCall, Paho.Publish.sendCall, pahoProperties]
    rw [left, right, carried_user_pairs message rfl, carried_user_pairs message rfl]

/-- Two user properties and every optional field set. -/
def full : IMqttMessage where
  topic := text "t"
  payload := [1, 0, 2]
  qos := ⟨1⟩
  retain := true
  userProps := ((∅ : UserProps).insertIfNew (text "b") []).insertIfNew (text "a") (text "x")
  correlationDataProps := [0, 9]
  responseTopic := text "r"
  payloadFormatIndicator := .utf8
  payloadContentType := text "json"

theorem full_message_same_packet :
    ∃ left right,
      Mosquitto.Publish.packets
        (Mosquitto.Publish.publishAsync Mosquitto.willing full none).2.calls = [left] ∧
      Paho.Publish.packets
        (Paho.Publish.publishAsync Paho.willing full (some 0)).2.calls = [right] ∧
      SamePacket left right := by
  have transportable : Transportable full := by
    constructor <;> decide
  have wellformed : Wellformed full := by
    constructor
    · exact transportable
    all_goals decide
  exact same_packet Mosquitto.willing_lawful Paho.willing_lawful wellformed (by decide)
    (by decide)

end IMqtt.Exchange.Packets
