import IMqtt.Mosquitto.Publish
import IMqtt.Mosquitto.Receive

/-!
# Publishing and receiving again

The packet that `PublishAsync` hands over is transported unchanged and decoded
by `onMessageCb`. The received message is the published one with the content
type in the place of the response topic and no content type of its own.
-/

namespace IMqtt.Mosquitto.RoundTrip

open IMqtt.Defines IMqtt.Message
open IMqtt.Mosquitto.Publish IMqtt.Mosquitto.Receive

set_option autoImplicit false

/-- The library takes the topic as a C string and the payload by its length. -/
def transport (packet : PublishCall) (mid : Int) : MosquittoMessage where
  mid := mid
  topic := cStr packet.topic
  payload := packet.payload.take packet.payloadlen.toNat
  payloadlen := packet.payloadlen
  qos := packet.qos
  retain := packet.retain

/-- MQTT5 strings have no U+0000, and the sizes fit the 16 bits they are
handed over in. -/
structure Transportable (message : IMqttMessage) : Prop where
  topic : 0 ∉ message.topic
  responseTopic : 0 ∉ message.responseTopic
  payloadContentType : 0 ∉ message.payloadContentType
  userProps : ∀ prop ∈ message.userProps.toList, 0 ∉ prop.1 ∧ 0 ∉ prop.2
  correlationDataProps : message.correlationDataProps.length ≤ 65535
  payload : message.payload.length ≤ 65535

theorem take_uint16_length {bytes : List UInt8} (short : bytes.length ≤ 65535) :
    bytes.take (UInt16.ofNat bytes.length).toNat = bytes := by
  have fits : (UInt16.ofNat bytes.length).toNat = bytes.length :=
    UInt16.toNat_ofNat_of_lt' (Nat.lt_succ_of_le short)
  rw [fits, List.take_length]

theorem first_user_properties {identifier : Identifier}
    (other : identifier ≠ .userProperty) (props : List (Str × Str)) :
    first identifier (props.map userProperty) = none := by
  rw [first, List.find?_eq_none]
  intro property member
  rw [List.mem_map] at member
  rcases member with ⟨prop, _, rfl⟩
  simp [userProperty, Property.identifier, Ne.symm other]

theorem first_wire_property {identifier : Identifier}
    (other : identifier ≠ .userProperty) (message : IMqttMessage) :
    first identifier (wireProperties message) =
      first identifier
        [.correlationData (message.correlationDataProps.take
            (UInt16.ofNat message.correlationDataProps.length).toNat),
          .responseTopic (cStr message.responseTopic),
          .contentType (cStr message.payloadContentType),
          .payloadFormatIndicator
            (if message.payloadFormatIndicator = .utf8 then 1 else 0)] := by
  rw [wireProperties, first, List.find?_append]
  have skipped := first_user_properties other message.userProps.toList
  rw [first] at skipped
  rw [skipped]
  rfl

theorem received_wire_pairs (message : IMqttMessage)
    (plain : ∀ prop ∈ message.userProps.toList, 0 ∉ prop.1 ∧ 0 ∉ prop.2) :
    receivedPairs (wireProperties message) = message.userProps.toList := by
  have sent : userPairs (wireProperties message) =
      message.userProps.toList.map fun prop => (cStr prop.1, cStr prop.2) := by
    rw [userPairs, wireProperties, List.filterMap_append, List.filterMap_map]
    simp [Property.stringPair?, Function.comp_def, userProperty]
  rw [receivedPairs, sent, List.map_map]
  conv_rhs => rw [← List.map_id message.userProps.toList]
  apply List.map_congr_left
  intro prop member
  have clean := plain prop member
  simp [c_str_of_no_nul clean.1, c_str_of_no_nul clean.2]

/-- What arrives, in full. -/
theorem decoded_transported {message : IMqttMessage}
    (transportable : Transportable message) (mid : Int) :
    decoded (transport (publishCall message (wireProperties message)) mid)
        (wireProperties message) =
      { message with
        messageId := mid
        responseTopic := message.payloadContentType
        payloadContentType := [] } := by
  have pairs := received_wire_pairs message transportable.userProps
  have correlation := take_uint16_length transportable.correlationDataProps
  have correlationData : (first .correlationData (wireProperties message)).bind
      Property.binary? = some message.correlationDataProps := by
    rw [first_wire_property (by decide), correlation]
    rfl
  have responseTopic : (first .responseTopic (wireProperties message)).bind
      Property.string? = some (cStr message.responseTopic) := by
    rw [first_wire_property (by decide)]
    rfl
  have contentType : (first .contentType (wireProperties message)).bind
      Property.string? = some message.payloadContentType := by
    rw [first_wire_property (by decide), c_str_of_no_nul transportable.payloadContentType]
    rfl
  have formatIndicator : (first .payloadFormatIndicator (wireProperties message)).bind
      Property.byte? = some (if message.payloadFormatIndicator = .utf8 then 1 else 0) := by
    rw [first_wire_property (by decide)]
    rfl
  have format :
      (if (if message.payloadFormatIndicator = .utf8 then (1 : UInt8) else 0) = 1
        then FormatIndicator.utf8 else .unspecified) = message.payloadFormatIndicator := by
    cases message.payloadFormatIndicator <;> rfl
  have started : startMessage (transport (publishCall message (wireProperties message)) mid) =
      { create message.topic message.payload message.qos message.retain with
        messageId := mid } := by
    simp only [startMessage, transport, publishCall, Int.toNat_natCast,
      c_str_of_no_nul transportable.topic, take_uint16_length transportable.payload]
  simp only [decoded, pairs, correlationData, responseTopic, contentType, formatIndicator,
    Option.elim_some, Option.getD_some, format, correlation, started,
    c_str_of_no_nul transportable.payloadContentType]
  simp only [withUserProps, create, FirstWins.insert_all_to_list]

theorem received_message {sender receiver : Library} (sends : sender.Lawful)
    (receives : receiver.Lawful) {message : IMqttMessage}
    (transportable : Transportable message) {token : Option Int}
    (succeed : AddsSucceed (publishAsync sender message token).2.calls) (mid : Int) :
    ∃ packet, packets (publishAsync sender message token).2.calls = [packet] ∧
      ∀ fuel, packet.properties.length < fuel →
        ∃ run, onMessageCb receiver fuel (transport packet mid) packet.properties =
            some run ∧
          run.mqttMessage =
            { message with
              messageId := mid
              responseTopic := message.payloadContentType
              payloadContentType := [] } := by
  refine ⟨_, publish_async_packets sends succeed, ?_⟩
  intro fuel enough
  rcases on_message_cb_decodes receives
    (transport (publishCall message (wireProperties message)) mid)
    (wireProperties message) enough with ⟨run, finished, delivered⟩
  rw [decoded_transported transportable] at delivered
  exact ⟨run, finished, delivered⟩

theorem same_content_iff (message : IMqttMessage) (mid : Int) :
    SameContent
        { message with
          messageId := mid
          responseTopic := message.payloadContentType
          payloadContentType := [] } message ↔
      message.responseTopic = [] ∧ message.payloadContentType = [] := by
  constructor
  · intro same
    have untyped : [] = message.payloadContentType := same.payloadContentType
    have moved : message.payloadContentType = message.responseTopic := same.responseTopic
    rw [← moved, ← untyped]
    exact ⟨rfl, rfl⟩
  · intro empty
    exact
      { topic := rfl, payload := rfl, qos := rfl, retain := rfl, userProps := rfl
        correlationDataProps := rfl
        responseTopic := empty.2.trans empty.1.symm
        payloadContentType := empty.2.symm
        payloadFormatIndicator := rfl }

/-- Publishing and receiving is lossless exactly for the messages that have
neither a response topic nor a content type. -/
theorem lossless_iff_no_response_topic_and_content_type {sender receiver : Library}
    (sends : sender.Lawful) (receives : receiver.Lawful) {message : IMqttMessage}
    (transportable : Transportable message) {token : Option Int}
    (succeed : AddsSucceed (publishAsync sender message token).2.calls) (mid : Int) :
    ∃ packet, packets (publishAsync sender message token).2.calls = [packet] ∧
      ∀ fuel, packet.properties.length < fuel →
        ∃ run, onMessageCb receiver fuel (transport packet mid) packet.properties =
            some run ∧
          (SameContent run.mqttMessage message ↔
            message.responseTopic = [] ∧ message.payloadContentType = []) := by
  rcases received_message sends receives transportable succeed mid with
    ⟨packet, sent, delivers⟩
  refine ⟨packet, sent, ?_⟩
  intro fuel enough
  rcases delivers fuel enough with ⟨run, finished, delivered⟩
  refine ⟨run, finished, ?_⟩
  rw [delivered]
  exact same_content_iff message mid

/-- A message with user properties, correlation data and a format indicator. -/
def tagged : IMqttMessage where
  topic := text "t"
  payload := [1, 0, 2]
  qos := ⟨1⟩
  retain := true
  userProps := ((∅ : UserProps).insertIfNew (text "b") []).insertIfNew (text "a") (text "x")
  correlationDataProps := [0, 9]
  payloadFormatIndicator := .utf8

theorem tagged_transportable : Transportable tagged := by
  constructor <;> decide

theorem tagged_message_is_lossless :
    ∃ packet, packets (publishAsync willing tagged (some 0)).2.calls = [packet] ∧
      ∀ fuel, packet.properties.length < fuel →
        ∃ run, onMessageCb willing fuel (transport packet 3) packet.properties =
            some run ∧
          (SameContent run.mqttMessage tagged ↔
            tagged.responseTopic = [] ∧ tagged.payloadContentType = []) :=
  lossless_iff_no_response_topic_and_content_type willing_lawful willing_lawful
    tagged_transportable (by decide) 3

/-- A message with a content type. -/
def typed : IMqttMessage where
  topic := text "t"
  payload := []
  qos := ⟨0⟩
  retain := false
  payloadContentType := text "json"

theorem content_type_becomes_response_topic :
    Transportable typed ∧ AddsSucceed (publishAsync willing typed none).2.calls ∧
      ∃ packet, packets (publishAsync willing typed none).2.calls = [packet] ∧
        ∃ fuel run, packet.properties.length < fuel ∧
          onMessageCb willing fuel (transport packet 3) packet.properties = some run ∧
          run.mqttMessage.responseTopic = text "json" ∧
          run.mqttMessage.payloadContentType = [] ∧
          ¬ SameContent run.mqttMessage typed := by
  have transportable : Transportable typed := by
    constructor <;> decide
  have succeed : AddsSucceed (publishAsync willing typed none).2.calls := by decide
  rcases received_message willing_lawful willing_lawful transportable succeed 3 with
    ⟨packet, sent, delivers⟩
  rcases delivers _ (Nat.lt_succ_self _) with ⟨run, finished, delivered⟩
  refine ⟨transportable, succeed, packet, sent, _, run, Nat.lt_succ_self _, finished, ?_⟩
  rw [delivered, same_content_iff]
  decide

end IMqtt.Mosquitto.RoundTrip
