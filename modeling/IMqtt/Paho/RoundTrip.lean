import IMqtt.Paho.Publish
import IMqtt.Paho.Receive

/-!
# Publishing and receiving again

The message that `PublishAsync` hands over is transported unchanged and decoded
by `onMessageCb`. All fields arrive as they were, except that a topic with a
NUL byte is cut there: `MQTTAsync_sendMessage` takes the topic as a C string.
-/

namespace IMqtt.Paho.RoundTrip

open IMqtt.Defines IMqtt.Message
open IMqtt.Paho.Publish IMqtt.Paho.Receive

set_option autoImplicit false

/-- The topic that arrives. The library reads a C string and passes the topic
with its length. -/
def arrivedTopic (packet : SendCall) : Str := cStr packet.destinationName

/-- The message that arrives, under the id the receiving library gives it. -/
def transport (packet : SendCall) (msgid : Int) : MQTTAsyncMessage where
  payload := packet.msg.payload.take packet.msg.payloadlen.toNat
  payloadlen := packet.msg.payloadlen
  qos := packet.msg.qos
  retained := packet.msg.retained
  msgid := msgid
  properties := packet.msg.properties

def received (packet : SendCall) (msgid : Int) : Received :=
  onMessageCb (arrivedTopic packet) (arrivedTopic packet).length (transport packet msgid)

/-- The sizes that MQTT5 and the types of the interface allow. -/
structure Sized (message : IMqttMessage) : Prop where
  payload : message.payload.length < 2147483648
  userProps : ∀ prop ∈ message.userProps.toList,
    prop.1.length ≤ 65535 ∧ prop.2.length ≤ 65535
  correlationDataProps : message.correlationDataProps.length ≤ 65535
  responseTopic : message.responseTopic.length ≤ 65535
  payloadContentType : message.payloadContentType.length ≤ 65535

theorem bytes_short {bytes : List UInt8} (short : bytes.length ≤ 65535) :
    (lenString bytes).copy.bytes = bytes := by
  rw [bytes_copy]
  apply bytes_len_string
  omega

theorem user_pairs_sent {props : List (Str × Str)}
    (short : ∀ prop ∈ props, prop.1.length ≤ 65535 ∧ prop.2.length ≤ 65535) :
    userPairs (((props.map userProperty).map MQTTProperty.copy).map MQTTProperty.property) =
      props := by
  induction props with
  | nil => rfl
  | cons prop rest ih =>
      have sizes := short prop List.mem_cons_self
      have later := ih fun other member => short other (List.mem_cons_of_mem _ member)
      have head : (userProperty prop).copy.property = .userProperty prop.1 prop.2 := by
        simp only [userProperty, MQTTProperty.copy, MQTTProperty.property,
          bytes_short sizes.1, bytes_short sizes.2]
      simp only [userPairs, List.map_cons, head] at later ⊢
      rw [List.filterMap_cons]
      simp only [Property.stringPair?]
      rw [later]

theorem owned_user_properties (props : List (Str × Str)) :
    ∀ prop ∈ (props.map userProperty).map MQTTProperty.copy,
      ∃ data value, prop = .userProperty data value := by
  intro prop member
  rw [List.map_map, List.mem_map] at member
  rcases member with ⟨pair, _, rfl⟩
  exact ⟨_, _, rfl⟩

/-- The four properties behind the user properties fill their fields. -/
theorem received_optional_fields {message : IMqttMessage} (sized : Sized message)
    (run : Receiving) :
    (receiveProperties
        ([.responseTopic (lenString message.responseTopic),
          .correlationData (lenString message.correlationDataProps),
          .payloadFormatIndicator (if message.payloadFormatIndicator = .utf8 then 1 else 0),
          .contentType (lenString message.payloadContentType)].map MQTTProperty.copy)
        run).internalMessage =
      { run.internalMessage with
        responseTopic := message.responseTopic
        correlationDataProps := message.correlationDataProps
        payloadFormatIndicator :=
          if message.payloadFormatIndicator = .utf8 then .utf8
          else run.internalMessage.payloadFormatIndicator
        payloadContentType := message.payloadContentType } := by
  have answered := bytes_short sized.responseTopic
  have correlated := bytes_short sized.correlationDataProps
  have typed := bytes_short sized.payloadContentType
  simp only [receiveProperties, List.map_cons, List.map_nil, List.foldl_cons, List.foldl_nil,
    MQTTProperty.copy, receiveProperty, answered, correlated, typed]
  by_cases utf8 : message.payloadFormatIndicator = .utf8
  · simp only [if_pos utf8, if_true]
  · simp [if_neg utf8]

theorem started_sent {message : IMqttMessage} (sized : Sized message) (library : Library)
    (properties : List MQTTProperty) (msgid : Int) :
    startMessage (arrivedTopic (sendCall library message properties))
        (arrivedTopic (sendCall library message properties)).length
        (transport (sendCall library message properties) msgid) =
      { create (cStr message.topic) message.payload message.qos message.retain with
        messageId := msgid } := by
  have payload : message.payload.take (castInt message.payload.length).toNat =
      message.payload := by
    rw [cast_int_of_lt sized.payload, Int.toNat_natCast, List.take_length]
  have retained : decide ((if message.retain then (1 : Int) else 0) ≠ 0) = message.retain := by
    cases message.retain <;> rfl
  simp only [startMessage, transport, sendCall, arrivedTopic, Int.toNat_natCast,
    List.take_length, payload, retained]

/-- What arrives, in full. -/
theorem received_sent {message : IMqttMessage} (sized : Sized message) (library : Library)
    (msgid : Int) :
    (received (sendCall library message ((wireProperties message).map MQTTProperty.copy))
        msgid).handed =
      { message with topic := cStr message.topic, messageId := msgid } := by
  have format : (if message.payloadFormatIndicator = .utf8 then FormatIndicator.utf8
      else .unspecified) = message.payloadFormatIndicator := by
    cases message.payloadFormatIndicator <;> rfl
  have listed : FirstWins.insertAll (∅ : UserProps) message.userProps.toList =
      message.userProps := FirstWins.insert_all_to_list _
  have arrived : (transport (sendCall library message
      ((wireProperties message).map MQTTProperty.copy)) msgid).properties =
        (wireProperties message).map MQTTProperty.copy := rfl
  simp only [received, onMessageCb]
  rw [started_sent sized, arrived, wireProperties, List.map_append,
    receive_properties_append, received_optional_fields sized,
    received_user_properties _ (owned_user_properties _), user_pairs_sent sized.userProps]
  simp only [create, listed, format]

theorem same_content_iff (message : IMqttMessage) (msgid : Int) :
    SameContent { message with topic := cStr message.topic, messageId := msgid } message ↔
      0 ∉ message.topic := by
  constructor
  · intro same
    have whole : cStr message.topic = message.topic := same.topic
    intro member
    rw [← whole, cStr] at member
    have nonzero := List.mem_takeWhile_imp member
    simp at nonzero
  · intro plain
    rw [c_str_of_no_nul plain]
    constructor <;> rfl

/-- Publishing and receiving is lossless, and for no other reason than the C
string for the topic is it not lossless for every message. -/
theorem lossless_iff_plain_topic {library : Library} (lawful : library.Lawful)
    {message : IMqttMessage} (sized : Sized message) {token : Option Int}
    (succeed : AddsSucceed (publishAsync library message token).2.calls) (msgid : Int) :
    ∃ packet, packets (publishAsync library message token).2.calls = [packet] ∧
      (SameContent (received packet msgid).handed message ↔ 0 ∉ message.topic) := by
  refine ⟨_, publish_async_packets lawful succeed, ?_⟩
  rw [received_sent sized]
  exact same_content_iff message msgid

/-- A message that uses every field. -/
def tagged : IMqttMessage where
  topic := text "t"
  payload := [1, 0, 2]
  qos := ⟨1⟩
  retain := true
  userProps := ((∅ : UserProps).insertIfNew (text "b") []).insertIfNew (text "a") [0]
  correlationDataProps := [0, 9]
  responseTopic := text "r"
  payloadFormatIndicator := .utf8
  payloadContentType := text "json"

theorem tagged_sized : Sized tagged := by
  constructor <;> decide

theorem tagged_message_keeps_topic :
    ∃ packet, packets (publishAsync willing tagged (some 0)).2.calls = [packet] ∧
      (SameContent (received packet 3).handed tagged ↔ 0 ∉ tagged.topic) :=
  lossless_iff_plain_topic willing_lawful tagged_sized (by decide) 3

/-- A topic with a NUL byte in it. -/
def cut : IMqttMessage where
  topic := [97, 0, 98]
  payload := []
  qos := ⟨0⟩
  retain := false

theorem nul_in_topic_cuts_it :
    Sized cut ∧ AddsSucceed (publishAsync willing cut none).2.calls ∧
      ∃ packet, packets (publishAsync willing cut none).2.calls = [packet] ∧
        (received packet 3).handed.topic = [97] ∧
        ¬ SameContent (received packet 3).handed cut := by
  have sized : Sized cut := by
    constructor <;> decide
  have succeed : AddsSucceed (publishAsync willing cut none).2.calls := by decide
  refine ⟨sized, succeed, _, publish_async_packets willing_lawful succeed, ?_⟩
  rw [received_sent sized, same_content_iff]
  decide

end IMqtt.Paho.RoundTrip
