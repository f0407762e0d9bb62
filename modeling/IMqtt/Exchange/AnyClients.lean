import IMqtt.Exchange.Packets
import IMqtt.Exchange.UserProps
import IMqtt.Paho.MessageArrived

/-!
# Either back end reads what either back end publishes

Between the two clients stands a broker. It may lower the QoS, clear the retain
flag, reorder the properties and add some of its own, but it keeps the user
properties in order.
-/

namespace IMqtt.Exchange.AnyClients

open IMqtt.Defines IMqtt.Message IMqtt.Exchange.Packets
open IMqtt.Mosquitto.RoundTrip (take_uint16_length Transportable)
open IMqtt.Mosquitto.Receive (receivedPairs)

set_option autoImplicit false

/-- A PUBLISH on the wire. -/
structure WirePublish where
  topic : Str
  payload : List UInt8
  qos : Int
  retain : Bool
  properties : List Property
  deriving DecidableEq, Repr

def ofMosquitto (packet : Mosquitto.PublishCall) : WirePublish where
  topic := cStr packet.topic
  payload := mosquittoPayload packet
  qos := packet.qos
  retain := packet.retain
  properties := packet.properties

def ofPaho (packet : Paho.SendCall) : WirePublish where
  topic := cStr packet.destinationName
  payload := pahoPayload packet
  qos := packet.msg.qos
  retain := packet.msg.retained ≠ 0
  properties := pahoProperties packet

/-- One of the two clients has handed the message to its library. -/
inductive Published (message : IMqttMessage) : WirePublish → Prop
  | mosquitto {library : Mosquitto.Library} (lawful : library.Lawful) (token : Option Int)
      (succeed : Mosquitto.Publish.AddsSucceed
        (Mosquitto.Publish.publishAsync library message token).2.calls)
      {packet : Mosquitto.PublishCall}
      (handedOver : packet ∈ Mosquitto.Publish.packets
        (Mosquitto.Publish.publishAsync library message token).2.calls) :
      Published message (ofMosquitto packet)
  | paho {library : Paho.Library} (lawful : library.Lawful) (token : Option Int)
      (succeed : Paho.Publish.AddsSucceed
        (Paho.Publish.publishAsync library message token).2.calls)
      {packet : Paho.SendCall}
      (handedOver : packet ∈ Paho.Publish.packets
        (Paho.Publish.publishAsync library message token).2.calls) :
      Published message (ofPaho packet)

/-- The optional fields as properties. -/
def options (message : IMqttMessage) : List Property :=
  [.correlationData message.correlationDataProps, .responseTopic message.responseTopic,
    .contentType message.payloadContentType,
    .payloadFormatIndicator (if message.payloadFormatIndicator = .utf8 then 1 else 0)]

structure Encodes (message : IMqttMessage) (sent : WirePublish) : Prop where
  topic : sent.topic = message.topic
  payload : sent.payload = message.payload
  qos : sent.qos = message.qos.toInt
  retain : sent.retain = message.retain
  properties : sent.properties.Perm (carried message (options message))
  userPairs : userPairs sent.properties = message.userProps.toList

theorem mosquitto_encodes {message : IMqttMessage} (wellformed : Wellformed message) :
    Encodes message (ofMosquitto (Mosquitto.Publish.publishCall message
      (Mosquitto.Publish.wireProperties message))) := by
  have transportable := wellformed.transportable
  have properties := mosquitto_properties wellformed
  constructor
  · exact c_str_of_no_nul transportable.topic
  · exact take_uint16_length transportable.payload
  · rfl
  · rfl
  · simp only [ofMosquitto, Mosquitto.Publish.publishCall]
    rw [properties]
    exact List.Perm.refl _
  · simp only [ofMosquitto, Mosquitto.Publish.publishCall]
    rw [properties, carried_user_pairs message rfl]

theorem paho_encodes {message : IMqttMessage} (wellformed : Wellformed message)
    (library : Paho.Library) :
    Encodes message (ofPaho (Paho.Publish.sendCall library message
      ((Paho.Publish.wireProperties message).map Paho.MQTTProperty.copy))) := by
  have sized := sized_of_wellformed wellformed
  have properties := paho_properties wellformed
  constructor
  · exact c_str_of_no_nul wellformed.transportable.topic
  · simp only [ofPaho, pahoPayload, Paho.Publish.sendCall,
      Paho.cast_int_of_lt sized.payload, Int.toNat_natCast, List.take_length]
  · rfl
  · have retained : decide ((if message.retain then (1 : Int) else 0) ≠ 0) =
        message.retain := by
      cases message.retain <;> rfl
    exact retained
  · simp only [ofPaho, pahoProperties, Paho.Publish.sendCall]
    rw [properties]
    apply List.Perm.append_left
    exact (List.Perm.swap _ _ _).trans (((List.Perm.swap _ _ _).cons _).cons _)
  · simp only [ofPaho, pahoProperties, Paho.Publish.sendCall]
    rw [properties, carried_user_pairs message rfl]

theorem published_encodes {message : IMqttMessage} (wellformed : Wellformed message)
    {sent : WirePublish} (published : Published message sent) : Encodes message sent := by
  cases published with
  | mosquitto lawful token succeed handedOver =>
      rw [Mosquitto.Publish.publish_async_packets lawful succeed,
        List.mem_singleton] at handedOver
      rw [handedOver]
      exact mosquitto_encodes wellformed
  | @paho library lawful token succeed packet handedOver =>
      rw [Paho.Publish.publish_async_packets lawful succeed,
        List.mem_singleton] at handedOver
      rw [handedOver]
      exact paho_encodes wellformed library

/-- What a broker does to a PUBLISH. QoS and retain flag are not restricted. -/
structure Forwarded (sent arrived : WirePublish) : Prop where
  topic : arrived.topic = sent.topic
  payload : arrived.payload = sent.payload
  properties : ∃ added, (∀ property ∈ added, ∃ code, property = .other code) ∧
    arrived.properties.Perm (sent.properties ++ added)
  userPairs : userPairs arrived.properties = userPairs sent.properties

/-- The properties of a message, seen kind by kind. -/
structure Carries (message : IMqttMessage) (properties : List Property) : Prop where
  single : ∀ identifier ∈ singleIdentifiers,
    occurrences identifier properties = occurrences identifier (options message)
  userPairs : userPairs properties = message.userProps.toList

theorem not_user_property {identifier : Identifier}
    (single : identifier ∈ singleIdentifiers) : identifier ≠ .userProperty := by
  intro same
  rw [same] at single
  exact absurd single (by decide)

theorem occurrences_carried {identifier : Identifier}
    (single : identifier ∈ singleIdentifiers) (message : IMqttMessage)
    (others : List Property) :
    occurrences identifier (carried message others) = occurrences identifier others := by
  have skipped : occurrences identifier
      (message.userProps.toList.map fun prop => .userProperty prop.1 prop.2) = [] := by
    rw [occurrences, List.filter_eq_nil_iff]
    intro property member
    rcases List.mem_map.mp member with ⟨prop, -, rfl⟩
    simpa [Property.identifier] using (not_user_property single).symm
  rw [carried, occurrences_append, skipped, List.nil_append]

theorem occurrences_of_others {identifier : Identifier}
    (single : identifier ∈ singleIdentifiers) {added : List Property}
    (others : ∀ property ∈ added, ∃ code, property = .other code) :
    occurrences identifier added = [] := by
  rw [occurrences, List.filter_eq_nil_iff]
  intro property member
  rcases others property member with ⟨code, rfl⟩
  simp only [singleIdentifiers, List.mem_cons, List.not_mem_nil, or_false] at single
  rcases single with rfl | rfl | rfl | rfl <;> simp [Property.identifier]

/-- Each optional field is one property. -/
theorem one_option {identifier : Identifier} (single : identifier ∈ singleIdentifiers)
    (message : IMqttMessage) :
    ∃ property, occurrences identifier (options message) = [property] := by
  simp only [singleIdentifiers, List.mem_cons, List.not_mem_nil, or_false] at single
  rcases single with rfl | rfl | rfl | rfl <;> exact ⟨_, rfl⟩

theorem carries_forwarded {message : IMqttMessage} {sent arrived : WirePublish}
    (encodes : Encodes message sent) (forwarded : Forwarded sent arrived) :
    Carries message arrived.properties := by
  constructor
  · intro identifier single
    rcases forwarded.properties with ⟨added, others, reordered⟩
    have sorted := (reordered.trans (encodes.properties.append_right added)).filter
      fun property => property.identifier == identifier
    change (occurrences identifier arrived.properties).Perm (occurrences identifier _) at sorted
    rw [occurrences_append, occurrences_carried single, occurrences_of_others single others,
      List.append_nil] at sorted
    rcases one_option single message with ⟨property, alone⟩
    rw [alone] at sorted ⊢
    exact List.perm_singleton.mp sorted
  · rw [forwarded.userPairs, encodes.userPairs]

theorem first_of_carries {message : IMqttMessage} {properties : List Property}
    (carries : Carries message properties) {identifier : Identifier}
    (single : identifier ∈ singleIdentifiers) :
    first identifier properties = first identifier (options message) := by
  have same := congrArg List.head? (carries.single identifier single)
  rw [occurrences, occurrences, List.head?_filter, List.head?_filter] at same
  exact same

theorem at_most_once_of_carries {message : IMqttMessage} {properties : List Property}
    (carries : Carries message properties) : Paho.ReceiveOrder.AtMostOnce properties := by
  intro identifier single
  rcases one_option single message with ⟨property, alone⟩
  rw [carries.single identifier single, alone]
  exact Nat.le_refl 1

/-- The message with what the broker and the receiving library decide. -/
def expected (message : IMqttMessage) (arrived : WirePublish) (messageId : Int) :
    IMqttMessage :=
  { message with qos := ⟨arrived.qos⟩, retain := arrived.retain, messageId := messageId }

/-- What the Mosquitto client makes of it: the content type comes in the place of
the response topic. -/
def mosquittoContent (message : IMqttMessage) (arrived : WirePublish) (messageId : Int) :
    IMqttMessage :=
  { expected message arrived messageId with
    responseTopic := message.payloadContentType
    payloadContentType := [] }

/-- What the Paho client makes of it: a topic that comes without its length is
lost. -/
def pahoContent (message : IMqttMessage) (arrived : WirePublish) (topicLen messageId : Int) :
    IMqttMessage :=
  { expected message arrived messageId with
    topic := if topicLen = 0 then [] else message.topic }

/-- `struct mosquitto_message` for the PUBLISH; the topic is a C string. -/
structure MosquittoReceives (arrived : WirePublish) (pMsg : Mosquitto.MosquittoMessage) :
    Prop where
  topic : cStr pMsg.topic = arrived.topic
  payload : pMsg.payload = arrived.payload ∧ pMsg.payloadlen = arrived.payload.length
  qos : pMsg.qos = arrived.qos
  retain : pMsg.retain = arrived.retain

/-- The arguments of `MQTTAsync_messageArrived` for the PUBLISH. The topic comes
with its length, or, where it has no NUL, as a C string with the length 0. -/
structure PahoReceives (arrived : WirePublish) (pTopic : List UInt8) (topicLen : Int)
    (msg : Paho.MQTTAsyncMessage) : Prop where
  topic : (topicLen = arrived.topic.length ∧ ∃ behind, pTopic = arrived.topic ++ behind) ∨
    (topicLen = 0 ∧ 0 ∉ arrived.topic ∧ ∃ behind, pTopic = arrived.topic ++ 0 :: behind)
  payload : msg.payload = arrived.payload ∧ msg.payloadlen = arrived.payload.length
  qos : msg.qos = arrived.qos
  retained : msg.retained = if arrived.retain then 1 else 0
  properties : msg.properties.map Paho.MQTTProperty.property = arrived.properties

/-- `string(pTopic, topicLen)`. -/
theorem taken_topic {arrived : WirePublish} {pTopic : List UInt8} {topicLen : Int}
    {msg : Paho.MQTTAsyncMessage} (receives : PahoReceives arrived pTopic topicLen msg) :
    pTopic.take topicLen.toNat = if topicLen = 0 then [] else arrived.topic := by
  by_cases unmeasured : topicLen = 0
  · rw [if_pos unmeasured, unmeasured, Int.toNat_zero, List.take_zero]
  · rw [if_neg unmeasured]
    rcases receives.topic with ⟨measured, behind, bytes⟩ | ⟨zero, -⟩
    · rw [measured, bytes, Int.toNat_natCast, List.take_left]
    · exact absurd zero unmeasured

section Arrived

variable {message : IMqttMessage} {sent arrived : WirePublish}
  (encodes : Encodes message sent) (forwarded : Forwarded sent arrived)

include encodes forwarded

theorem mosquitto_reads (wellformed : Wellformed message) {library : Mosquitto.Library}
    (lawful : library.Lawful) {pMsg : Mosquitto.MosquittoMessage}
    (receives : MosquittoReceives arrived pMsg) {fuel : Nat}
    (enough : arrived.properties.length < fuel) :
    ∃ run, Mosquitto.Receive.onMessageCb library fuel pMsg arrived.properties = some run ∧
      run.mqttMessage = mosquittoContent message arrived pMsg.mid := by
  have carries := carries_forwarded encodes forwarded
  have transportable := wellformed.transportable
  rcases Mosquitto.Receive.on_message_cb_decodes lawful pMsg arrived.properties enough with
    ⟨run, finished, delivered⟩
  refine ⟨run, finished, ?_⟩
  have pairs : receivedPairs arrived.properties = message.userProps.toList := by
    have plain : UserProps.PlainPairs arrived.properties := by
      intro pair member
      rw [carries.userPairs] at member
      exact transportable.userProps pair member
    rw [UserProps.received_pairs_plain plain, carries.userPairs]
  have topic : cStr pMsg.topic = message.topic :=
    receives.topic.trans (forwarded.topic.trans encodes.topic)
  have payload : pMsg.payload.take pMsg.payloadlen.toNat = message.payload := by
    rw [receives.payload.1, receives.payload.2, Int.toNat_natCast, List.take_length,
      forwarded.payload, encodes.payload]
  have correlationData : (first .correlationData arrived.properties).bind Property.binary? =
      some message.correlationDataProps := by
    rw [first_of_carries carries (by decide)]
    rfl
  have contentType : (first .contentType arrived.properties).bind Property.string? =
      some message.payloadContentType := by
    rw [first_of_carries carries (by decide)]
    rfl
  have formatIndicator : (first .payloadFormatIndicator arrived.properties).bind
      Property.byte? = some (if message.payloadFormatIndicator = .utf8 then 1 else 0) := by
    rw [first_of_carries carries (by decide)]
    rfl
  have format : (if (if message.payloadFormatIndicator = .utf8 then (1 : UInt8) else 0) = 1
      then FormatIndicator.utf8 else .unspecified) = message.payloadFormatIndicator := by
    cases message.payloadFormatIndicator <;> rfl
  rw [delivered]
  simp only [Mosquitto.Receive.decoded, Mosquitto.Receive.withUserProps,
    Mosquitto.Receive.startMessage, create, mosquittoContent, expected, pairs, topic, payload, receives.qos,
    receives.retain, correlationData, contentType, formatIndicator, Option.elim_some,
    Option.getD_some, format, take_uint16_length transportable.correlationDataProps,
    c_str_of_no_nul transportable.payloadContentType, FirstWins.insert_all_to_list]

theorem paho_reads {pTopic : List UInt8} {topicLen : Int} {msg : Paho.MQTTAsyncMessage}
    (receives : PahoReceives arrived pTopic topicLen msg) :
    (Paho.Receive.onMessageCb pTopic topicLen msg).handed =
      pahoContent message arrived topicLen msg.msgid := by
  have carries := carries_forwarded encodes forwarded
  have once : Paho.ReceiveOrder.AtMostOnce (msg.properties.map Paho.MQTTProperty.property) := by
    rw [receives.properties]
    exact at_most_once_of_carries carries
  have decoded := Paho.ReceiveOrder.decoded pTopic topicLen once
  rw [receives.properties] at decoded
  apply Paho.ReceiveOrder.message_ext
  · have describes : Paho.MessageArrived.Describes
        ⟨arrived.topic, arrived.payload, ⟨arrived.qos⟩, arrived.retain, msg.msgid,
          msg.properties⟩ pTopic topicLen msg :=
      ⟨receives.topic, receives.payload, receives.qos, receives.retained, rfl, rfl⟩
    rw [Paho.MessageArrived.described_arguments describes, taken_topic receives]
    simp only [Paho.ReceiveOrder.arguments, pahoContent, expected, forwarded.topic,
      encodes.topic, forwarded.payload, encodes.payload]
  · rw [UserProps.paho_user_props pTopic topicLen receives.properties, carries.userPairs,
      FirstWins.insert_all_to_list]
    rfl
  · rw [decoded.correlationDataProps, first_of_carries carries (by decide)]
    rfl
  · rw [decoded.responseTopic, first_of_carries carries (by decide)]
    rfl
  · rw [decoded.payloadFormatIndicator, first_of_carries carries (by decide)]
    cases utf8 : message.payloadFormatIndicator <;> simp [pahoContent, expected, options, utf8, first,
      Property.identifier, Property.byte?]
  · rw [decoded.payloadContentType, first_of_carries carries (by decide)]
    rfl

end Arrived

/-- Whichever client publishes and whichever receives, the message arrives with
every field but the two that the Mosquitto client mixes up and the topic that
the Paho client loses where the library leaves its length to the NUL. -/
theorem every_client_reads_every_client {message : IMqttMessage}
    (wellformed : Wellformed message) {sent arrived : WirePublish}
    (published : Published message sent) (forwarded : Forwarded sent arrived) :
    (∀ (library : Mosquitto.Library) (pMsg : Mosquitto.MosquittoMessage) (fuel : Nat),
      library.Lawful → MosquittoReceives arrived pMsg → arrived.properties.length < fuel →
      ∃ run, Mosquitto.Receive.onMessageCb library fuel pMsg arrived.properties = some run ∧
        run.mqttMessage = mosquittoContent message arrived pMsg.mid) ∧
    ∀ (pTopic : List UInt8) (topicLen : Int) (msg : Paho.MQTTAsyncMessage),
      PahoReceives arrived pTopic topicLen msg →
      (Paho.Receive.onMessageCb pTopic topicLen msg).handed =
        pahoContent message arrived topicLen msg.msgid := by
  have encodes := published_encodes wellformed published
  constructor
  · intro library pMsg fuel lawful receives enough
    exact mosquitto_reads encodes forwarded wellformed lawful receives enough
  · intro pTopic topicLen msg receives
    exact paho_reads encodes forwarded receives

/-- `full` as the Paho client publishes it. -/
def fullSent : WirePublish :=
  ofPaho (Paho.Publish.sendCall Paho.willing full
    ((Paho.Publish.wireProperties full).map Paho.MQTTProperty.copy))

/-- The broker has lowered the QoS, moved the content type to the front and added
a subscription identifier. -/
def fullArrived : WirePublish where
  topic := text "t"
  payload := [1, 0, 2]
  qos := 0
  retain := false
  properties := [.contentType (text "json"), .userProperty (text "a") (text "x"), .other 11,
    .responseTopic (text "r"), .userProperty (text "b") [], .correlationData [0, 9],
    .payloadFormatIndicator 1]

def fullPahoProperties : List Paho.MQTTProperty :=
  [.contentType ⟨text "json", 4⟩, .userProperty ⟨text "a=x", 1⟩ ⟨text "x", 1⟩, .other 11,
    .responseTopic ⟨text "r", 1⟩, .userProperty ⟨text "b", 1⟩ ⟨[], 0⟩,
    .correlationData ⟨[0, 9], 2⟩, .payloadFormatIndicator 1]

theorem full_wellformed : Wellformed full := by
  have transportable : Transportable full := by
    constructor <;> decide
  constructor
  · exact transportable
  all_goals decide

theorem full_published : Published full fullSent := by
  apply Published.paho Paho.willing_lawful (some 0) (by decide)
  rw [Paho.Publish.publish_async_packets Paho.willing_lawful (by decide)]
  exact List.mem_singleton_self _

theorem full_forwarded : Forwarded fullSent fullArrived := by
  constructor
  · rfl
  · rfl
  · exact ⟨[.other 11], by simp, by decide⟩
  · decide

theorem full_mosquitto_receives :
    MosquittoReceives fullArrived ⟨5, [116, 0], [1, 0, 2], 3, 0, false⟩ := by
  constructor <;> decide

def fullMsg : Paho.MQTTAsyncMessage := ⟨[1, 0, 2], 3, 0, 0, 7, fullPahoProperties⟩

theorem full_paho_receives : PahoReceives fullArrived (text "t") 1 fullMsg := by
  constructor
  · exact .inl ⟨rfl, [], rfl⟩
  all_goals decide

theorem full_paho_receives_c_string : PahoReceives fullArrived [116, 0] 0 fullMsg := by
  constructor
  · exact .inr ⟨rfl, by decide, [], rfl⟩
  all_goals decide

theorem full_message_read_by_both :
    (∃ run, Mosquitto.Receive.onMessageCb Mosquitto.willing 8
        ⟨5, [116, 0], [1, 0, 2], 3, 0, false⟩ fullArrived.properties = some run ∧
      run.mqttMessage =
        { expected full fullArrived 5 with
          responseTopic := text "json"
          payloadContentType := [] }) ∧
    (Paho.Receive.onMessageCb (text "t") 1 fullMsg).handed = expected full fullArrived 7 ∧
    (Paho.Receive.onMessageCb [116, 0] 0 fullMsg).handed =
      { expected full fullArrived 7 with topic := [] } := by
  rcases every_client_reads_every_client full_wellformed full_published full_forwarded with
    ⟨mosquitto, paho⟩
  refine ⟨?_, ?_, ?_⟩
  · exact mosquitto _ _ _ Mosquitto.willing_lawful full_mosquitto_receives (by decide)
  · exact paho _ _ _ full_paho_receives
  · exact paho _ _ _ full_paho_receives_c_string

end IMqtt.Exchange.AnyClients
