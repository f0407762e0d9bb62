import IMqtt.Library.Custody
import IMqtt.Paho.ReceiveOrder

/-!
# The messageArrived callback

The library hands over a message and a topic, and the callback owns both from
then on. The topic comes with its length, or, when it has no NUL in it, as a C
string with length 0.
-/

namespace IMqtt.Paho.MessageArrived

open IMqtt.Defines IMqtt.Message IMqtt.Paho.Receive Custody

set_option autoImplicit false

inductive Buffer
  | message | topic
  deriving DecidableEq, Repr

/-- What happens before the buffers are freed. -/
inductive Use
  | read (buffer : Buffer)
  | handed (mqttMessage : IMqttMessage)
  | handlerReturned

abbrev Trace := List (Event Use Buffer)

/-- `onMessageCb` as the library sees it. -/
def messageArrived (pTopic : List UInt8) (topicLen : Int) (msg : MQTTAsyncMessage) : Trace :=
  let received := onMessageCb pTopic topicLen msg
  [.used (.read .topic), .used (.read .message), .used (.handed received.handed),
      .used .handlerReturned] ++
    if received.freed then [.released .message, .released .topic] else []

/-- A PUBLISH as the broker has sent it. -/
structure Packet where
  topic : Str
  payload : List UInt8
  qos : QOS
  retain : Bool
  msgid : Int
  properties : List MQTTProperty
  deriving DecidableEq, Repr

/-- The arguments of the callback describe the packet. -/
structure Describes (packet : Packet) (pTopic : List UInt8) (topicLen : Int)
    (msg : MQTTAsyncMessage) : Prop where
  topic : (topicLen = packet.topic.length ∧ ∃ behind, pTopic = packet.topic ++ behind) ∨
    (topicLen = 0 ∧ 0 ∉ packet.topic ∧ ∃ behind, pTopic = packet.topic ++ 0 :: behind)
  payload : msg.payload = packet.payload ∧ msg.payloadlen = packet.payload.length
  qos : msg.qos = packet.qos.toInt
  retained : msg.retained = if packet.retain then 1 else 0
  msgid : msg.msgid = packet.msgid
  properties : msg.properties = packet.properties

def Use.message? : Use → Option IMqttMessage
  | .handed mqttMessage => some mqttMessage
  | _ => none

def handedMessages (trace : Trace) : List IMqttMessage := (uses trace).filterMap Use.message?

/-- One message with the packet's content, and both buffers freed once the
handler has returned. -/
structure Delivers (packet : Packet) (trace : Trace) : Prop where
  handed : ∃ mqttMessage, handedMessages trace = [mqttMessage] ∧
    mqttMessage.topic = packet.topic ∧ mqttMessage.payload = packet.payload ∧
    mqttMessage.qos = packet.qos ∧ mqttMessage.retain = packet.retain ∧
    mqttMessage.messageId = packet.msgid
  returned : ∃ before, uses trace = before ++ [.handlerReturned]
  released : ReleasedOnce [.message, .topic] trace

theorem message_arrived_trace (pTopic : List UInt8) (topicLen : Int)
    (msg : MQTTAsyncMessage) :
    messageArrived pTopic topicLen msg =
      [.read .topic, .read .message, .handed (onMessageCb pTopic topicLen msg).handed,
        .handlerReturned].map .used ++ [.message, .topic].map .released := rfl

theorem message_arrived_uses (pTopic : List UInt8) (topicLen : Int)
    (msg : MQTTAsyncMessage) :
    uses (messageArrived pTopic topicLen msg) =
      [.read .topic, .read .message, .handed (onMessageCb pTopic topicLen msg).handed,
        .handlerReturned] := by
  rw [message_arrived_trace, uses_append, uses_of_used, uses_of_released, List.append_nil]

theorem handed_message (pTopic : List UInt8) (topicLen : Int) (msg : MQTTAsyncMessage) :
    handedMessages (messageArrived pTopic topicLen msg) =
      [(onMessageCb pTopic topicLen msg).handed] := by
  rw [handedMessages, message_arrived_uses]
  rfl

section Described

variable {packet : Packet} {pTopic : List UInt8} {topicLen : Int} {msg : MQTTAsyncMessage}

theorem described_arguments (describes : Describes packet pTopic topicLen msg) :
    ReceiveOrder.arguments (onMessageCb pTopic topicLen msg).handed =
      (pTopic.take topicLen.toNat, packet.payload, packet.qos, packet.retain,
        packet.msgid) := by
  have retained : decide (msg.retained ≠ 0) = packet.retain := by
    rw [describes.retained]
    cases packet.retain <;> rfl
  have payload : msg.payload.take msg.payloadlen.toNat = packet.payload := by
    rw [describes.payload.1, describes.payload.2, Int.toNat_natCast, List.take_length]
  have started := ReceiveOrder.received_arguments msg.properties
    ⟨startMessage pTopic topicLen msg, [⟨.trace, text "Paho received message"⟩]⟩
  rw [onMessageCb]
  rw [started]
  simp only [ReceiveOrder.arguments, startMessage, create, retained, payload, describes.qos,
    describes.msgid]

theorem whole_topic_iff (describes : Describes packet pTopic topicLen msg) :
    pTopic.take topicLen.toNat = packet.topic ↔ topicLen = packet.topic.length := by
  rcases describes.topic with ⟨measured, behind, bytes⟩ | ⟨unmeasured, -, behind, bytes⟩
  · rw [measured, bytes, Int.toNat_natCast, List.take_left]
    simp
  · rw [unmeasured, Int.toNat_zero, List.take_zero]
    cases packet.topic with
    | nil => simp
    | cons byte rest =>
        constructor
        · intro same
          cases same
        · intro same
          rw [List.length_cons] at same
          omega

/-- The C string form of a topic loses the topic. -/
theorem delivers_iff_measured (describes : Describes packet pTopic topicLen msg) :
    Delivers packet (messageArrived pTopic topicLen msg) ↔
      topicLen = packet.topic.length := by
  have received := described_arguments describes
  simp only [ReceiveOrder.arguments, Prod.mk.injEq] at received
  rcases received with ⟨topic, payload, qos, retain, messageId⟩
  rw [← whole_topic_iff describes]
  constructor
  · intro delivers
    rcases delivers.handed with ⟨mqttMessage, handed, same, -⟩
    rw [handed_message] at handed
    rw [← topic, (List.cons.inj handed).1]
    exact same
  · intro whole
    constructor
    · exact ⟨_, handed_message pTopic topicLen msg, topic.trans whole, payload, qos, retain,
        messageId⟩
    · exact ⟨[.read .topic, .read .message, .handed (onMessageCb pTopic topicLen msg).handed],
        message_arrived_uses pTopic topicLen msg⟩
    · rw [message_arrived_trace]
      exact released_once_behind_uses _ _

end Described

def short : Packet := ⟨text "t", [1, 0], ⟨1⟩, true, 7, [.payloadFormatIndicator 1]⟩

def shortMsg : MQTTAsyncMessage := ⟨[1, 0], 2, 1, 1, 7, [.payloadFormatIndicator 1]⟩

theorem measured_topic_is_delivered :
    Delivers short (messageArrived (text "t") 1 shortMsg) ↔ (1 : Int) = short.topic.length := by
  apply delivers_iff_measured
  constructor
  · exact .inl ⟨rfl, [], rfl⟩
  all_goals decide

/-- The same packet with its topic as a C string. -/
theorem topic_as_c_string_arrives_empty :
    Describes short [116, 0] 0 shortMsg ∧
      (onMessageCb [116, 0] 0 shortMsg).handed.topic = [] ∧
      ¬ Delivers short (messageArrived [116, 0] 0 shortMsg) := by
  have describes : Describes short [116, 0] 0 shortMsg := by
    constructor
    · exact .inr ⟨rfl, by decide, [], rfl⟩
    all_goals decide
  refine ⟨describes, rfl, ?_⟩
  intro delivers
  rcases delivers.handed with ⟨mqttMessage, handed, same, -⟩
  rw [handed_message] at handed
  rw [← (List.cons.inj handed).1] at same
  exact absurd same (by decide)

end IMqtt.Paho.MessageArrived
