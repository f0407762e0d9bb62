import IMqtt.Library.FieldFold
import IMqtt.Paho.Receive

/-!
# The order of the received properties

Each kind of property has its own field of the message, so one pass over the
array decodes the kinds independently of each other. Among user properties only
the order of those with the same key counts.
-/

namespace IMqtt.Paho.ReceiveOrder

open IMqtt.Defines IMqtt.Message IMqtt.Paho.Receive FieldFold

set_option autoImplicit false

def AtMostOnce (properties : List Property) : Prop :=
  ∀ identifier ∈ singleIdentifiers, (occurrences identifier properties).length ≤ 1

/-- Each field has the value of its property or the default. -/
structure Decoded (properties : List Property) (message : IMqttMessage) : Prop where
  correlationDataProps : message.correlationDataProps =
    ((first .correlationData properties).bind Property.binary?).getD []
  responseTopic : message.responseTopic =
    ((first .responseTopic properties).bind Property.string?).getD []
  payloadContentType : message.payloadContentType =
    ((first .contentType properties).bind Property.string?).getD []
  payloadFormatIndicator : message.payloadFormatIndicator =
    if (first .payloadFormatIndicator properties).bind Property.byte? = some 1 then .utf8
    else .unspecified
  userProps : ∀ key : Str, message.userProps[key]? =
    ((userPairs properties).find? fun pair => pair.1 == key).map (·.2)

/-- User properties with the same key come in the same order. -/
def SameOrderPerKey (properties others : List Property) : Prop :=
  ∀ key, (userPairs properties).filter (fun pair => pair.1 == key) =
    (userPairs others).filter fun pair => pair.1 == key

def ofKind (identifier : Identifier) (prop : MQTTProperty) : Bool :=
  prop.property.identifier == identifier

def overwrite {Value : Type} (value : Property → Option Value) (old : Value)
    (prop : MQTTProperty) : Value :=
  (value prop.property).getD old

/-- A format indicator is taken over when it is 1. -/
def utf8? (property : Property) : Option FormatIndicator :=
  property.byte?.bind fun byte => if byte = 1 then some .utf8 else none

def assigned {Value : Type} (identifier : Identifier) (value : Property → Option Value)
    (old : Value) (prop : MQTTProperty) : Value :=
  if ofKind identifier prop then overwrite value old prop else old

/-- What one round of the loop does to each field. -/
theorem receive_property_message (run : Receiving) (prop : MQTTProperty) :
    (receiveProperty run prop).internalMessage =
      { run.internalMessage with
        userProps := FirstWins.insertAll run.internalMessage.userProps
          (userPairs [prop.property])
        correlationDataProps := assigned .correlationData Property.binary?
          run.internalMessage.correlationDataProps prop
        responseTopic := assigned .responseTopic Property.string?
          run.internalMessage.responseTopic prop
        payloadContentType := assigned .contentType Property.string?
          run.internalMessage.payloadContentType prop
        payloadFormatIndicator := assigned .payloadFormatIndicator utf8?
          run.internalMessage.payloadFormatIndicator prop } := by
  cases prop with
  | payloadFormatIndicator byte =>
      by_cases utf8 : byte = 1
      · rw [utf8]
        rfl
      · have ignored : utf8? (.payloadFormatIndicator byte) = none := if_neg utf8
        have kept : assigned .payloadFormatIndicator utf8?
            run.internalMessage.payloadFormatIndicator (.payloadFormatIndicator byte) =
              run.internalMessage.payloadFormatIndicator := by
          simp only [assigned, overwrite, MQTTProperty.property, ignored, Option.getD_none,
            ite_self]
        rw [kept, receiveProperty, if_neg utf8]
        rfl
  | _ => rfl

/-! Each kind governs its field. -/

theorem correlation_data_governed :
    Governed receiveProperty (fun run => run.internalMessage.correlationDataProps)
      (ofKind .correlationData) (overwrite Property.binary?) := fun run prop =>
  congrArg IMqttMessage.correlationDataProps (receive_property_message run prop)

theorem response_topic_governed :
    Governed receiveProperty (fun run => run.internalMessage.responseTopic)
      (ofKind .responseTopic) (overwrite Property.string?) := fun run prop =>
  congrArg IMqttMessage.responseTopic (receive_property_message run prop)

theorem content_type_governed :
    Governed receiveProperty (fun run => run.internalMessage.payloadContentType)
      (ofKind .contentType) (overwrite Property.string?) := fun run prop =>
  congrArg IMqttMessage.payloadContentType (receive_property_message run prop)

theorem format_indicator_governed :
    Governed receiveProperty (fun run => run.internalMessage.payloadFormatIndicator)
      (ofKind .payloadFormatIndicator) (overwrite utf8?) := fun run prop =>
  congrArg IMqttMessage.payloadFormatIndicator (receive_property_message run prop)

/-- The fields that come from the arguments of the callback. -/
def arguments (message : IMqttMessage) : Str × List UInt8 × QOS × Bool × Int :=
  (message.topic, message.payload, message.qos, message.retain, message.messageId)

theorem arguments_governed :
    Governed receiveProperty (fun run => arguments run.internalMessage) (fun _ => false)
      (fun old _ => old) := by
  intro run prop
  have kept : arguments (receiveProperty run prop).internalMessage =
      arguments run.internalMessage := by
    rw [receive_property_message]
    rfl
  exact kept

theorem received_arguments (properties : List MQTTProperty) (run : Receiving) :
    arguments (receiveProperties properties run).internalMessage =
      arguments run.internalMessage := by
  have folded := field_foldl arguments_governed properties run
  rw [List.filter_false, List.foldl_nil] at folded
  exact folded

theorem first_of_array (identifier : Identifier) (properties : List MQTTProperty) :
    first identifier (properties.map MQTTProperty.property) =
      (properties.find? (ofKind identifier)).map MQTTProperty.property := by
  rw [first, List.find?_map]
  rfl

section Fields

variable {Value : Type} {field : Receiving → Value} {identifier : Identifier}
  {value : Property → Option Value} {properties : List MQTTProperty}

theorem filter_of_at_most_once (once : AtMostOnce (properties.map MQTTProperty.property))
    (single : identifier ∈ singleIdentifiers) :
    (properties.filter (ofKind identifier)).length ≤ 1 := by
  have occurring := once identifier single
  rw [occurrences, List.filter_map, List.length_map] at occurring
  exact occurring

/-- The value of the property, or the field as it was. -/
theorem overwritten_field
    (governed : Governed receiveProperty field (ofKind identifier) (overwrite value))
    (once : AtMostOnce (properties.map MQTTProperty.property))
    (single : identifier ∈ singleIdentifiers) (run : Receiving) :
    field (receiveProperties properties run) =
      ((first identifier (properties.map MQTTProperty.property)).bind value).getD
        (field run) := by
  rw [receiveProperties, field_of_at_most_one governed (filter_of_at_most_once once single),
    first_of_array]
  cases properties.find? (ofKind identifier) <;> rfl

end Fields

theorem get_received_user_props (properties : List MQTTProperty) {run : Receiving}
    (fresh : run.internalMessage.userProps = ∅) (key : Str) :
    (receiveProperties properties run).internalMessage.userProps[key]? =
      ((userPairs (properties.map MQTTProperty.property)).find? fun pair =>
        pair.1 == key).map (·.2) := by
  rw [received_user_props, fresh, FirstWins.get_insert_all, Std.ExtTreeMap.getElem?_empty,
    FirstWins.first_value_eq_find]
  rfl

theorem bind_utf8_getD (property : Option Property) :
    (property.bind utf8?).getD .unspecified =
      if property.bind Property.byte? = some 1 then .utf8 else .unspecified := by
  cases property with
  | none => rfl
  | some property =>
      cases property with
      | payloadFormatIndicator byte =>
          by_cases utf8 : byte = 1
          · rw [utf8]
            rfl
          · simp [utf8?, Property.byte?, utf8]
      | _ => rfl

theorem decoded (pTopic : List UInt8) (topicLen : Int) {msg : MQTTAsyncMessage}
    (once : AtMostOnce (msg.properties.map MQTTProperty.property)) :
    Decoded (msg.properties.map MQTTProperty.property)
      (onMessageCb pTopic topicLen msg).handed := by
  constructor
  · exact overwritten_field correlation_data_governed once (by decide) _
  · exact overwritten_field response_topic_governed once (by decide) _
  · exact overwritten_field content_type_governed once (by decide) _
  · rw [← bind_utf8_getD]
    exact overwritten_field format_indicator_governed once (by decide) _
  · exact get_received_user_props msg.properties rfl

theorem message_ext {left right : IMqttMessage} (same : arguments left = arguments right)
    (userProps : left.userProps = right.userProps)
    (correlationDataProps : left.correlationDataProps = right.correlationDataProps)
    (responseTopic : left.responseTopic = right.responseTopic)
    (payloadFormatIndicator : left.payloadFormatIndicator = right.payloadFormatIndicator)
    (payloadContentType : left.payloadContentType = right.payloadContentType) :
    left = right := by
  cases left
  cases right
  simp_all [arguments]

theorem reordered_user_props {properties others : List MQTTProperty}
    (ordered : SameOrderPerKey (properties.map MQTTProperty.property)
      (others.map MQTTProperty.property))
    {run : Receiving} (fresh : run.internalMessage.userProps = ∅) :
    (receiveProperties others run).internalMessage.userProps =
      (receiveProperties properties run).internalMessage.userProps := by
  apply Std.ExtTreeMap.ext_getElem?
  intro key
  rw [get_received_user_props others fresh, get_received_user_props properties fresh,
    ← List.head?_filter, ← List.head?_filter, ordered key]

theorem reordered_message {properties others : List MQTTProperty}
    (once : AtMostOnce (properties.map MQTTProperty.property))
    (reordered : properties.Perm others)
    (ordered : SameOrderPerKey (properties.map MQTTProperty.property)
      (others.map MQTTProperty.property))
    {run : Receiving} (fresh : run.internalMessage.userProps = ∅) :
    (receiveProperties others run).internalMessage =
      (receiveProperties properties run).internalMessage := by
  have single : ∀ identifier ∈ singleIdentifiers,
      (properties.filter (ofKind identifier)).length ≤ 1 := fun identifier listed =>
    filter_of_at_most_once once listed
  apply message_ext
  · have untouched : (properties.filter fun _ => false).length ≤ 1 := by simp
    exact field_of_reordered arguments_governed untouched reordered run
  · exact reordered_user_props ordered fresh
  · exact field_of_reordered correlation_data_governed (single _ (by decide)) reordered run
  · exact field_of_reordered response_topic_governed (single _ (by decide)) reordered run
  · exact field_of_reordered format_indicator_governed (single _ (by decide)) reordered run
  · exact field_of_reordered content_type_governed (single _ (by decide)) reordered run

theorem decodes_in_any_order (pTopic : List UInt8) (topicLen : Int) (msg : MQTTAsyncMessage)
    (once : AtMostOnce (msg.properties.map MQTTProperty.property)) :
    Decoded (msg.properties.map MQTTProperty.property)
      (onMessageCb pTopic topicLen msg).handed ∧
    ∀ others, msg.properties.Perm others →
      SameOrderPerKey (msg.properties.map MQTTProperty.property)
        (others.map MQTTProperty.property) →
      (onMessageCb pTopic topicLen { msg with properties := others }).handed =
        (onMessageCb pTopic topicLen msg).handed := by
  constructor
  · exact decoded pTopic topicLen once
  · intro others reordered ordered
    exact reordered_message once reordered ordered rfl

/-- A repeated key, and each other kind once. -/
def mixed : MQTTAsyncMessage where
  payload := []
  payloadlen := 0
  qos := 0
  retained := 0
  msgid := 1
  properties := [.userProperty ⟨text "k", 1⟩ ⟨text "v", 1⟩, .contentType ⟨text "c", 1⟩,
    .other 2, .payloadFormatIndicator 1, .userProperty ⟨text "k", 1⟩ ⟨text "w", 1⟩,
    .correlationData ⟨[0, 9], 2⟩, .responseTopic ⟨text "r", 1⟩]

theorem mixed_decodes_in_any_order :
    Decoded (mixed.properties.map MQTTProperty.property)
      (onMessageCb (text "t") 1 mixed).handed ∧
    ∀ others, mixed.properties.Perm others →
      SameOrderPerKey (mixed.properties.map MQTTProperty.property)
        (others.map MQTTProperty.property) →
      (onMessageCb (text "t") 1 { mixed with properties := others }).handed =
        (onMessageCb (text "t") 1 mixed).handed :=
  decodes_in_any_order (text "t") 1 mixed (by unfold AtMostOnce; decide)

end IMqtt.Paho.ReceiveOrder
