import IMqtt.Mosquitto.Receive
import IMqtt.Paho.Receive

/-!
# Both back ends read the same user properties

One back end walks a linked list and re-enters it behind the last match, the
other scans an array. Both insert the user properties in the order of the list,
so the first occurrence of a key decides.
-/

namespace IMqtt.Exchange.UserProps

open IMqtt.Defines IMqtt.Message IMqtt.Mosquitto.Receive

set_option autoImplicit false

/-- The user properties of the list have no U+0000. -/
def PlainPairs (properties : List Property) : Prop :=
  ∀ pair ∈ userPairs properties, 0 ∉ pair.1 ∧ 0 ∉ pair.2

theorem received_pairs_plain {properties : List Property} (plain : PlainPairs properties) :
    receivedPairs properties = userPairs properties := by
  rw [receivedPairs]
  conv_rhs => rw [← List.map_id (userPairs properties)]
  apply List.map_congr_left
  intro pair member
  have clean := plain pair member
  simp [c_str_of_no_nul clean.1, c_str_of_no_nul clean.2]

/-- The four reads behind the loop leave the map alone, whatever they find. -/
theorem later_reads_keep_user_props (library : Mosquitto.Library) (pProps : List Property)
    (run : Receiving) :
    (readFormatIndicator library pProps
      (readContentType library pProps
        (readResponseTopic library pProps
          (readCorrelationData library pProps run)))).mqttMessage.userProps =
      run.mqttMessage.userProps := by
  have correlated : (readCorrelationData library pProps run).mqttMessage.userProps =
      run.mqttMessage.userProps := by
    simp only [readCorrelationData]
    split <;> rfl
  have answered : ∀ run : Receiving,
      (readResponseTopic library pProps run).mqttMessage.userProps =
        run.mqttMessage.userProps := by
    intro run
    simp only [readResponseTopic]
    split <;> rfl
  have typed : ∀ run : Receiving,
      (readContentType library pProps run).mqttMessage.userProps =
        run.mqttMessage.userProps := by
    intro run
    simp only [readContentType]
    split <;> rfl
  have formatted : ∀ run : Receiving,
      (readFormatIndicator library pProps run).mqttMessage.userProps =
        run.mqttMessage.userProps := fun _ => rfl
  rw [formatted, typed, answered, correlated]

theorem mosquitto_user_props {library : Mosquitto.Library} (reads : ReadsStringPairs library)
    (pMsg : Mosquitto.MosquittoMessage) (properties : List Property) {fuel : Nat}
    (enough : properties.length < fuel) :
    ∃ run, Mosquitto.Receive.onMessageCb library fuel pMsg properties = some run ∧
      run.mqttMessage.userProps = FirstWins.insertAll ∅ (receivedPairs properties) := by
  rcases read_user_props_message reads properties enough
    { mqttMessage := startMessage pMsg
      log := [⟨.debug, text "Mosquitto received message"⟩] } with ⟨run, walked, message⟩
  rw [Mosquitto.Receive.onMessageCb, walked]
  refine ⟨_, rfl, ?_⟩
  rw [later_reads_keep_user_props, message]
  rfl

theorem paho_user_props (pTopic : List UInt8) (topicLen : Int)
    {msg : Paho.MQTTAsyncMessage} {properties : List Property}
    (array : msg.properties.map Paho.MQTTProperty.property = properties) :
    (Paho.Receive.onMessageCb pTopic topicLen msg).handed.userProps =
      FirstWins.insertAll ∅ (userPairs properties) := by
  simp only [Paho.Receive.onMessageCb]
  rw [Paho.Receive.received_user_props, array]
  rfl

/-- The maps are equal, each key is bound by its first occurrence, and the loop
over the linked list ends. -/
theorem same_user_props {library : Mosquitto.Library} (reads : ReadsStringPairs library)
    {properties : List Property} (plain : PlainPairs properties)
    (pMsg : Mosquitto.MosquittoMessage) (pTopic : List UInt8) (topicLen : Int)
    {msg : Paho.MQTTAsyncMessage}
    (array : msg.properties.map Paho.MQTTProperty.property = properties) :
    ∃ userProps : UserProps,
      (∀ fuel, properties.length < fuel →
        ∃ run, Mosquitto.Receive.onMessageCb library fuel pMsg properties = some run ∧
          run.mqttMessage.userProps = userProps) ∧
      (Paho.Receive.onMessageCb pTopic topicLen msg).handed.userProps = userProps ∧
      ∀ key : Str, userProps[key]? =
        ((userPairs properties).find? fun pair => pair.1 == key).map (·.2) := by
  refine ⟨FirstWins.insertAll ∅ (userPairs properties), ?_, ?_, ?_⟩
  · intro fuel enough
    have read := mosquitto_user_props reads pMsg properties enough
    rw [received_pairs_plain plain] at read
    exact read
  · exact paho_user_props pTopic topicLen array
  · intro key
    rw [FirstWins.get_insert_all, Std.ExtTreeMap.getElem?_empty,
      FirstWins.first_value_eq_find]
    rfl

/-- A repeated key, an empty one, and other properties between them. -/
def interleaved : List Property :=
  [.other 2, .userProperty (text "k") (text "v"), .contentType (text "c"),
    .userProperty [] [], .userProperty (text "k") (text "w")]

def interleavedArray : List Paho.MQTTProperty :=
  [.other 2, .userProperty ⟨text "k=v", 1⟩ ⟨text "v", 1⟩, .contentType ⟨text "c", 1⟩,
    .userProperty ⟨[], 0⟩ ⟨[], 0⟩, .userProperty ⟨text "k", 1⟩ ⟨text "w", 1⟩]

theorem interleaved_user_props :
    ∃ userProps : UserProps,
      (∀ fuel, interleaved.length < fuel →
        ∃ run, Mosquitto.Receive.onMessageCb Mosquitto.willing fuel
            ⟨1, text "t", [], 0, 0, false⟩ interleaved = some run ∧
          run.mqttMessage.userProps = userProps) ∧
      (Paho.Receive.onMessageCb (text "t") 1
        ⟨[], 0, 0, 0, 1, interleavedArray⟩).handed.userProps = userProps ∧
      ∀ key : Str, userProps[key]? =
        ((userPairs interleaved).find? fun pair => pair.1 == key).map (·.2) :=
  same_user_props Mosquitto.willing_lawful.read_string_pair (by unfold PlainPairs; decide)
    ⟨1, text "t", [], 0, 0, false⟩ (text "t") 1 (by decide)

end IMqtt.Exchange.UserProps
