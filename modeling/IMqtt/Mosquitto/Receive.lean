import IMqtt.Mosquitto.Library
import IMqtt.Library.FirstWins

/-!
# MosquittoClient::onMessageCb

The reads hand buffers to the callback; the model keeps every one of them. The
loop over the user properties has fuel, and `on_message_cb_decodes` says how
much of it is always enough.
-/

namespace IMqtt.Mosquitto.Receive

open IMqtt.Defines IMqtt.Message

set_option autoImplicit false

/-- `mqttMessage`, the buffers the library has handed out, and the log. -/
structure Receiving where
  mqttMessage : IMqttMessage
  buffers : List (List UInt8) := []
  log : List LogEntry := []

def Receiving.holding (run : Receiving) (buffer : Option (List UInt8)) : Receiving :=
  { run with buffers := run.buffers ++ buffer.toList }

def insertUserProp (key val : Str) (run : Receiving) : Receiving :=
  let lines : List LogEntry :=
    if key ∈ run.mqttMessage.userProps then
      [⟨.error, text "Was not able to add user props - ignoring"⟩]
    else []
  { run with
    mqttMessage :=
      { run.mqttMessage with
        userProps := run.mqttMessage.userProps.insertIfNew key val }
    log := run.log ++ lines }

def takeUserProp (key val : Option Str) (run : Receiving) : Receiving :=
  let held := (run.holding key).holding val
  match key with
  | some key =>
      insertUserProp (cStr key) (match val with | some val => cStr val | none => []) held
  | none => held

/-- The do-while loop. -/
def readUserProps (library : Library) :
    Nat → Bool → List Property → Receiving → Option Receiving
  | 0, _, _, _ => none
  | fuel + 1, skipFirst, pUserProps, run =>
      let (next, key, val) := library.readStringPair pUserProps .userProperty skipFirst
      let taken := takeUserProp key val run
      match next with
      | [] => some taken
      | node :: rest => readUserProps library fuel true (node :: rest) taken

def readCorrelationData (library : Library) (pProps : List Property) (run : Receiving) :
    Receiving :=
  let (_, pCorrelationData, corellationDataSize) :=
    library.readBinary pProps .correlationData false
  let held := run.holding pCorrelationData
  match pCorrelationData with
  | some data =>
      { held with mqttMessage :=
          { held.mqttMessage with
            correlationDataProps := data.take corellationDataSize.toNat } }
  | none => held

def readResponseTopic (library : Library) (pProps : List Property) (run : Receiving) :
    Receiving :=
  let (_, pResponseTopic) := library.readString pProps .responseTopic false
  let held := run.holding pResponseTopic
  match pResponseTopic with
  | some topic =>
      { held with mqttMessage := { held.mqttMessage with responseTopic := cStr topic } }
  | none => held

def readContentType (library : Library) (pProps : List Property) (run : Receiving) :
    Receiving :=
  let (_, pContentType) := library.readString pProps .contentType false
  let held := run.holding pContentType
  match pContentType with
  | some contentType =>
      -- the field written is the response topic here as well
      { held with mqttMessage :=
          { held.mqttMessage with responseTopic := cStr contentType } }
  | none => held

def readFormatIndicator (library : Library) (pProps : List Property) (run : Receiving) :
    Receiving :=
  let (_, stored) := library.readByte pProps .payloadFormatIndicator false
  let formatIndicator := stored.getD 0
  { run with mqttMessage :=
      { run.mqttMessage with
        payloadFormatIndicator := if formatIndicator = 1 then .utf8 else .unspecified } }

def startMessage (pMsg : MosquittoMessage) : IMqttMessage :=
  { create (cStr pMsg.topic) (pMsg.payload.take pMsg.payloadlen.toNat) ⟨pMsg.qos⟩
      pMsg.retain with
    messageId := pMsg.mid }

/-- The message of the result is the one handed to `msgCb->OnMqttMessage`. -/
def onMessageCb (library : Library) (fuel : Nat) (pMsg : MosquittoMessage)
    (pProps : List Property) : Option Receiving :=
  let started : Receiving :=
    { mqttMessage := startMessage pMsg
      log := [⟨.debug, text "Mosquitto received message"⟩] }
  (readUserProps library fuel false pProps started).map fun run =>
    readFormatIndicator library pProps
      (readContentType library pProps
        (readResponseTopic library pProps (readCorrelationData library pProps run)))

/-! The loop visits the user properties, each once and in order. -/

def isUserProperty (property : Property) : Bool :=
  property.identifier == .userProperty

def takeProperty (run : Receiving) : Property → Receiving
  | .userProperty name value => takeUserProp (some name) (some value) run
  | _ => run

theorem user_property_of_identifier {property : Property}
    (named : isUserProperty property = true) :
    ∃ name value, property = .userProperty name value := by
  cases property with
  | userProperty name value => exact ⟨name, value, rfl⟩
  | _ => simp [isUserProperty, Property.identifier] at named

theorem wanted_of_next_match {skipFirst : Bool} {cursor rest : List Property}
    {wanted : Property → Bool} {node : Property}
    (found : FirstMatch.nextMatch wanted skipFirst cursor = node :: rest) :
    wanted node = true := by
  cases skipFirst <;> exact FirstMatch.wanted_of_first_match found

/-- What `mosquitto_property_read_string_pair` is documented to do. -/
def ReadsStringPairs (library : Library) : Prop :=
  ∀ proplist skipFirst, library.readStringPair proplist .userProperty skipFirst =
    copyStringPair (found .userProperty skipFirst proplist)

theorem read_user_props_walks {library : Library} (reads : ReadsStringPairs library)
    (fuel : Nat) (skipFirst : Bool) (cursor : List Property) (run : Receiving) :
    readUserProps library fuel skipFirst cursor run =
      FirstMatch.walk isUserProperty takeProperty fuel skipFirst cursor run := by
  induction fuel generalizing skipFirst cursor run with
  | zero => rfl
  | succ fuel ih =>
      rw [readUserProps, reads, FirstMatch.walk]
      have same : found .userProperty skipFirst cursor =
          FirstMatch.nextMatch isUserProperty skipFirst cursor := rfl
      rw [same]
      cases here : FirstMatch.nextMatch isUserProperty skipFirst cursor with
      | nil => simp [copyStringPair, takeUserProp, Receiving.holding]
      | cons node rest =>
          rcases user_property_of_identifier (wanted_of_next_match here) with
            ⟨name, value, shape⟩
          rw [shape]
          simp only [copyStringPair]
          rw [ih]
          rfl

/-- The key and value that are inserted for each user property. -/
def receivedPairs (properties : List Property) : List (Str × Str) :=
  (userPairs properties).map fun pair => (cStr pair.1, cStr pair.2)

def withUserProps (mqttMessage : IMqttMessage) (pairs : List (Str × Str)) : IMqttMessage :=
  { mqttMessage with userProps := FirstWins.insertAll mqttMessage.userProps pairs }

theorem take_property_message (properties : List Property) (run : Receiving) :
    ((properties.filter isUserProperty).foldl takeProperty run).mqttMessage =
      withUserProps run.mqttMessage (receivedPairs properties) := by
  induction properties generalizing run with
  | nil => rfl
  | cons property rest ih =>
      cases property with
      | userProperty name value => exact ih (takeProperty run (.userProperty name value))
      | _ => exact ih run

theorem read_user_props_folds {library : Library} (reads : ReadsStringPairs library)
    {fuel : Nat} {properties : List Property} (enough : properties.length < fuel)
    (run : Receiving) :
    readUserProps library fuel false properties run =
      some ((properties.filter isUserProperty).foldl takeProperty run) := by
  have ahead : FirstMatch.pending isUserProperty false properties =
      properties.filter isUserProperty := rfl
  have shorter : (FirstMatch.pending isUserProperty false properties).length < fuel :=
    Nat.lt_of_le_of_lt (List.length_filter_le _ _) enough
  have walked := FirstMatch.walk_eq_foldl takeProperty run shorter
  rw [← read_user_props_walks reads, ahead] at walked
  exact walked

theorem read_user_props_message {library : Library} (reads : ReadsStringPairs library)
    {fuel : Nat} (properties : List Property) (enough : properties.length < fuel)
    (run : Receiving) :
    ∃ finished, readUserProps library fuel false properties run = some finished ∧
      finished.mqttMessage = withUserProps run.mqttMessage (receivedPairs properties) :=
  ⟨_, read_user_props_folds reads enough run, take_property_message properties run⟩

/-- What the callback delivers for a packet and its properties. -/
def decoded (pMsg : MosquittoMessage) (pProps : List Property) : IMqttMessage :=
  let responseTopic := ((first .responseTopic pProps).bind Property.string?).elim [] cStr
  let formatIndicator :=
    ((first .payloadFormatIndicator pProps).bind Property.byte?).getD 0
  { withUserProps (startMessage pMsg) (receivedPairs pProps) with
    correlationDataProps :=
      ((first .correlationData pProps).bind Property.binary?).elim [] fun value =>
        value.take (UInt16.ofNat value.length).toNat
    responseTopic :=
      ((first .contentType pProps).bind Property.string?).elim responseTopic cStr
    payloadFormatIndicator := if formatIndicator = 1 then .utf8 else .unspecified }

theorem read_correlation_data_message {library : Library} (lawful : library.Lawful)
    (pProps : List Property) (run : Receiving) :
    (readCorrelationData library pProps run).mqttMessage =
      { run.mqttMessage with
        correlationDataProps :=
          ((first .correlationData pProps).bind Property.binary?).elim
            run.mqttMessage.correlationDataProps fun value =>
              value.take (UInt16.ofNat value.length).toNat } := by
  rw [readCorrelationData, lawful.read_binary, copyBinary, head_found]
  cases (first .correlationData pProps).bind Property.binary? <;> rfl

theorem read_response_topic_message {library : Library} (lawful : library.Lawful)
    (pProps : List Property) (run : Receiving) :
    (readResponseTopic library pProps run).mqttMessage =
      { run.mqttMessage with
        responseTopic :=
          ((first .responseTopic pProps).bind Property.string?).elim
            run.mqttMessage.responseTopic cStr } := by
  rw [readResponseTopic, lawful.read_response_topic, copyString, head_found]
  cases (first .responseTopic pProps).bind Property.string? <;> rfl

/-- The content type goes where the response topic goes. -/
theorem read_content_type_message {library : Library} (lawful : library.Lawful)
    (pProps : List Property) (run : Receiving) :
    (readContentType library pProps run).mqttMessage =
      { run.mqttMessage with
        responseTopic :=
          ((first .contentType pProps).bind Property.string?).elim
            run.mqttMessage.responseTopic cStr } := by
  rw [readContentType, lawful.read_content_type, copyString, head_found]
  cases (first .contentType pProps).bind Property.string? <;> rfl

theorem read_format_indicator_message {library : Library} (lawful : library.Lawful)
    (pProps : List Property) (run : Receiving) :
    (readFormatIndicator library pProps run).mqttMessage =
      { run.mqttMessage with
        payloadFormatIndicator :=
          if ((first .payloadFormatIndicator pProps).bind Property.byte?).getD 0 = 1
          then .utf8 else .unspecified } := by
  rw [readFormatIndicator, lawful.read_byte, copyByte, head_found]

theorem on_message_cb_decodes {library : Library} (lawful : library.Lawful) {fuel : Nat}
    (pMsg : MosquittoMessage) (pProps : List Property) (enough : pProps.length < fuel) :
    ∃ finished, onMessageCb library fuel pMsg pProps = some finished ∧
      finished.mqttMessage = decoded pMsg pProps := by
  rcases read_user_props_message lawful.read_string_pair pProps enough
    { mqttMessage := startMessage pMsg
      log := [⟨.debug, text "Mosquitto received message"⟩] } with ⟨run, walked, message⟩
  rw [onMessageCb, walked]
  refine ⟨_, rfl, ?_⟩
  rw [read_format_indicator_message lawful, read_content_type_message lawful,
    read_response_topic_message lawful, read_correlation_data_message lawful, message]
  rfl

end IMqtt.Mosquitto.Receive
