import IMqtt.Library.FirstWins
import IMqtt.Paho.Library

/-!
# PahoClient::onMessageCb

One pass over the property array. The user properties go into the map, each of
the other four kinds into its field; a kind that occurs again overwrites.
-/

namespace IMqtt.Paho.Receive

open IMqtt.Defines IMqtt.Message

set_option autoImplicit false

/-- `internalMessage` and the lines logged. -/
structure Receiving where
  internalMessage : IMqttMessage
  log : List LogEntry := []

/-- The body of the loop. -/
def receiveProperty (run : Receiving) : MQTTProperty → Receiving
  | .userProperty data value =>
      let lines : List LogEntry :=
        if data.bytes ∈ run.internalMessage.userProps then
          [⟨.error, text "Received invalid user properties - ignoring"⟩]
        else []
      { internalMessage :=
          { run.internalMessage with
            userProps := run.internalMessage.userProps.insertIfNew data.bytes value.bytes }
        log := run.log ++ lines }
  | .correlationData data =>
      { run with internalMessage :=
          { run.internalMessage with correlationDataProps := data.bytes } }
  | .responseTopic data =>
      { run with internalMessage := { run.internalMessage with responseTopic := data.bytes } }
  | .payloadFormatIndicator byte =>
      if byte = 1 then
        { run with internalMessage :=
            { run.internalMessage with payloadFormatIndicator := .utf8 } }
      else run
  | .contentType data =>
      { run with internalMessage :=
          { run.internalMessage with payloadContentType := data.bytes } }
  | .other _ => run

def receiveProperties (properties : List MQTTProperty) (run : Receiving) : Receiving :=
  properties.foldl receiveProperty run

def startMessage (pTopic : List UInt8) (topicLen : Int) (msg : MQTTAsyncMessage) :
    IMqttMessage :=
  { create (pTopic.take topicLen.toNat) (msg.payload.take msg.payloadlen.toNat) ⟨msg.qos⟩
      (msg.retained ≠ 0) with
    messageId := msg.msgid }

/-- What the callback has done when it returns: the message it handed to
`msgCb->OnMqttMessage`, whether it freed its arguments, and its result. -/
structure Received where
  handed : IMqttMessage
  log : List LogEntry
  freed : Bool
  result : Int

def onMessageCb (pTopic : List UInt8) (topicLen : Int) (msg : MQTTAsyncMessage) : Received :=
  let run := receiveProperties msg.properties
    { internalMessage := startMessage pTopic topicLen msg
      log := [⟨.trace, text "Paho received message"⟩] }
  -- `acceptMsg` is never cleared
  { handed := run.internalMessage, log := run.log, freed := true, result := 1 }

theorem receive_properties_append (first rest : List MQTTProperty) (run : Receiving) :
    receiveProperties (first ++ rest) run =
      receiveProperties rest (receiveProperties first run) :=
  List.foldl_append

/-- Whatever stands between them, the user properties are inserted in order. -/
theorem received_user_props (properties : List MQTTProperty) (run : Receiving) :
    (receiveProperties properties run).internalMessage.userProps =
      FirstWins.insertAll run.internalMessage.userProps
        (userPairs (properties.map MQTTProperty.property)) := by
  induction properties generalizing run with
  | nil => rfl
  | cons prop rest ih =>
      have unfolded : receiveProperties (prop :: rest) run =
          receiveProperties rest (receiveProperty run prop) := rfl
      rw [unfolded, ih]
      cases prop with
      | payloadFormatIndicator byte =>
          have kept : (receiveProperty run (.payloadFormatIndicator byte)).internalMessage.userProps
              = run.internalMessage.userProps := by
            simp only [receiveProperty]
            split <;> rfl
          rw [kept]
          rfl
      | _ => rfl

/-- A list of user properties changes the map alone. -/
theorem received_user_properties (properties : List MQTTProperty)
    (owned : ∀ prop ∈ properties, ∃ data value, prop = .userProperty data value)
    (run : Receiving) :
    (receiveProperties properties run).internalMessage =
      { run.internalMessage with
        userProps := FirstWins.insertAll run.internalMessage.userProps
          (userPairs (properties.map MQTTProperty.property)) } := by
  induction properties generalizing run with
  | nil => rfl
  | cons prop rest ih =>
      rcases owned prop List.mem_cons_self with ⟨data, value, rfl⟩
      have later : ∀ prop ∈ rest, ∃ data value, prop = MQTTProperty.userProperty data value :=
        fun prop member => owned prop (List.mem_cons_of_mem _ member)
      exact ih later (receiveProperty run (.userProperty data value))

end IMqtt.Paho.Receive
