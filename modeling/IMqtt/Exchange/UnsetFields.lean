import IMqtt.Exchange.AllOrNothing
import IMqtt.Exchange.Packets

/-!
# Optional fields that are not set

The interface calls the response topic, the correlation data, the content type
and the format indicator optional, and a field that is empty is not set. Both
encoders add all four properties to every message.
-/

namespace IMqtt.Exchange.UnsetFields

open IMqtt.Defines IMqtt.Message AllOrNothing

set_option autoImplicit false

/-- The list has no property for a field that is not set. -/
structure OnlySet (mqttMsg : IMqttMessage) (properties : List Property) : Prop where
  once : ∀ identifier ∈ singleIdentifiers, (occurrences identifier properties).length ≤ 1
  responseTopic : occurrences .responseTopic properties ≠ [] → mqttMsg.responseTopic ≠ []
  correlationData : occurrences .correlationData properties ≠ [] →
    mqttMsg.correlationDataProps ≠ []
  contentType : occurrences .contentType properties ≠ [] → mqttMsg.payloadContentType ≠ []

structure FieldsSet (mqttMsg : IMqttMessage) : Prop where
  responseTopic : mqttMsg.responseTopic ≠ []
  correlationData : mqttMsg.correlationDataProps ≠ []
  contentType : mqttMsg.payloadContentType ≠ []

theorem only_set_of_one_each {mqttMsg : IMqttMessage} {pairs : List (Str × Str)}
    {properties : List Property} (each : OneEach pairs properties) :
    OnlySet mqttMsg properties ↔ FieldsSet mqttMsg := by
  have present : ∀ identifier ∈ singleIdentifiers,
      occurrences identifier properties ≠ [] := by
    intro identifier listed nothing
    have single := each.single identifier listed
    rw [nothing] at single
    cases single
  constructor
  · intro only
    constructor
    · exact only.responseTopic (present _ (by decide))
    · exact only.correlationData (present _ (by decide))
    · exact only.contentType (present _ (by decide))
  · intro set
    constructor
    · intro identifier listed
      exact Nat.le_of_eq (each.single identifier listed)
    · exact fun _ => set.responseTopic
    · exact fun _ => set.correlationData
    · exact fun _ => set.contentType

section Mosquitto

open Mosquitto Mosquitto.Publish

theorem mosquitto_packet_one_each {library : Library} (lawful : library.Lawful)
    {mqttMsg : IMqttMessage} {token : Option Int} {packet : PublishCall}
    (handed : packet ∈ packets (publishAsync library mqttMsg token).2.calls) :
    OneEach (cPairs mqttMsg) packet.properties := by
  by_cases okay :
      (addProperties library mqttMsg (start mqttMsg token)).propertiesOkay = true
  · rw [packets_of_okay okay, List.mem_singleton] at handed
    have built := mosquitto_built lawful okay
    rw [mosquittoBuilt] at built
    rw [handed, publishCall, built]
    exact mosquitto_one_each mqttMsg
  · rw [(refused_of_not_okay okay).2] at handed
    cases handed

end Mosquitto

section Paho

open Paho Paho.Publish

theorem paho_packet_one_each {library : Library} (lawful : library.Lawful)
    {mqttMsg : IMqttMessage} {token : Option Int} {packet : SendCall}
    (handed : packet ∈ packets (publishAsync library mqttMsg token).2.calls) :
    OneEach (lenPairs mqttMsg) (Packets.pahoProperties packet) := by
  by_cases okay :
      (addProperties library mqttMsg (start mqttMsg token)).propertiesOkay = true
  · rw [packets_of_okay okay, List.mem_singleton] at handed
    have built := paho_built lawful okay
    rw [handed, Packets.pahoProperties, sendCall, built]
    exact paho_one_each mqttMsg
  · rw [(refused_of_not_okay okay).2.1] at handed
    cases handed

theorem willing_okay (mqttMsg : IMqttMessage) (token : Option Int) :
    (addProperties willing mqttMsg (start mqttMsg token)).propertiesOkay = true := by
  have kept : (addProperties willing mqttMsg (start mqttMsg token)).propertiesOkay =
      (start mqttMsg token).propertiesOkay := by
    apply add_properties_view Publishing.propertiesOkay
    intro prop txt run
    simp [addOrIgnore, willing]
  rw [kept]
  rfl

end Paho

/-- Whatever the library hands out and however it answers. -/
def MosquittoSendsOnlySet (mqttMsg : IMqttMessage) : Prop :=
  ∀ (library : Mosquitto.Library) (token : Option Int), library.Lawful →
    ∀ packet ∈ Mosquitto.Publish.packets
      (Mosquitto.Publish.publishAsync library mqttMsg token).2.calls,
      OnlySet mqttMsg packet.properties

def PahoSendsOnlySet (mqttMsg : IMqttMessage) : Prop :=
  ∀ (library : Paho.Library) (token : Option Int), library.Lawful →
    ∀ packet ∈ Paho.Publish.packets
      (Paho.Publish.publishAsync library mqttMsg token).2.calls,
      OnlySet mqttMsg (Packets.pahoProperties packet)

theorem mosquitto_sends_only_set_iff (mqttMsg : IMqttMessage) :
    MosquittoSendsOnlySet mqttMsg ↔ FieldsSet mqttMsg := by
  constructor
  · intro sends
    have handed := Mosquitto.Publish.publish_async_packets Mosquitto.willing_lawful
      (Mosquitto.PublishSizes.willing_adds_succeed mqttMsg none)
    have only := sends Mosquitto.willing none Mosquitto.willing_lawful
    rw [handed] at only
    have each := mosquitto_one_each mqttMsg
    exact (only_set_of_one_each each).mp (only _ List.mem_cons_self)
  · intro set library token lawful packet handed
    exact (only_set_of_one_each (mosquitto_packet_one_each lawful handed)).mpr set

theorem paho_sends_only_set_iff (mqttMsg : IMqttMessage) :
    PahoSendsOnlySet mqttMsg ↔ FieldsSet mqttMsg := by
  constructor
  · intro sends
    have handed := Paho.Publish.packets_of_okay (willing_okay mqttMsg none)
    have only := sends Paho.willing none Paho.willing_lawful
    have each := @paho_packet_one_each _ Paho.willing_lawful mqttMsg none
    rw [handed] at only each
    exact (only_set_of_one_each (each List.mem_cons_self)).mp (only _ List.mem_cons_self)
  · intro set library token lawful packet handed
    exact (only_set_of_one_each (paho_packet_one_each lawful handed)).mpr set

/-- A message is published as the user has set it when no field is left out. -/
theorem sends_only_set_iff (mqttMsg : IMqttMessage) :
    (MosquittoSendsOnlySet mqttMsg ↔ FieldsSet mqttMsg) ∧
      (PahoSendsOnlySet mqttMsg ↔ FieldsSet mqttMsg) :=
  ⟨mosquitto_sends_only_set_iff mqttMsg, paho_sends_only_set_iff mqttMsg⟩

/-- A message without optional fields. -/
def plain : IMqttMessage := create (text "t") [1] ⟨0⟩ false

theorem plain_message_is_sent_as_request :
    Packets.Wellformed plain ∧
      ∃ left right,
        Mosquitto.Publish.packets
          (Mosquitto.Publish.publishAsync Mosquitto.willing plain none).2.calls = [left] ∧
        Paho.Publish.packets
          (Paho.Publish.publishAsync Paho.willing plain none).2.calls = [right] ∧
        occurrences .responseTopic left.properties = [.responseTopic []] ∧
        occurrences .responseTopic (Packets.pahoProperties right) = [.responseTopic []] ∧
        ¬ MosquittoSendsOnlySet plain ∧ ¬ PahoSendsOnlySet plain := by
  have transportable : Mosquitto.RoundTrip.Transportable plain := by
    constructor <;> decide
  have wellformed : Packets.Wellformed plain := by
    constructor
    · exact transportable
    all_goals decide
  have unset : ¬ FieldsSet plain := fun set => set.responseTopic rfl
  refine ⟨wellformed, _, _,
    Mosquitto.Publish.publish_async_packets Mosquitto.willing_lawful (by decide),
    Paho.Publish.publish_async_packets Paho.willing_lawful (by decide), ?_, ?_, ?_, ?_⟩
  · decide
  · decide
  · rw [mosquitto_sends_only_set_iff]
    exact unset
  · rw [paho_sends_only_set_iff]
    exact unset

end IMqtt.Exchange.UnsetFields
