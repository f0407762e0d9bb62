import IMqtt.Paho.Library

/-!
# PahoClient::PublishAsync

Strings and correlation data are handed over as pointer and length, the topic
as a C string. Every property is added whether or not the earlier ones
succeeded.
-/

namespace IMqtt.Paho.Publish

open IMqtt.Defines IMqtt.Message

set_option autoImplicit false

inductive LibraryCall
  | propertiesAdd (prop : MQTTProperty) (rc : Int)
  | sendMessage (call : SendCall) (rc : Int)
  | propertiesFree (properties : List MQTTProperty)
  deriving DecidableEq, Repr

/-- `msg.properties` and `propertiesOkay`, the int `token` points at (`none`
for a null pointer), the library calls made and the lines logged. -/
structure Publishing where
  properties : List MQTTProperty := []
  propertiesOkay : Bool := true
  token : Option Int
  calls : List LibraryCall := []
  log : List LogEntry := []
  deriving DecidableEq, Repr

/-- One add, with the line that is logged when it fails. -/
def addOrIgnore (library : Library) (prop : MQTTProperty) (txt : Str) (run : Publishing) :
    Publishing :=
  let (rc, properties) := library.propertiesAdd run.calls.length run.properties prop
  let added : Publishing :=
    { run with properties := properties, calls := run.calls ++ [.propertiesAdd prop rc] }
  if rc ≠ mqttasyncSuccess then
    { added with propertiesOkay := false, log := added.log ++ [⟨.error, txt⟩] }
  else added

def userProperty (userProp : Str × Str) : MQTTProperty :=
  .userProperty (lenString userProp.1) (lenString userProp.2)

def addUserProps (library : Library) : List (Str × Str) → Publishing → Publishing
  | [], run => run
  | userProp :: rest, run =>
      addUserProps library rest
        (addOrIgnore library (userProperty userProp)
          (text "Was not able to add user property, ignoring message") run)

def addResponseTopic (library : Library) (mqttMsg : IMqttMessage) : Publishing → Publishing :=
  addOrIgnore library (.responseTopic (lenString mqttMsg.responseTopic))
    (text "Was not able to add reponse topic, ignoring message")

def addCorrelationData (library : Library) (mqttMsg : IMqttMessage) :
    Publishing → Publishing :=
  addOrIgnore library (.correlationData (lenString mqttMsg.correlationDataProps))
    (text "Was not able to add correlation data, ignoring message")

def addFormatIndicator (library : Library) (mqttMsg : IMqttMessage) :
    Publishing → Publishing :=
  addOrIgnore library
    (.payloadFormatIndicator (if mqttMsg.payloadFormatIndicator = .utf8 then 1 else 0))
    (text "Was not able to add format indicator, ignoring message")

def addContentType (library : Library) (mqttMsg : IMqttMessage) : Publishing → Publishing :=
  addOrIgnore library (.contentType (lenString mqttMsg.payloadContentType))
    (text "Was not able to add content type, ignoring message")

def addProperties (library : Library) (mqttMsg : IMqttMessage) (run : Publishing) :
    Publishing :=
  addContentType library mqttMsg
    (addFormatIndicator library mqttMsg
      (addCorrelationData library mqttMsg
        (addResponseTopic library mqttMsg
          (addUserProps library mqttMsg.userProps.toList run))))

def sendCall (library : Library) (mqttMsg : IMqttMessage) (properties : List MQTTProperty) :
    SendCall where
  destinationName := mqttMsg.topic
  msg :=
    { payload := mqttMsg.payload
      payloadlen := castInt mqttMsg.payload.length
      qos := mqttMsg.qos.toInt
      retained := if mqttMsg.retain then 1 else 0
      msgid := if mqttMsg.messageId > 0 then mqttMsg.messageId else library.initialMsgid
      properties := properties }

def handOver (library : Library) (mqttMsg : IMqttMessage) (run : Publishing) :
    ReasonCode × Publishing :=
  if run.propertiesOkay then
    let call := sendCall library mqttMsg run.properties
    let (rc, callToken) := library.sendMessage call
    let (status, line) := pahoRcToReasonCode library.texts rc (text "MQTTAsync_sendMessage")
    (status,
      { run with
        token := if status = .okay then run.token.map fun _ => callToken else run.token
        calls := run.calls ++ [.sendMessage call rc]
        log := run.log ++ [line] })
  else (.errorGeneral, run)

def start (mqttMsg : IMqttMessage) (token : Option Int) : Publishing where
  token := token
  log := [⟨.debug, text "Publishing to topic: \"" ++ mqttMsg.topic ++ text "\""⟩]

def publishAsync (library : Library) (mqttMsg : IMqttMessage) (token : Option Int) :
    ReasonCode × Publishing :=
  let (status, run) :=
    handOver library mqttMsg (addProperties library mqttMsg (start mqttMsg token))
  (status, { run with
    calls := run.calls ++ [.propertiesFree run.properties]
    properties := [] })

/-! What the calls amount to when every add succeeds. -/

/-- The return codes of the adds. -/
def addResults (calls : List LibraryCall) : List Int :=
  calls.filterMap fun call =>
    match call with
    | .propertiesAdd _ rc => some rc
    | _ => none

def AddsSucceed (calls : List LibraryCall) : Prop :=
  ∀ rc ∈ addResults calls, rc = mqttasyncSuccess

instance (calls : List LibraryCall) : Decidable (AddsSucceed calls) :=
  inferInstanceAs (Decidable (∀ rc ∈ addResults calls, rc = mqttasyncSuccess))

theorem mem_add_results {calls : List LibraryCall} {rc : Int} :
    rc ∈ addResults calls ↔ ∃ prop, .propertiesAdd prop rc ∈ calls := by
  simp only [addResults, List.mem_filterMap]
  constructor
  · rintro ⟨made, member, result⟩
    cases made with
    | propertiesAdd prop returned =>
        cases result
        exact ⟨prop, member⟩
    | sendMessage packet returned => cases result
    | propertiesFree properties => cases result
  · rintro ⟨prop, member⟩
    exact ⟨_, member, rfl⟩

/-- The packets handed to the library. -/
def packets (calls : List LibraryCall) : List SendCall :=
  calls.filterMap fun call =>
    match call with
    | .sendMessage packet _ => some packet
    | _ => none

/-- The properties of a message in the order they are added. -/
def wireProperties (mqttMsg : IMqttMessage) : List MQTTProperty :=
  mqttMsg.userProps.toList.map userProperty ++
    [.responseTopic (lenString mqttMsg.responseTopic),
      .correlationData (lenString mqttMsg.correlationDataProps),
      .payloadFormatIndicator (if mqttMsg.payloadFormatIndicator = .utf8 then 1 else 0),
      .contentType (lenString mqttMsg.payloadContentType)]

theorem add_or_ignore_calls (library : Library) (prop : MQTTProperty) (txt : Str)
    (run : Publishing) :
    (addOrIgnore library prop txt run).calls = run.calls ++
      [.propertiesAdd prop (library.propertiesAdd run.calls.length run.properties prop).1] := by
  simp only [addOrIgnore]
  split <;> rfl

/-- What one add leaves alone, all the adds do. -/
theorem add_properties_view {View : Type} {library : Library} (view : Publishing → View)
    (single : ∀ prop txt run, view (addOrIgnore library prop txt run) = view run)
    (mqttMsg : IMqttMessage) (run : Publishing) :
    view (addProperties library mqttMsg run) = view run := by
  have owned : ∀ props run, view (addUserProps library props run) = view run := by
    intro props
    induction props with
    | nil =>
        intro run
        rfl
    | cons prop rest ih =>
        intro run
        rw [addUserProps, ih, single]
  simp only [addProperties, addContentType, addFormatIndicator, addCorrelationData,
    addResponseTopic, single, owned]

/-- The adds hand no packet over and leave the token alone. -/
theorem add_properties_keep (library : Library) (mqttMsg : IMqttMessage) (run : Publishing) :
    packets (addProperties library mqttMsg run).calls = packets run.calls ∧
      (addProperties library mqttMsg run).token = run.token := by
  constructor
  · apply add_properties_view fun run => packets run.calls
    intro prop txt run
    simp only [addOrIgnore]
    split <;> simp [packets]
  · apply add_properties_view Publishing.token
    intro prop txt run
    simp only [addOrIgnore]
    split <;> rfl

theorem packets_of_okay {library : Library} {mqttMsg : IMqttMessage} {token : Option Int}
    (okay : (addProperties library mqttMsg (start mqttMsg token)).propertiesOkay = true) :
    packets (publishAsync library mqttMsg token).2.calls =
      [sendCall library mqttMsg
        (addProperties library mqttMsg (start mqttMsg token)).properties] := by
  have nothing := (add_properties_keep library mqttMsg (start mqttMsg token)).1
  unfold packets at nothing
  simp only [publishAsync, handOver, if_pos okay, packets, List.filterMap_append, nothing]
  rfl

theorem refused_of_not_okay {library : Library} {mqttMsg : IMqttMessage}
    {token : Option Int}
    (failed : ¬ (addProperties library mqttMsg (start mqttMsg token)).propertiesOkay = true) :
    (publishAsync library mqttMsg token).1 = .errorGeneral ∧
      packets (publishAsync library mqttMsg token).2.calls = [] ∧
      (publishAsync library mqttMsg token).2.token = token := by
  rcases add_properties_keep library mqttMsg (start mqttMsg token) with ⟨nothing, kept⟩
  unfold packets at nothing
  refine ⟨?_, ?_, ?_⟩
  · simp only [publishAsync, handOver, if_neg failed]
  · simp only [publishAsync, handOver, if_neg failed, packets, List.filterMap_append, nothing]
    rfl
  · simp only [publishAsync, handOver, if_neg failed, kept]
    rfl

/-- Either one packet is handed over, and the library's answer decides the
status and the token, or nothing is and the token stays. -/
theorem publish_async_cases (library : Library) (mqttMsg : IMqttMessage) (token : Int) :
    (∃ packet, packets (publishAsync library mqttMsg (some token)).2.calls = [packet] ∧
      (publishAsync library mqttMsg (some token)).1 =
        (pahoRcToReasonCode library.texts (library.sendMessage packet).1
          (text "MQTTAsync_sendMessage")).1 ∧
      (publishAsync library mqttMsg (some token)).2.token =
        some (if (publishAsync library mqttMsg (some token)).1 = .okay then
          (library.sendMessage packet).2 else token)) ∨
    (packets (publishAsync library mqttMsg (some token)).2.calls = [] ∧
      (publishAsync library mqttMsg (some token)).1 = .errorGeneral ∧
      (publishAsync library mqttMsg (some token)).2.token = some token) := by
  have kept := (add_properties_keep library mqttMsg (start mqttMsg (some token))).2
  by_cases okay :
      (addProperties library mqttMsg (start mqttMsg (some token))).propertiesOkay = true
  · refine .inl ⟨_, packets_of_okay okay, ?_, ?_⟩
    · simp only [publishAsync, handOver, if_pos okay]
    · simp only [publishAsync, handOver, if_pos okay, kept]
      split <;> rfl
  · rcases refused_of_not_okay okay with ⟨status, nothing, unchanged⟩
    exact .inr ⟨nothing, status, unchanged⟩

/-- A run whose adds have all succeeded has added the properties. -/
def Built (before : Publishing) (added : List MQTTProperty) (run : Publishing) : Prop :=
  AddsSucceed run.calls → AddsSucceed before.calls ∧
    run.properties = before.properties ++ added.map MQTTProperty.copy ∧
    run.propertiesOkay = before.propertiesOkay

theorem built_none (run : Publishing) : Built run [] run := by
  intro succeed
  exact ⟨succeed, by simp, rfl⟩

theorem built_trans {before middle run : Publishing} {first second : List MQTTProperty}
    (former : Built before first middle) (latter : Built middle second run) :
    Built before (first ++ second) run := by
  intro succeed
  rcases latter succeed with ⟨earlier, properties, okay⟩
  rcases former earlier with ⟨start, built, kept⟩
  refine ⟨start, ?_, okay.trans kept⟩
  rw [properties, built, List.map_append, List.append_assoc]

section Adds

variable {library : Library} (lawful : library.Lawful)

include lawful

theorem built_add (prop : MQTTProperty) (txt : Str) (run : Publishing) :
    Built run [prop] (addOrIgnore library prop txt run) := by
  intro succeed
  rw [add_or_ignore_calls] at succeed
  have before : AddsSucceed run.calls := by
    intro rc member
    apply succeed
    rw [addResults, List.filterMap_append]
    exact List.mem_append_left _ member
  have success : (library.propertiesAdd run.calls.length run.properties prop).1 =
      mqttasyncSuccess := by
    apply succeed
    rw [addResults, List.filterMap_append]
    simp
  refine ⟨before, ?_, ?_⟩
  · simp only [addOrIgnore, success, ne_eq, not_true_eq_false, if_false]
    exact lawful _ _ _ success
  · simp [addOrIgnore, success]

theorem built_user_props (props : List (Str × Str)) (run : Publishing) :
    Built run (props.map userProperty) (addUserProps library props run) := by
  induction props generalizing run with
  | nil => exact built_none run
  | cons prop rest ih =>
      have first := built_add lawful (userProperty prop)
        (text "Was not able to add user property, ignoring message") run
      exact built_trans first (ih _)

theorem built_properties (mqttMsg : IMqttMessage) (run : Publishing) :
    Built run (wireProperties mqttMsg) (addProperties library mqttMsg run) := by
  have grouped : wireProperties mqttMsg =
      ((((mqttMsg.userProps.toList.map userProperty ++
        [.responseTopic (lenString mqttMsg.responseTopic)]) ++
        [.correlationData (lenString mqttMsg.correlationDataProps)]) ++
        [.payloadFormatIndicator (if mqttMsg.payloadFormatIndicator = .utf8 then 1 else 0)]) ++
        [.contentType (lenString mqttMsg.payloadContentType)]) := by
    simp [wireProperties]
  rw [grouped]
  refine built_trans ?_ (built_add lawful _ _ _)
  refine built_trans ?_ (built_add lawful _ _ _)
  refine built_trans ?_ (built_add lawful _ _ _)
  refine built_trans ?_ (built_add lawful _ _ _)
  exact built_user_props lawful mqttMsg.userProps.toList run

theorem publish_async_packets {mqttMsg : IMqttMessage} {token : Option Int}
    (succeed : AddsSucceed (publishAsync library mqttMsg token).2.calls) :
    packets (publishAsync library mqttMsg token).2.calls =
      [sendCall library mqttMsg ((wireProperties mqttMsg).map MQTTProperty.copy)] := by
  have built := built_properties lawful mqttMsg (start mqttMsg token)
  have same : addResults (publishAsync library mqttMsg token).2.calls =
      addResults (addProperties library mqttMsg (start mqttMsg token)).calls := by
    simp only [publishAsync, handOver]
    split <;> simp [addResults]
  rw [AddsSucceed, same] at succeed
  rcases built succeed with ⟨-, properties, okay⟩
  have accepted : (addProperties library mqttMsg (start mqttMsg token)).propertiesOkay =
      true := okay
  rw [packets_of_okay accepted, properties]
  rfl

end Adds

end IMqtt.Paho.Publish
