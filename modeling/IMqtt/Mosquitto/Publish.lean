import IMqtt.Mosquitto.Library

/-!
# MosquittoClient::PublishAsync

The call is run against the library and records what it hands over, in order.
Every property is added whether or not the earlier ones succeeded, except that
the first user property that fails ends the loop over them.
-/

namespace IMqtt.Mosquitto.Publish

open IMqtt.Defines IMqtt.Message

set_option autoImplicit false

inductive LibraryCall
  | propertyAdd (call : PropertyAdd) (rc : Int)
  | publish (call : PublishCall) (rc : Int)
  | propertyFreeAll (properties : List Property)
  deriving DecidableEq, Repr

/-- `pProps` and `propertiesOkay`, the int `token` points at (`none` for a null
pointer), the library calls made and the lines logged. -/
structure Publishing where
  pProps : List Property := []
  propertiesOkay : Bool := true
  token : Option Int
  calls : List LibraryCall := []
  log : List LogEntry := []
  deriving DecidableEq, Repr

def Publishing.logged (run : Publishing) (level : LogLevel) (txt : Str) : Publishing :=
  { run with log := run.log ++ [⟨level, txt⟩] }

def propertyAdd (library : Library) (call : PropertyAdd) (run : Publishing) :
    Int × Publishing :=
  let (rc, pProps) := library.propertyAdd run.calls.length run.pProps call
  (rc, { run with pProps := pProps, calls := run.calls ++ [.propertyAdd call rc] })

def ignoreMessage (txt : Str) (run : Publishing) : Publishing :=
  { run.logged .error txt with propertiesOkay := false }

def userPropertyAdd (prop : Str × Str) : PropertyAdd :=
  .stringPair .userProperty prop.1 prop.2

def addUserProps (library : Library) : List (Str × Str) → Publishing → Publishing
  | [], run => run
  | prop :: rest, run =>
      let (rc, added) := propertyAdd library (userPropertyAdd prop) run
      if rc ≠ mosqErrSuccess then
        ignoreMessage (text "Invalid MQTT user property - ignoring message") added
      else addUserProps library rest added

/-- The four adds behind the loop. -/
def addOrIgnore (library : Library) (call : PropertyAdd) (txt : Str)
    (run : Publishing) : Publishing :=
  let (rc, added) := propertyAdd library call run
  if rc ≠ mosqErrSuccess then ignoreMessage txt added else added

def addCorrelationData (library : Library) (mqttMsg : IMqttMessage) :
    Publishing → Publishing :=
  addOrIgnore library
    (.binary .correlationData mqttMsg.correlationDataProps
      (UInt16.ofNat mqttMsg.correlationDataProps.length))
    (text "Invalid MQTT correlation data property - ignoring message")

def addResponseTopic (library : Library) (mqttMsg : IMqttMessage) :
    Publishing → Publishing :=
  addOrIgnore library (.string .responseTopic mqttMsg.responseTopic)
    (text "Invalid MQTT response topic - ignoring message")

def addContentType (library : Library) (mqttMsg : IMqttMessage) :
    Publishing → Publishing :=
  addOrIgnore library (.string .contentType mqttMsg.payloadContentType)
    (text "Invalid MQTT content type - ignoring message")

def addFormatIndicator (library : Library) (mqttMsg : IMqttMessage) :
    Publishing → Publishing :=
  addOrIgnore library
    (.byte .payloadFormatIndicator
      (if mqttMsg.payloadFormatIndicator = .utf8 then 1 else 0))
    (text "Invalid MQTT format indicator - ignoring message")

def addProperties (library : Library) (mqttMsg : IMqttMessage) (run : Publishing) :
    Publishing :=
  addFormatIndicator library mqttMsg
    (addContentType library mqttMsg
      (addResponseTopic library mqttMsg
        (addCorrelationData library mqttMsg
          (addUserProps library mqttMsg.userProps.toList run))))

def publishCall (mqttMsg : IMqttMessage) (pProps : List Property) : PublishCall where
  topic := mqttMsg.topic
  payloadlen := (UInt16.ofNat mqttMsg.payload.length).toNat
  payload := mqttMsg.payload
  qos := mqttMsg.qos.toInt
  retain := mqttMsg.retain
  properties := pProps

def handOver (library : Library) (mqttMsg : IMqttMessage) (run : Publishing) :
    ReasonCode × Publishing :=
  if run.propertiesOkay then
    let call := publishCall mqttMsg run.pProps
    let (rc, mid) := library.publish call
    let (status, line) := mosqRcToReasonCode library.strerror rc (text "mosquitto_publish_v5")
    (status,
      { run with
        token := run.token.map fun token => mid.getD token
        calls := run.calls ++ [.publish call rc]
        log := run.log ++ [line] })
  else (.errorGeneral, run)

def start (mqttMsg : IMqttMessage) (token : Option Int) : Publishing where
  token := token
  log := [⟨.debug, text "Publishing to topic: \"" ++ mqttMsg.topic ++ text "\""⟩]

def publishAsync (library : Library) (mqttMsg : IMqttMessage) (token : Option Int) :
    ReasonCode × Publishing :=
  let (status, run) :=
    handOver library mqttMsg (addProperties library mqttMsg (start mqttMsg token))
  let reported :=
    if status ≠ .okay then run.logged .error (text "PublishAsync failed - will not retry")
    else run
  (status, { reported with
    calls := reported.calls ++ [.propertyFreeAll reported.pProps]
    pProps := [] })

/-! What the calls amount to when every add succeeds. -/

/-- The return codes of the adds. -/
def addResults (calls : List LibraryCall) : List Int :=
  calls.filterMap fun call =>
    match call with
    | .propertyAdd _ rc => some rc
    | _ => none

def AddsSucceed (calls : List LibraryCall) : Prop :=
  ∀ rc ∈ addResults calls, rc = mosqErrSuccess

instance (calls : List LibraryCall) : Decidable (AddsSucceed calls) :=
  inferInstanceAs (Decidable (∀ rc ∈ addResults calls, rc = mosqErrSuccess))

theorem mem_add_results {calls : List LibraryCall} {rc : Int} :
    rc ∈ addResults calls ↔ ∃ call, .propertyAdd call rc ∈ calls := by
  simp only [addResults, List.mem_filterMap]
  constructor
  · rintro ⟨made, member, result⟩
    cases made with
    | propertyAdd call returned =>
        cases result
        exact ⟨call, member⟩
    | publish packet returned => cases result
    | propertyFreeAll properties => cases result
  · rintro ⟨call, member⟩
    exact ⟨_, member, rfl⟩

theorem add_results_append (before after : List LibraryCall) :
    addResults (before ++ after) = addResults before ++ addResults after :=
  List.filterMap_append

theorem adds_succeed_append {before after : List LibraryCall}
    (succeed : AddsSucceed (before ++ after)) : AddsSucceed before := by
  intro rc member
  apply succeed
  rw [add_results_append]
  exact List.mem_append_left _ member

theorem adds_succeed_last {before : List LibraryCall} {call : PropertyAdd} {rc : Int}
    (succeed : AddsSucceed (before ++ [.propertyAdd call rc])) : rc = mosqErrSuccess := by
  apply succeed
  rw [add_results_append]
  simp [addResults]

def Publishing.added (run : Publishing) (call : PropertyAdd) (property : Property) :
    Publishing :=
  { run with
    pProps := run.pProps ++ [property]
    calls := run.calls ++ [.propertyAdd call mosqErrSuccess] }

theorem property_add_calls (library : Library) (call : PropertyAdd) (run : Publishing) :
    (propertyAdd library call run).2.calls =
      run.calls ++ [.propertyAdd call (propertyAdd library call run).1] := rfl

theorem property_add_succeeds {library : Library} (lawful : library.Lawful)
    {call : PropertyAdd} {property : Property} (describes : call.property = some property)
    {run : Publishing} (success : (propertyAdd library call run).1 = mosqErrSuccess) :
    (propertyAdd library call run).2 = run.added call property := by
  have appended := lawful.add_appends run.calls.length run.pProps call property
    describes success
  have returned : (library.propertyAdd run.calls.length run.pProps call).1 =
      mosqErrSuccess := success
  simp [propertyAdd, Publishing.added, appended, returned]

theorem add_or_ignore_of_success {library : Library} {call : PropertyAdd} {run : Publishing}
    (success : (propertyAdd library call run).1 = mosqErrSuccess) (txt : Str) :
    addOrIgnore library call txt run = (propertyAdd library call run).2 := by
  simp [addOrIgnore, success]

theorem add_or_ignore_of_failure {library : Library} {call : PropertyAdd} {run : Publishing}
    (failed : (propertyAdd library call run).1 ≠ mosqErrSuccess) (txt : Str) :
    addOrIgnore library call txt run =
      ignoreMessage txt (propertyAdd library call run).2 := by
  simp [addOrIgnore, failed]

theorem add_or_ignore_succeeds {library : Library} (lawful : library.Lawful)
    {call : PropertyAdd} {property : Property} (describes : call.property = some property)
    {txt : Str} {run : Publishing}
    (succeed : AddsSucceed (addOrIgnore library call txt run).calls) :
    AddsSucceed run.calls ∧ addOrIgnore library call txt run = run.added call property := by
  have calls : (addOrIgnore library call txt run).calls =
      run.calls ++ [.propertyAdd call (propertyAdd library call run).1] := by
    rw [← property_add_calls]
    simp only [addOrIgnore]
    split <;> rfl
  rw [calls] at succeed
  have success := adds_succeed_last succeed
  constructor
  · exact adds_succeed_append succeed
  · rw [add_or_ignore_of_success success]
    exact property_add_succeeds lawful describes success

def userProperty (prop : Str × Str) : Property :=
  .userProperty (cStr prop.1) (cStr prop.2)

theorem user_property_add_property (prop : Str × Str) :
    (userPropertyAdd prop).property = some (userProperty prop) := rfl

theorem add_user_props_cons (library : Library) (prop : Str × Str)
    (rest : List (Str × Str)) (run : Publishing) :
    addUserProps library (prop :: rest) run =
      if (propertyAdd library (userPropertyAdd prop) run).1 ≠ mosqErrSuccess then
        ignoreMessage (text "Invalid MQTT user property - ignoring message")
          (propertyAdd library (userPropertyAdd prop) run).2
      else addUserProps library rest
        (propertyAdd library (userPropertyAdd prop) run).2 := rfl

theorem add_user_props_succeed {library : Library} (lawful : library.Lawful)
    (props : List (Str × Str)) (run : Publishing)
    (succeed : AddsSucceed (addUserProps library props run).calls) :
    addUserProps library props run =
      { run with
        pProps := run.pProps ++ props.map userProperty
        calls := run.calls ++
          props.map fun prop => .propertyAdd (userPropertyAdd prop) mosqErrSuccess } := by
  induction props generalizing run with
  | nil => simp [addUserProps]
  | cons prop rest ih =>
      by_cases success :
          (propertyAdd library (userPropertyAdd prop) run).1 = mosqErrSuccess
      · have first := property_add_succeeds lawful (user_property_add_property prop) success
        rw [add_user_props_cons, if_neg (not_not_intro success)] at succeed ⊢
        rw [ih _ succeed, first]
        simp [Publishing.added]
      · -- the loop is left, and the failed add stands in the record
        rw [add_user_props_cons, if_pos success] at succeed
        have listed : AddsSucceed
            (propertyAdd library (userPropertyAdd prop) run).2.calls := succeed
        rw [property_add_calls] at listed
        exact absurd (adds_succeed_last listed) success

/-- The properties of a message in the order they are added. -/
def wireProperties (mqttMsg : IMqttMessage) : List Property :=
  mqttMsg.userProps.toList.map userProperty ++
    [.correlationData (mqttMsg.correlationDataProps.take
        (UInt16.ofNat mqttMsg.correlationDataProps.length).toNat),
      .responseTopic (cStr mqttMsg.responseTopic),
      .contentType (cStr mqttMsg.payloadContentType),
      .payloadFormatIndicator (if mqttMsg.payloadFormatIndicator = .utf8 then 1 else 0)]

theorem add_properties_succeed {library : Library} (lawful : library.Lawful)
    {mqttMsg : IMqttMessage} {run : Publishing}
    (succeed : AddsSucceed (addProperties library mqttMsg run).calls) :
    (addProperties library mqttMsg run).pProps = run.pProps ++ wireProperties mqttMsg ∧
      (addProperties library mqttMsg run).propertiesOkay = run.propertiesOkay := by
  have formatted := add_or_ignore_succeeds lawful rfl succeed
  have typed := add_or_ignore_succeeds lawful rfl formatted.1
  have answered := add_or_ignore_succeeds lawful rfl typed.1
  have correlated := add_or_ignore_succeeds lawful rfl answered.1
  have owned := add_user_props_succeed lawful _ _ correlated.1
  have last : addProperties library mqttMsg run = _ := formatted.2
  rw [last, addContentType, typed.2, addResponseTopic, answered.2,
    addCorrelationData, correlated.2, owned]
  simp [Publishing.added, wireProperties]

theorem hand_over_calls (library : Library) (mqttMsg : IMqttMessage) (run : Publishing) :
    ∃ later, (handOver library mqttMsg run).2.calls = run.calls ++ later := by
  rw [handOver]
  split
  · exact ⟨_, rfl⟩
  · exact ⟨[], by simp⟩

/-- The packets handed to the library. -/
def packets (calls : List LibraryCall) : List PublishCall :=
  calls.filterMap fun call =>
    match call with
    | .publish packet _ => some packet
    | _ => none

theorem packets_append (before after : List LibraryCall) :
    packets (before ++ after) = packets before ++ packets after :=
  List.filterMap_append

theorem property_add_packets (library : Library) (call : PropertyAdd) (run : Publishing) :
    packets (propertyAdd library call run).2.calls = packets run.calls := by
  rw [property_add_calls, packets_append]
  simp [packets]

/-- What one add and one failure leave alone, all the adds do. -/
theorem add_properties_view {View : Type} {library : Library} (view : Publishing → View)
    (added : ∀ call run, view (propertyAdd library call run).2 = view run)
    (ignored : ∀ txt run, view (ignoreMessage txt run) = view run)
    (mqttMsg : IMqttMessage) (run : Publishing) :
    view (addProperties library mqttMsg run) = view run := by
  have single : ∀ call txt run, view (addOrIgnore library call txt run) = view run := by
    intro call txt run
    by_cases success : (propertyAdd library call run).1 = mosqErrSuccess
    · rw [add_or_ignore_of_success success, added]
    · rw [add_or_ignore_of_failure success, ignored, added]
  have owned : ∀ props run, view (addUserProps library props run) = view run := by
    intro props
    induction props with
    | nil =>
        intro run
        rfl
    | cons prop rest ih =>
        intro run
        rw [add_user_props_cons]
        split
        · rw [ignored, added]
        · rw [ih, added]
  simp only [addProperties, addFormatIndicator, addContentType, addResponseTopic,
    addCorrelationData, single, owned]

theorem add_properties_packets (library : Library) (mqttMsg : IMqttMessage)
    (run : Publishing) :
    packets (addProperties library mqttMsg run).calls = packets run.calls :=
  add_properties_view (fun run => packets run.calls) (property_add_packets library)
    (fun _ _ => rfl) mqttMsg run

theorem add_properties_token (library : Library) (mqttMsg : IMqttMessage)
    (run : Publishing) : (addProperties library mqttMsg run).token = run.token :=
  add_properties_view Publishing.token (fun _ _ => rfl) (fun _ _ => rfl) mqttMsg run

theorem publish_async_calls (library : Library) (mqttMsg : IMqttMessage)
    (token : Option Int) :
    ∃ properties, (publishAsync library mqttMsg token).2.calls =
      (handOver library mqttMsg
        (addProperties library mqttMsg (start mqttMsg token))).2.calls ++
          [.propertyFreeAll properties] := by
  simp only [publishAsync]
  split <;> exact ⟨_, rfl⟩

theorem packets_of_okay {library : Library} {mqttMsg : IMqttMessage} {token : Option Int}
    (okay : (addProperties library mqttMsg (start mqttMsg token)).propertiesOkay = true) :
    packets (publishAsync library mqttMsg token).2.calls =
      [publishCall mqttMsg (addProperties library mqttMsg (start mqttMsg token)).pProps] := by
  have nothing : packets (addProperties library mqttMsg (start mqttMsg token)).calls = [] :=
    add_properties_packets library mqttMsg (start mqttMsg token)
  rcases publish_async_calls library mqttMsg token with ⟨freed, calls⟩
  rw [calls, packets_append, handOver, if_pos okay, packets_append, nothing]
  rfl

theorem refused_of_not_okay {library : Library} {mqttMsg : IMqttMessage}
    {token : Option Int}
    (failed : ¬ (addProperties library mqttMsg (start mqttMsg token)).propertiesOkay = true) :
    (publishAsync library mqttMsg token).1 = .errorGeneral ∧
      packets (publishAsync library mqttMsg token).2.calls = [] := by
  constructor
  · simp only [publishAsync, handOver, if_neg failed]
  · have nothing : packets (addProperties library mqttMsg (start mqttMsg token)).calls = [] :=
      add_properties_packets library mqttMsg (start mqttMsg token)
    rcases publish_async_calls library mqttMsg token with ⟨freed, calls⟩
    rw [calls, packets_append, handOver, if_neg failed, nothing]
    rfl

theorem publish_async_token (library : Library) (mqttMsg : IMqttMessage)
    (token : Option Int) :
    (publishAsync library mqttMsg token).2.token =
      (handOver library mqttMsg
        (addProperties library mqttMsg (start mqttMsg token))).2.token := by
  simp only [publishAsync]
  split <;> rfl

/-- Either one packet is handed over, and the library's answer decides the
status and the token, or nothing is and the token stays. -/
theorem publish_async_cases (library : Library) (mqttMsg : IMqttMessage) (token : Int) :
    (∃ packet, packets (publishAsync library mqttMsg (some token)).2.calls = [packet] ∧
      (publishAsync library mqttMsg (some token)).1 =
        (mosqRcToReasonCode library.strerror (library.publish packet).1
          (text "mosquitto_publish_v5")).1 ∧
      (publishAsync library mqttMsg (some token)).2.token =
        some ((library.publish packet).2.getD token)) ∨
    (packets (publishAsync library mqttMsg (some token)).2.calls = [] ∧
      (publishAsync library mqttMsg (some token)).1 = .errorGeneral ∧
      (publishAsync library mqttMsg (some token)).2.token = some token) := by
  have kept : (addProperties library mqttMsg (start mqttMsg (some token))).token =
      some token := add_properties_token library mqttMsg (start mqttMsg (some token))
  by_cases okay :
      (addProperties library mqttMsg (start mqttMsg (some token))).propertiesOkay = true
  · refine .inl ⟨_, packets_of_okay okay, ?_, ?_⟩
    · simp only [publishAsync, handOver, if_pos okay]
    · rw [publish_async_token, handOver, if_pos okay]
      simp only [kept, Option.map_some]
  · rcases refused_of_not_okay okay with ⟨status, nothing⟩
    refine .inr ⟨nothing, status, ?_⟩
    rw [publish_async_token, handOver, if_neg okay]
    exact kept

theorem publish_async_packets {library : Library} (lawful : library.Lawful)
    {mqttMsg : IMqttMessage} {token : Option Int}
    (succeed : AddsSucceed (publishAsync library mqttMsg token).2.calls) :
    packets (publishAsync library mqttMsg token).2.calls =
      [publishCall mqttMsg (wireProperties mqttMsg)] := by
  rcases publish_async_calls library mqttMsg token with ⟨freed, calls⟩
  rcases hand_over_calls library mqttMsg
    (addProperties library mqttMsg (start mqttMsg token)) with ⟨later, handed⟩
  rw [calls, handed] at succeed
  have built := add_properties_succeed lawful
    (adds_succeed_append (adds_succeed_append succeed))
  have okay : (addProperties library mqttMsg (start mqttMsg token)).propertiesOkay = true :=
    built.2
  rw [packets_of_okay okay, built.1]
  rfl

end IMqtt.Mosquitto.Publish
