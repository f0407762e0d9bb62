import IMqtt.Library.Custody
import IMqtt.Mosquitto.PublishSizes
import IMqtt.Paho.Publish

/-!
# A message is published with all its properties or not at all

Both back ends add one property after the other and note a failure in a flag.
One of them leaves the loop over the user properties at the first failure, the
other does not; the flag decides alone whether the list is handed over, and the
list is freed behind it.
-/

namespace IMqtt.Exchange.AllOrNothing

open IMqtt.Defines IMqtt.Message Custody

set_option autoImplicit false

/-- What a publish uses the library for, before it frees the property list. -/
inductive Use
  | added (succeeded : Bool)
  | handedOver (properties : List Property)
  deriving DecidableEq, Repr

abbrev Trace := List (Event Use (List Property))

def mosquittoEvent : Mosquitto.Publish.LibraryCall → Event Use (List Property)
  | .propertyAdd _ rc => .used (.added (rc == Mosquitto.mosqErrSuccess))
  | .publish call _ => .used (.handedOver call.properties)
  | .propertyFreeAll properties => .released properties

def pahoEvent : Paho.Publish.LibraryCall → Event Use (List Property)
  | .propertiesAdd _ rc => .used (.added (rc == Paho.mqttasyncSuccess))
  | .sendMessage call _ =>
      .used (.handedOver (call.msg.properties.map Paho.MQTTProperty.property))
  | .propertiesFree properties => .released (properties.map Paho.MQTTProperty.property)

def Use.list? : Use → Option (List Property)
  | .added _ => none
  | .handedOver properties => some properties

/-- The property lists handed to the library's publish function. -/
def handedOver (trace : Trace) : List (List Property) := (uses trace).filterMap Use.list?

/-- The user properties and one property of each other kind. -/
structure OneEach (pairs : List (Str × Str)) (properties : List Property) : Prop where
  userProps : userPairs properties = pairs
  single : ∀ identifier ∈ singleIdentifiers, (occurrences identifier properties).length = 1
  total : properties.length = pairs.length + singleIdentifiers.length

/-- The list `built` is freed once, behind everything else. It is handed over
once if every add has succeeded, and else not at all. -/
structure SendsWhole (pairs : List (Str × Str)) (built : List Property)
    (before after : Option Int) (status : ReasonCode) (trace : Trace) : Prop where
  released : ReleasedOnce [built] trace
  sent : .added false ∉ uses trace → handedOver trace = [built] ∧ OneEach pairs built
  refused : .added false ∈ uses trace →
    handedOver trace = [] ∧ status = .errorGeneral ∧ after = before

theorem count_single : ∀ identifier ∈ singleIdentifiers,
    singleIdentifiers.count identifier = 1 := by
  decide

theorem one_each_of_identifiers {pairs : List (Str × Str)} {single : List Property}
    (identifiers : (single.map Property.identifier).Perm singleIdentifiers) :
    OneEach pairs ((pairs.map fun pair => .userProperty pair.1 pair.2) ++ single) := by
  constructor
  · have owned : (pairs.map fun pair => Property.userProperty pair.1 pair.2).filterMap
        Property.stringPair? = pairs := by
      rw [List.filterMap_map]
      exact List.filterMap_some
    have others : single.filterMap Property.stringPair? = [] := by
      rw [List.filterMap_eq_nil_iff]
      intro property member
      have listed := identifiers.mem_iff.mp (List.mem_map_of_mem member)
      cases property with
      | userProperty name value => simp [singleIdentifiers, Property.identifier] at listed
      | _ => rfl
    rw [userPairs, List.filterMap_append, owned, others, List.append_nil]
  · intro identifier listed
    have owned : occurrences identifier
        (pairs.map fun pair => Property.userProperty pair.1 pair.2) = [] := by
      rw [occurrences, List.filter_eq_nil_iff]
      intro property member same
      rcases List.mem_map.mp member with ⟨pair, -, rfl⟩
      rw [← beq_iff_eq.mp same] at listed
      simp [singleIdentifiers, Property.identifier] at listed
    have counted : (occurrences identifier single).length =
        (single.map Property.identifier).count identifier := by
      rw [List.count, List.countP_map, List.countP_eq_length_filter]
      rfl
    rw [occurrences_append, owned, List.nil_append, counted, identifiers.count_eq]
    exact count_single identifier listed
  · rw [List.length_append, List.length_map, ← identifiers.length_eq, List.length_map]

/-- The trace of the adds so far, and the flag. -/
def AddsNoted (trace : Trace) (propertiesOkay : Bool) : Prop :=
  ∃ adds : List Bool, trace = (adds.map Use.added).map .used ∧
    (propertiesOkay = true ↔ false ∉ adds)

theorem adds_noted_none : AddsNoted [] true := by
  refine ⟨[], rfl, ?_⟩
  simp

theorem adds_noted_add {trace : Trace} {propertiesOkay : Bool}
    (noted : AddsNoted trace propertiesOkay) (succeeded : Bool) :
    AddsNoted (trace ++ [.used (.added succeeded)]) (propertiesOkay && succeeded) := by
  rcases noted with ⟨adds, shape, flag⟩
  refine ⟨adds ++ [succeeded], ?_, ?_⟩
  · rw [shape, List.map_append, List.map_append]
    rfl
  · rw [Bool.and_eq_true, flag, List.mem_append, List.mem_singleton, not_or]
    cases succeeded <;> simp

theorem lists_of_uses (results : List Bool) (lists : List (List Property)) :
    (results.map Use.added ++ lists.map Use.handedOver).filterMap Use.list? = lists := by
  have none_given : (results.map Use.added).filterMap Use.list? = [] := by
    rw [List.filterMap_map, List.filterMap_eq_nil_iff]
    intro _ _
    rfl
  rw [List.filterMap_append, none_given, List.nil_append, List.filterMap_map]
  exact List.filterMap_some

theorem failed_add_mem_iff (results : List Bool) (lists : List (List Property)) :
    Use.added false ∈ results.map Use.added ++ lists.map Use.handedOver ↔
      false ∈ results := by
  simp

/-- What both back ends do with the flag. -/
theorem sends_whole_of_adds_noted {pairs : List (Str × Str)} {built : List Property}
    {before after : Option Int} {status : ReasonCode} {adds trace : Trace}
    {propertiesOkay : Bool} (noted : AddsNoted adds propertiesOkay)
    (shape : trace = adds ++ (if propertiesOkay then [.used (.handedOver built)] else []) ++
      [.released built])
    (sent : propertiesOkay = true → OneEach pairs built)
    (refused : propertiesOkay = false → status = .errorGeneral ∧ after = before) :
    SendsWhole pairs built before after status trace := by
  rcases noted with ⟨results, listed, flag⟩
  have ordered : trace = (results.map Use.added ++
      (if propertiesOkay then [built] else []).map Use.handedOver).map .used ++
        [built].map .released := by
    rw [shape, listed, List.map_append]
    cases propertiesOkay <;> rfl
  have made : uses trace = results.map Use.added ++
      (if propertiesOkay then [built] else []).map Use.handedOver := by
    rw [ordered, uses_append, uses_of_used, uses_of_released, List.append_nil]
  have failed : Use.added false ∈ uses trace ↔ propertiesOkay = false := by
    rw [made, failed_add_mem_iff, ← Bool.not_eq_true, flag, not_not]
  have given : handedOver trace = if propertiesOkay then [built] else [] := by
    rw [handedOver, made, lists_of_uses]
  constructor
  · rw [ordered]
    exact released_once_behind_uses _ _
  · intro succeeded
    rw [failed, Bool.not_eq_false] at succeeded
    rw [given, if_pos succeeded]
    exact ⟨rfl, sent succeeded⟩
  · intro broken
    rw [failed] at broken
    rw [given, if_neg (by simp [broken])]
    exact ⟨rfl, refused broken⟩

section Mosquitto

open Mosquitto Mosquitto.Publish

theorem mosquitto_add_noted (library : Library) (call : PropertyAdd) (run : Publishing)
    (noted : AddsNoted (run.calls.map mosquittoEvent) run.propertiesOkay) :
    AddsNoted ((propertyAdd library call run).2.calls.map mosquittoEvent)
      (run.propertiesOkay && (propertyAdd library call run).1 == mosqErrSuccess) := by
  rw [property_add_calls, List.map_append]
  exact adds_noted_add noted _

theorem mosquitto_single_noted (library : Library) (call : PropertyAdd) (txt : Str)
    (run : Publishing)
    (noted : AddsNoted (run.calls.map mosquittoEvent) run.propertiesOkay) :
    AddsNoted ((addOrIgnore library call txt run).calls.map mosquittoEvent)
      (addOrIgnore library call txt run).propertiesOkay := by
  have added := mosquitto_add_noted library call run noted
  by_cases success : (propertyAdd library call run).1 = mosqErrSuccess
  · rw [success, beq_self_eq_true, Bool.and_true] at added
    rw [add_or_ignore_of_success success]
    exact added
  · rw [beq_false_of_ne success, Bool.and_false] at added
    rw [add_or_ignore_of_failure success]
    exact added

theorem mosquitto_user_props_noted (library : Library) (props : List (Str × Str))
    (run : Publishing)
    (noted : AddsNoted (run.calls.map mosquittoEvent) run.propertiesOkay) :
    AddsNoted ((addUserProps library props run).calls.map mosquittoEvent)
      (addUserProps library props run).propertiesOkay := by
  induction props generalizing run with
  | nil => exact noted
  | cons prop rest ih =>
      have added := mosquitto_add_noted library (userPropertyAdd prop) run noted
      rw [add_user_props_cons]
      split
      · rename_i failure
        rw [beq_false_of_ne failure, Bool.and_false] at added
        exact added
      · rename_i success
        rw [not_not.mp success, beq_self_eq_true, Bool.and_true] at added
        exact ih _ added

theorem mosquitto_adds_noted (library : Library) (mqttMsg : IMqttMessage)
    (token : Option Int) :
    AddsNoted
      ((addProperties library mqttMsg (start mqttMsg token)).calls.map mosquittoEvent)
      (addProperties library mqttMsg (start mqttMsg token)).propertiesOkay := by
  rw [addProperties]
  apply mosquitto_single_noted
  apply mosquitto_single_noted
  apply mosquitto_single_noted
  apply mosquitto_single_noted
  exact mosquitto_user_props_noted library _ _ adds_noted_none

/-- The list as the adds have left it. -/
def mosquittoBuilt (library : Library) (mqttMsg : IMqttMessage) (token : Option Int) :
    List Property :=
  (addProperties library mqttMsg (start mqttMsg token)).pProps

theorem mosquitto_trace (library : Library) (mqttMsg : IMqttMessage) (token : Option Int) :
    (publishAsync library mqttMsg token).2.calls.map mosquittoEvent =
      (addProperties library mqttMsg (start mqttMsg token)).calls.map mosquittoEvent ++
        (if (addProperties library mqttMsg (start mqttMsg token)).propertiesOkay then
          [.used (.handedOver (mosquittoBuilt library mqttMsg token))] else []) ++
        [.released (mosquittoBuilt library mqttMsg token)] := by
  by_cases okay :
      (addProperties library mqttMsg (start mqttMsg token)).propertiesOkay = true
  · simp only [publishAsync, handOver, if_pos okay]
    split <;> simp [mosquittoEvent, publishCall, Publishing.logged, mosquittoBuilt]
  · simp only [publishAsync, handOver, if_neg okay]
    simp [mosquittoEvent, Publishing.logged, mosquittoBuilt]

/-- The pairs that the C strings of the user properties carry. -/
def cPairs (mqttMsg : IMqttMessage) : List (Str × Str) :=
  mqttMsg.userProps.toList.map fun prop => (cStr prop.1, cStr prop.2)

theorem mosquitto_one_each (mqttMsg : IMqttMessage) :
    OneEach (cPairs mqttMsg) (wireProperties mqttMsg) := by
  have pairs : mqttMsg.userProps.toList.map userProperty =
      (cPairs mqttMsg).map fun pair => .userProperty pair.1 pair.2 := by
    rw [cPairs, List.map_map]
    rfl
  rw [wireProperties, pairs]
  exact one_each_of_identifiers (List.Perm.refl _)

theorem mosquitto_built {library : Library} (lawful : library.Lawful)
    {mqttMsg : IMqttMessage} {token : Option Int}
    (okay : (addProperties library mqttMsg (start mqttMsg token)).propertiesOkay = true) :
    mosquittoBuilt library mqttMsg token = wireProperties mqttMsg := by
  have tells := PublishSizes.add_properties_tell library mqttMsg token
  have added := add_properties_succeed lawful (tells.mp okay)
  exact added.1

theorem mosquitto_sends_whole {library : Library} (lawful : library.Lawful)
    (mqttMsg : IMqttMessage) (token : Option Int) :
    SendsWhole (cPairs mqttMsg) (mosquittoBuilt library mqttMsg token) token
      (publishAsync library mqttMsg token).2.token (publishAsync library mqttMsg token).1
      ((publishAsync library mqttMsg token).2.calls.map mosquittoEvent) := by
  have noted := mosquitto_adds_noted library mqttMsg token
  apply sends_whole_of_adds_noted noted (mosquitto_trace library mqttMsg token)
  · intro okay
    rw [mosquitto_built lawful okay]
    exact mosquitto_one_each mqttMsg
  · intro failed
    have broken := Bool.not_eq_true _ ▸ failed
    refine ⟨(refused_of_not_okay broken).1, ?_⟩
    rw [publish_async_token, handOver, if_neg broken]
    exact add_properties_token library mqttMsg (start mqttMsg token)

/-- Each recorded add is for a property of the message, with the answer that the
library gave for it. -/
def MosquittoAnswered (library : Library) (mqttMsg : IMqttMessage)
    (calls : List LibraryCall) : Prop :=
  ∀ call rc, .propertyAdd call rc ∈ calls →
    (∃ number proplist, rc = (library.propertyAdd number proplist call).1) ∧
      ∃ property ∈ wireProperties mqttMsg, call.property = some property

section Answers

variable {library : Library} {mqttMsg : IMqttMessage} {call : PropertyAdd} {run : Publishing}

theorem mosquitto_add_answered
    (listed : ∃ property ∈ wireProperties mqttMsg, call.property = some property)
    (answered : MosquittoAnswered library mqttMsg run.calls) :
    MosquittoAnswered library mqttMsg (propertyAdd library call run).2.calls := by
  intro other rc member
  rw [property_add_calls, List.mem_append, List.mem_singleton] at member
  rcases member with earlier | last
  · exact answered other rc earlier
  · cases last
    exact ⟨⟨_, _, rfl⟩, listed⟩

theorem mosquitto_single_answered (txt : Str)
    (listed : ∃ property ∈ wireProperties mqttMsg, call.property = some property)
    (answered : MosquittoAnswered library mqttMsg run.calls) :
    MosquittoAnswered library mqttMsg (addOrIgnore library call txt run).calls := by
  have added := mosquitto_add_answered listed answered
  by_cases success : (propertyAdd library call run).1 = mosqErrSuccess
  · rw [add_or_ignore_of_success success]
    exact added
  · rw [add_or_ignore_of_failure success]
    exact added

theorem mosquitto_user_props_answered (props : List (Str × Str)) {run : Publishing}
    (listed : ∀ prop ∈ props, userProperty prop ∈ wireProperties mqttMsg)
    (answered : MosquittoAnswered library mqttMsg run.calls) :
    MosquittoAnswered library mqttMsg (addUserProps library props run).calls := by
  induction props generalizing run with
  | nil => exact answered
  | cons prop rest ih =>
      have own : ∃ property ∈ wireProperties mqttMsg,
          (userPropertyAdd prop).property = some property :=
        ⟨userProperty prop, listed prop List.mem_cons_self, user_property_add_property prop⟩
      have added := mosquitto_add_answered own answered
      rw [add_user_props_cons]
      split
      · exact added
      · exact ih (fun other member => listed other (List.mem_cons_of_mem _ member)) added

theorem mosquitto_adds_answered (library : Library) (mqttMsg : IMqttMessage)
    (token : Option Int) :
    MosquittoAnswered library mqttMsg (publishAsync library mqttMsg token).2.calls := by
  have added : MosquittoAnswered library mqttMsg
      (addProperties library mqttMsg (start mqttMsg token)).calls := by
    have owned : ∀ prop ∈ mqttMsg.userProps.toList,
        userProperty prop ∈ wireProperties mqttMsg := by
      intro prop member
      exact List.mem_append_left _ (List.mem_map_of_mem member)
    have begun : MosquittoAnswered library mqttMsg (start mqttMsg token).calls := by
      intro call rc member
      cases member
    rw [addProperties]
    refine mosquitto_single_answered _ ⟨_, by simp [wireProperties], rfl⟩ ?_
    refine mosquitto_single_answered _ ⟨_, by simp [wireProperties], rfl⟩ ?_
    refine mosquitto_single_answered _ ⟨_, by simp [wireProperties], rfl⟩ ?_
    refine mosquitto_single_answered _ ⟨_, by simp [wireProperties], rfl⟩ ?_
    exact mosquitto_user_props_answered _ owned begun
  intro call rc member
  apply added
  rcases publish_async_calls library mqttMsg token with ⟨freed, calls⟩
  rw [calls, handOver] at member
  split at member <;> simpa using member

/-- A library that accepts every add gets the message with all its properties. -/
theorem mosquitto_accepted_is_published (lawful : library.Lawful)
    (accepts : ∀ number proplist call,
      (library.propertyAdd number proplist call).1 = mosqErrSuccess)
    (token : Option Int) :
    packets (publishAsync library mqttMsg token).2.calls =
      [publishCall mqttMsg (wireProperties mqttMsg)] := by
  apply publish_async_packets lawful
  intro rc member
  rcases mem_add_results.mp member with ⟨call, recorded⟩
  rcases (mosquitto_adds_answered library mqttMsg token call rc recorded).1 with
    ⟨number, proplist, answer⟩
  exact answer.trans (accepts number proplist call)

end Answers

end Mosquitto

section Paho

open Paho Paho.Publish

theorem paho_single_noted (library : Library) (prop : MQTTProperty) (txt : Str)
    (run : Publishing) (noted : AddsNoted (run.calls.map pahoEvent) run.propertiesOkay) :
    AddsNoted ((addOrIgnore library prop txt run).calls.map pahoEvent)
      (addOrIgnore library prop txt run).propertiesOkay := by
  have added := adds_noted_add noted
    ((library.propertiesAdd run.calls.length run.properties prop).1 == mqttasyncSuccess)
  have flag : (addOrIgnore library prop txt run).propertiesOkay = (run.propertiesOkay &&
      (library.propertiesAdd run.calls.length run.properties prop).1 ==
        mqttasyncSuccess) := by
    simp only [addOrIgnore]
    split <;> simp_all
  rw [add_or_ignore_calls, flag, List.map_append]
  exact added

theorem paho_user_props_noted (library : Library) (props : List (Str × Str))
    (run : Publishing) (noted : AddsNoted (run.calls.map pahoEvent) run.propertiesOkay) :
    AddsNoted ((addUserProps library props run).calls.map pahoEvent)
      (addUserProps library props run).propertiesOkay := by
  induction props generalizing run with
  | nil => exact noted
  | cons prop rest ih =>
      rw [addUserProps]
      apply ih
      exact paho_single_noted library _ _ run noted

theorem paho_adds_noted (library : Library) (mqttMsg : IMqttMessage) (token : Option Int) :
    AddsNoted ((addProperties library mqttMsg (start mqttMsg token)).calls.map pahoEvent)
      (addProperties library mqttMsg (start mqttMsg token)).propertiesOkay := by
  rw [addProperties]
  apply paho_single_noted
  apply paho_single_noted
  apply paho_single_noted
  apply paho_single_noted
  exact paho_user_props_noted library _ _ adds_noted_none

/-- The MQTT5 properties of the array as the adds have left it. -/
def pahoBuilt (library : Library) (mqttMsg : IMqttMessage) (token : Option Int) :
    List Property :=
  (addProperties library mqttMsg (start mqttMsg token)).properties.map MQTTProperty.property

theorem paho_trace (library : Library) (mqttMsg : IMqttMessage) (token : Option Int) :
    (publishAsync library mqttMsg token).2.calls.map pahoEvent =
      (addProperties library mqttMsg (start mqttMsg token)).calls.map pahoEvent ++
        (if (addProperties library mqttMsg (start mqttMsg token)).propertiesOkay then
          [.used (.handedOver (pahoBuilt library mqttMsg token))] else []) ++
        [.released (pahoBuilt library mqttMsg token)] := by
  by_cases okay :
      (addProperties library mqttMsg (start mqttMsg token)).propertiesOkay = true
  · simp [publishAsync, handOver, okay, pahoEvent, sendCall, pahoBuilt]
  · simp [publishAsync, handOver, okay, pahoEvent, pahoBuilt]

/-- The pairs that the pointers and lengths of the user properties describe. -/
def lenPairs (mqttMsg : IMqttMessage) : List (Str × Str) :=
  mqttMsg.userProps.toList.map fun prop =>
    ((lenString prop.1).bytes, (lenString prop.2).bytes)

theorem paho_one_each (mqttMsg : IMqttMessage) :
    OneEach (lenPairs mqttMsg)
      (((wireProperties mqttMsg).map MQTTProperty.copy).map MQTTProperty.property) := by
  have pairs : ((mqttMsg.userProps.toList.map userProperty).map MQTTProperty.copy).map
      MQTTProperty.property =
        (lenPairs mqttMsg).map fun pair => .userProperty pair.1 pair.2 := by
    rw [lenPairs, List.map_map, List.map_map, List.map_map]
    apply List.map_congr_left
    intro prop _
    simp only [Function.comp_apply, userProperty, MQTTProperty.copy, MQTTProperty.property,
      bytes_copy]
  rw [wireProperties, List.map_append, List.map_append, pairs]
  apply one_each_of_identifiers
  -- correlation data and response topic change places, as do the last two
  exact (List.Perm.swap _ _ _).trans (((List.Perm.swap _ _ _).cons _).cons _)

theorem adds_succeed_of_noted {calls : List LibraryCall}
    (noted : AddsNoted (calls.map pahoEvent) true) : AddsSucceed calls := by
  rcases noted with ⟨results, listed, flag⟩
  intro rc member
  rcases mem_add_results.mp member with ⟨prop, made⟩
  by_contra failure
  have event : pahoEvent (.propertiesAdd prop rc) = .used (.added false) := by
    simp [pahoEvent, failure]
  have noted_failure : pahoEvent (.propertiesAdd prop rc) ∈ calls.map pahoEvent :=
    List.mem_map_of_mem made
  rw [listed, event] at noted_failure
  have failed : false ∈ results := by simpa using noted_failure
  exact flag.mp rfl failed

theorem paho_built {library : Library} (lawful : library.Lawful)
    {mqttMsg : IMqttMessage} {token : Option Int}
    (okay : (addProperties library mqttMsg (start mqttMsg token)).propertiesOkay = true) :
    (addProperties library mqttMsg (start mqttMsg token)).properties =
      (wireProperties mqttMsg).map MQTTProperty.copy := by
  have noted := paho_adds_noted library mqttMsg token
  rw [okay] at noted
  have built := built_properties lawful mqttMsg (start mqttMsg token)
  exact (built (adds_succeed_of_noted noted)).2.1

theorem paho_sends_whole {library : Library} (lawful : library.Lawful)
    (mqttMsg : IMqttMessage) (token : Option Int) :
    SendsWhole (lenPairs mqttMsg) (pahoBuilt library mqttMsg token) token
      (publishAsync library mqttMsg token).2.token (publishAsync library mqttMsg token).1
      ((publishAsync library mqttMsg token).2.calls.map pahoEvent) := by
  have noted := paho_adds_noted library mqttMsg token
  apply sends_whole_of_adds_noted noted (paho_trace library mqttMsg token)
  · intro okay
    rw [pahoBuilt, paho_built lawful okay]
    exact paho_one_each mqttMsg
  · intro failed
    have broken := Bool.not_eq_true _ ▸ failed
    rcases refused_of_not_okay broken with ⟨status, -, unchanged⟩
    exact ⟨status, unchanged⟩

/-- Each recorded add is for a property of the message, with the answer that the
library gave for it. -/
def PahoAnswered (library : Library) (mqttMsg : IMqttMessage) (calls : List LibraryCall) :
    Prop :=
  ∀ prop rc, .propertiesAdd prop rc ∈ calls →
    (∃ number properties, rc = (library.propertiesAdd number properties prop).1) ∧
      prop ∈ wireProperties mqttMsg

section Answers

variable {library : Library} {mqttMsg : IMqttMessage} {run : Publishing}

theorem paho_single_answered {prop : MQTTProperty} (txt : Str)
    (listed : prop ∈ wireProperties mqttMsg)
    (answered : PahoAnswered library mqttMsg run.calls) :
    PahoAnswered library mqttMsg (addOrIgnore library prop txt run).calls := by
  intro other rc member
  rw [add_or_ignore_calls, List.mem_append, List.mem_singleton] at member
  rcases member with earlier | last
  · exact answered other rc earlier
  · cases last
    exact ⟨⟨_, _, rfl⟩, listed⟩

theorem paho_user_props_answered (props : List (Str × Str)) {run : Publishing}
    (listed : ∀ prop ∈ props, userProperty prop ∈ wireProperties mqttMsg)
    (answered : PahoAnswered library mqttMsg run.calls) :
    PahoAnswered library mqttMsg (addUserProps library props run).calls := by
  induction props generalizing run with
  | nil => exact answered
  | cons prop rest ih =>
      rw [addUserProps]
      refine ih (fun other member => listed other (List.mem_cons_of_mem _ member)) ?_
      exact paho_single_answered _ (listed prop List.mem_cons_self) answered

theorem paho_adds_answered (library : Library) (mqttMsg : IMqttMessage) (token : Option Int) :
    PahoAnswered library mqttMsg (publishAsync library mqttMsg token).2.calls := by
  have added : PahoAnswered library mqttMsg
      (addProperties library mqttMsg (start mqttMsg token)).calls := by
    have owned : ∀ prop ∈ mqttMsg.userProps.toList,
        userProperty prop ∈ wireProperties mqttMsg := by
      intro prop member
      exact List.mem_append_left _ (List.mem_map_of_mem member)
    have begun : PahoAnswered library mqttMsg (start mqttMsg token).calls := by
      intro prop rc member
      cases member
    rw [addProperties]
    refine paho_single_answered _ (by simp [wireProperties]) ?_
    refine paho_single_answered _ (by simp [wireProperties]) ?_
    refine paho_single_answered _ (by simp [wireProperties]) ?_
    refine paho_single_answered _ (by simp [wireProperties]) ?_
    exact paho_user_props_answered _ owned begun
  intro prop rc member
  apply added
  simp only [publishAsync, handOver] at member
  split at member <;> simpa using member

theorem paho_accepted_is_published (lawful : library.Lawful)
    (accepts : ∀ number properties prop,
      (library.propertiesAdd number properties prop).1 = mqttasyncSuccess)
    (token : Option Int) :
    packets (publishAsync library mqttMsg token).2.calls =
      [sendCall library mqttMsg ((wireProperties mqttMsg).map MQTTProperty.copy)] := by
  apply publish_async_packets lawful
  intro rc member
  rcases mem_add_results.mp member with ⟨prop, recorded⟩
  rcases (paho_adds_answered library mqttMsg token prop rc recorded).1 with
    ⟨number, properties, answer⟩
  exact answer.trans (accepts number properties prop)

end Answers

end Paho

/-- Whichever of the adds fail. -/
theorem publish_async_all_or_nothing {mosquitto : Mosquitto.Library} {paho : Paho.Library}
    (mosquittoLawful : mosquitto.Lawful) (pahoLawful : paho.Lawful)
    (mqttMsg : IMqttMessage) (token : Option Int) :
    SendsWhole (cPairs mqttMsg) (mosquittoBuilt mosquitto mqttMsg token) token
      (Mosquitto.Publish.publishAsync mosquitto mqttMsg token).2.token
      (Mosquitto.Publish.publishAsync mosquitto mqttMsg token).1
      ((Mosquitto.Publish.publishAsync mosquitto mqttMsg token).2.calls.map
        mosquittoEvent) ∧
    SendsWhole (lenPairs mqttMsg) (pahoBuilt paho mqttMsg token) token
      (Paho.Publish.publishAsync paho mqttMsg token).2.token
      (Paho.Publish.publishAsync paho mqttMsg token).1
      ((Paho.Publish.publishAsync paho mqttMsg token).2.calls.map pahoEvent) :=
  ⟨mosquitto_sends_whole mosquittoLawful mqttMsg token,
    paho_sends_whole pahoLawful mqttMsg token⟩

/-- Libraries that refuse one add each, with the list built before it. -/
def reluctantMosquitto : Mosquitto.Library :=
  { Mosquitto.willing with
    propertyAdd := fun number proplist call =>
      if number = 1 then (1, proplist) else Mosquitto.willing.propertyAdd number proplist call }

theorem reluctant_mosquitto_lawful : reluctantMosquitto.Lawful where
  add_appends number proplist call property describes success := by
    by_cases refused : number = 1
    · simp [reluctantMosquitto, refused, Mosquitto.mosqErrSuccess] at success
    · simp [reluctantMosquitto, refused, Mosquitto.willing, describes]
  read_string_pair _ _ := rfl
  read_binary _ := rfl
  read_response_topic _ := rfl
  read_content_type _ := rfl
  read_byte _ := rfl

def reluctantPaho : Paho.Library :=
  { Paho.willing with
    propertiesAdd := fun number properties prop =>
      if number = 1 then (1, properties)
      else Paho.willing.propertiesAdd number properties prop }

theorem reluctant_paho_lawful : reluctantPaho.Lawful := by
  intro number properties prop success
  by_cases refused : number = 1
  · simp [reluctantPaho, refused, Paho.mqttasyncSuccess] at success
  · simp [reluctantPaho, refused, Paho.willing]

def twoProps : IMqttMessage where
  topic := text "t"
  payload := []
  qos := ⟨0⟩
  retain := false
  userProps := ((∅ : UserProps).insertIfNew (text "a") []).insertIfNew (text "b") []

theorem refused_add_sends_nothing :
    SendsWhole (cPairs twoProps) (mosquittoBuilt reluctantMosquitto twoProps (some 3)) (some 3)
      (Mosquitto.Publish.publishAsync reluctantMosquitto twoProps (some 3)).2.token
      (Mosquitto.Publish.publishAsync reluctantMosquitto twoProps (some 3)).1
      ((Mosquitto.Publish.publishAsync reluctantMosquitto twoProps (some 3)).2.calls.map
        mosquittoEvent) ∧
    SendsWhole (lenPairs twoProps) (pahoBuilt reluctantPaho twoProps (some 3)) (some 3)
      (Paho.Publish.publishAsync reluctantPaho twoProps (some 3)).2.token
      (Paho.Publish.publishAsync reluctantPaho twoProps (some 3)).1
      ((Paho.Publish.publishAsync reluctantPaho twoProps (some 3)).2.calls.map pahoEvent) :=
  publish_async_all_or_nothing reluctant_mosquitto_lawful reluctant_paho_lawful twoProps
    (some 3)

end IMqtt.Exchange.AllOrNothing
