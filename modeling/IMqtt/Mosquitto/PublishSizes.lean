import IMqtt.Mosquitto.Publish

/-!
# The sizes `PublishAsync` hands over

`payload.size()` and `correlationDataProps.size()` are converted to `uint16_t`.
The conversions wrap, nothing checks them, and the call still reports success.
-/

namespace IMqtt.Mosquitto.PublishSizes

open IMqtt.Defines IMqtt.Message IMqtt.Mosquitto.Publish

set_option autoImplicit false

/-- The correlation data lengths handed to the property list. -/
def correlationLengths (calls : List LibraryCall) : List UInt16 :=
  calls.filterMap fun call =>
    match call with
    | .propertyAdd (.binary .correlationData _ len) _ => some len
    | _ => none

theorem correlation_lengths_append (before after : List LibraryCall) :
    correlationLengths (before ++ after) =
      correlationLengths before ++ correlationLengths after :=
  List.filterMap_append

/-- Both sizes fit the type they are converted to. -/
def Fits (mqttMsg : IMqttMessage) : Prop :=
  mqttMsg.payload.length ≤ 65535 ∧ mqttMsg.correlationDataProps.length ≤ 65535

/-- Whatever is handed over has the message's sizes, and a message that does
not fit is refused. -/
structure KeepsSizes (library : Library) (mqttMsg : IMqttMessage) (token : Option Int) :
    Prop where
  payload : ∀ packet ∈ packets (publishAsync library mqttMsg token).2.calls,
    packet.payloadlen = mqttMsg.payload.length
  correlationData : ∀ packet ∈ packets (publishAsync library mqttMsg token).2.calls,
    ∃ len, correlationLengths (publishAsync library mqttMsg token).2.calls = [len] ∧
      len.toNat = mqttMsg.correlationDataProps.length
  refused : ¬ Fits mqttMsg →
    (publishAsync library mqttMsg token).1 ≠ .okay ∧
      packets (publishAsync library mqttMsg token).2.calls = []

section Adds

theorem adds_succeed_snoc (before : List LibraryCall) (call : PropertyAdd) (rc : Int) :
    AddsSucceed (before ++ [.propertyAdd call rc]) ↔
      AddsSucceed before ∧ rc = mosqErrSuccess := by
  constructor
  · intro succeed
    exact ⟨adds_succeed_append succeed, adds_succeed_last succeed⟩
  · rintro ⟨succeed, success⟩ result member
    rw [add_results_append, List.mem_append] at member
    rcases member with earlier | last
    · exact succeed result earlier
    · simp only [addResults, List.filterMap_cons, List.filterMap_nil,
        List.mem_singleton] at last
      rw [last]
      exact success

/-- `propertiesOkay` tells whether every add so far has succeeded. -/
def OkayTells (run : Publishing) : Prop :=
  run.propertiesOkay = true ↔ AddsSucceed run.calls

variable (library : Library) (call : PropertyAdd) (txt : Str) {run : Publishing}

theorem ignored_tells (failed : (propertyAdd library call run).1 ≠ mosqErrSuccess) :
    OkayTells (ignoreMessage txt (propertyAdd library call run).2) := by
  constructor
  · intro okay
    cases okay
  · intro succeed
    have listed : AddsSucceed (propertyAdd library call run).2.calls := succeed
    rw [property_add_calls, adds_succeed_snoc] at listed
    exact absurd listed.2 failed

theorem added_tells (tells : OkayTells run)
    (success : (propertyAdd library call run).1 = mosqErrSuccess) :
    OkayTells (propertyAdd library call run).2 := by
  have okay : (propertyAdd library call run).2.propertiesOkay = run.propertiesOkay := rfl
  rw [OkayTells, okay, property_add_calls, adds_succeed_snoc]
  constructor
  · intro good
    exact ⟨tells.mp good, success⟩
  · intro succeed
    exact tells.mpr succeed.1

theorem add_or_ignore_tells (tells : OkayTells run) :
    OkayTells (addOrIgnore library call txt run) := by
  by_cases success : (propertyAdd library call run).1 = mosqErrSuccess
  · rw [add_or_ignore_of_success success]
    exact added_tells library call tells success
  · rw [add_or_ignore_of_failure success]
    exact ignored_tells library call txt success

theorem add_user_props_tell (props : List (Str × Str)) (tells : OkayTells run) :
    OkayTells (addUserProps library props run) := by
  induction props generalizing run with
  | nil => exact tells
  | cons prop rest ih =>
      rw [add_user_props_cons]
      by_cases success : (propertyAdd library (userPropertyAdd prop) run).1 = mosqErrSuccess
      · rw [if_neg (not_not_intro success)]
        exact ih (added_tells library _ tells success)
      · rw [if_pos success]
        exact ignored_tells library _ _ success

theorem add_properties_tell (mqttMsg : IMqttMessage) (token : Option Int) :
    OkayTells (addProperties library mqttMsg (start mqttMsg token)) := by
  have fresh : OkayTells (start mqttMsg token) := by
    constructor
    · intro _ rc member
      cases member
    · intro _
      rfl
  have owned := add_user_props_tell library mqttMsg.userProps.toList fresh
  have correlated := add_or_ignore_tells library
    (.binary .correlationData mqttMsg.correlationDataProps
      (UInt16.ofNat mqttMsg.correlationDataProps.length))
    (text "Invalid MQTT correlation data property - ignoring message") owned
  have answered := add_or_ignore_tells library (.string .responseTopic mqttMsg.responseTopic)
    (text "Invalid MQTT response topic - ignoring message") correlated
  have typed := add_or_ignore_tells library (.string .contentType mqttMsg.payloadContentType)
    (text "Invalid MQTT content type - ignoring message") answered
  exact add_or_ignore_tells library _ _ typed

end Adds

section Lengths

variable (library : Library)

theorem property_add_lengths (call : PropertyAdd) (run : Publishing) :
    correlationLengths (propertyAdd library call run).2.calls =
      correlationLengths run.calls ++
        correlationLengths [.propertyAdd call (propertyAdd library call run).1] := by
  rw [property_add_calls, correlation_lengths_append]

theorem add_or_ignore_lengths (call : PropertyAdd) (txt : Str) (run : Publishing) :
    correlationLengths (addOrIgnore library call txt run).calls =
      correlationLengths run.calls ++
        correlationLengths [.propertyAdd call (propertyAdd library call run).1] := by
  rw [← property_add_lengths]
  simp only [addOrIgnore]
  split <;> rfl

theorem add_user_props_lengths (props : List (Str × Str)) (run : Publishing) :
    correlationLengths (addUserProps library props run).calls =
      correlationLengths run.calls := by
  induction props generalizing run with
  | nil => rfl
  | cons prop rest ih =>
      have kept : correlationLengths
          (propertyAdd library (userPropertyAdd prop) run).2.calls =
            correlationLengths run.calls := by
        rw [property_add_lengths]
        exact List.append_nil _
      rw [← kept]
      simp only [addUserProps]
      split
      · rfl
      · exact ih _

/-- The correlation data is added once, with its length taken modulo 2^16. -/
theorem add_properties_lengths (mqttMsg : IMqttMessage) (token : Option Int) :
    correlationLengths (addProperties library mqttMsg (start mqttMsg token)).calls =
      [UInt16.ofNat mqttMsg.correlationDataProps.length] := by
  simp only [addProperties, addFormatIndicator, addContentType, addResponseTopic,
    addCorrelationData, add_or_ignore_lengths, add_user_props_lengths]
  rfl

end Lengths

variable (library : Library) (mqttMsg : IMqttMessage) (token : Option Int)

/-- `pProps` and `propertiesOkay` behind the adds. -/
def built : Publishing := addProperties library mqttMsg (start mqttMsg token)

theorem publish_async_lengths :
    correlationLengths (publishAsync library mqttMsg token).2.calls =
      [UInt16.ofNat mqttMsg.correlationDataProps.length] := by
  rcases publish_async_calls library mqttMsg token with ⟨freed, calls⟩
  rw [calls, correlation_lengths_append, handOver]
  have lengths := add_properties_lengths library mqttMsg token
  split
  · simp only [correlation_lengths_append, lengths]
    rfl
  · rw [lengths]
    rfl

theorem publish_async_adds :
    AddsSucceed (publishAsync library mqttMsg token).2.calls ↔
      (built library mqttMsg token).propertiesOkay = true := by
  have results : addResults (publishAsync library mqttMsg token).2.calls =
      addResults (built library mqttMsg token).calls := by
    rcases publish_async_calls library mqttMsg token with ⟨freed, calls⟩
    rw [calls, add_results_append, handOver]
    split
    · simp [addResults, built]
    · simp [addResults, built]
  rw [AddsSucceed, results]
  exact (add_properties_tell library mqttMsg token).symm

theorem payload_length_sent (pProps : List Property) :
    (publishCall mqttMsg pProps).payloadlen = ((mqttMsg.payload.length % 65536 : Nat) : Int) := by
  rw [publishCall]
  exact congrArg Int.ofNat UInt16.toNat_ofNat'

/-- With a library that takes every property. -/
theorem keeps_sizes_of_adds_succeed
    (succeed : AddsSucceed (publishAsync library mqttMsg token).2.calls) :
    KeepsSizes library mqttMsg token ↔ Fits mqttMsg := by
  have okay := (publish_async_adds library mqttMsg token).mp succeed
  have sent := packets_of_okay okay
  constructor
  · intro keeps
    by_contra oversized
    have nothing := (keeps.refused oversized).2
    rw [sent] at nothing
    cases nothing
  · intro fits
    constructor
    · intro packet member
      rw [sent, List.mem_singleton] at member
      rw [member, payload_length_sent, Nat.mod_eq_of_lt (Nat.lt_succ_of_le fits.1)]
    · intro packet _
      refine ⟨_, publish_async_lengths library mqttMsg token, ?_⟩
      exact UInt16.toNat_ofNat_of_lt' (Nat.lt_succ_of_le fits.2)
    · intro oversized
      exact absurd fits oversized

theorem keeps_sizes_of_add_refused
    (refused : ¬ AddsSucceed (publishAsync library mqttMsg token).2.calls) :
    KeepsSizes library mqttMsg token := by
  rw [publish_async_adds] at refused
  rcases refused_of_not_okay refused with ⟨status, nothing⟩
  constructor
  · intro packet member
    rw [nothing] at member
    cases member
  · intro packet member
    rw [nothing] at member
    cases member
  · intro _
    rw [status]
    exact ⟨by decide, nothing⟩

theorem willing_adds_succeed :
    AddsSucceed (publishAsync willing mqttMsg token).2.calls := by
  have always : ∀ call run, (propertyAdd willing call run).1 = mosqErrSuccess :=
    fun _ _ => rfl
  have added : ∀ call txt (run : Publishing),
      (addOrIgnore willing call txt run).propertiesOkay = run.propertiesOkay := by
    intro call txt run
    simp only [addOrIgnore, always call run]
    rfl
  have owned : ∀ props (run : Publishing),
      (addUserProps willing props run).propertiesOkay = run.propertiesOkay := by
    intro props
    induction props with
    | nil =>
        intro run
        rfl
    | cons prop rest ih =>
        intro run
        simp only [addUserProps, always (userPropertyAdd prop) run]
        exact ih _
  rw [publish_async_adds, built, addProperties, addFormatIndicator, added, addContentType,
    added, addResponseTopic, added, addCorrelationData, added, owned]
  rfl

/-- Whatever the library does, nothing is shortened: exactly the messages both
of whose sizes fit 16 bits. -/
theorem keeps_sizes_iff_fits :
    (∀ library token, KeepsSizes library mqttMsg token) ↔ Fits mqttMsg := by
  constructor
  · intro keeps
    exact (keeps_sizes_of_adds_succeed willing mqttMsg none
      (willing_adds_succeed mqttMsg none)).mp (keeps willing none)
  · intro fits library token
    by_cases succeed : AddsSucceed (publishAsync library mqttMsg token).2.calls
    · exact (keeps_sizes_of_adds_succeed library mqttMsg token succeed).mpr fits
    · exact keeps_sizes_of_add_refused library mqttMsg token succeed

/-- A payload that is one byte longer than a `uint16_t` counts. -/
def oversized : IMqttMessage where
  topic := text "t"
  payload := List.replicate 65536 1
  qos := ⟨1⟩
  retain := false

theorem oversized_payload_is_sent_empty :
    ¬ (∀ library token, KeepsSizes library oversized token) ∧
      (publishAsync willing oversized none).1 = .okay ∧
      ∃ packet, packets (publishAsync willing oversized none).2.calls = [packet] ∧
        packet.payloadlen = 0 := by
  have length : oversized.payload.length = 65536 := List.length_replicate
  have okay := (publish_async_adds willing oversized none).mp
    (willing_adds_succeed oversized none)
  refine ⟨?_, ?_, _, packets_of_okay okay, ?_⟩
  · intro keeps
    have fits := (keeps_sizes_of_adds_succeed willing oversized none
      (willing_adds_succeed oversized none)).mp (keeps willing none)
    have short := fits.1
    omega
  · unfold built at okay
    simp only [publishAsync, handOver, if_pos okay]
    rfl
  · rw [payload_length_sent, length]
    rfl

end IMqtt.Mosquitto.PublishSizes
