import IMqtt.Mosquitto.Receive

/-!
# The buffers that `onMessageCb` reads into

Each read stores a fresh buffer through its out-parameter, and the caller owns
it. The callback copies the contents and gives no buffer back, so a client holds
every one of them for as long as it receives.
-/

namespace IMqtt.Mosquitto.ReceiveBuffers

open IMqtt.Defines IMqtt.Message IMqtt.Mosquitto.Receive

set_option autoImplicit false

abbrev Buffers := List (List UInt8)

/-- One call of the message callback by the library. -/
structure Arrival where
  pMsg : MosquittoMessage
  pProps : List Property
  deriving DecidableEq, Repr

/-- The buffers held behind one more call; it releases none. -/
def receive (library : Library) (fuel : Nat) (arrival : Arrival) (held : Buffers) :
    Option Buffers :=
  (onMessageCb library fuel arrival.pMsg arrival.pProps).map fun run => held ++ run.buffers

def receiveAll (library : Library) (fuel : Nat) : List Arrival → Buffers → Option Buffers
  | [], held => some held
  | arrival :: rest, held =>
      (receive library fuel arrival held).bind (receiveAll library fuel rest)

/-- The kinds of properties whose values are read into buffers. -/
def bufferedKinds : List Identifier :=
  [.userProperty, .correlationData, .responseTopic, .contentType]

def Unbuffered (pProps : List Property) : Prop :=
  ∀ property ∈ pProps, property.identifier ∉ bufferedKinds

instance (pProps : List Property) : Decidable (Unbuffered pProps) :=
  inferInstanceAs (Decidable (∀ property ∈ pProps, property.identifier ∉ bufferedKinds))

def pairBuffers (pairs : List (Str × Str)) : Buffers :=
  pairs.flatMap fun pair => [pair.1, pair.2]

/-- What the reads hand out for one list. -/
def copies (pProps : List Property) : Buffers :=
  pairBuffers (userPairs pProps) ++
    (((first .correlationData pProps).bind Property.binary?).toList ++
    (((first .responseTopic pProps).bind Property.string?).toList ++
    ((first .contentType pProps).bind Property.string?).toList))

theorem take_property_buffers (properties : List Property) (run : Receiving) :
    ((properties.filter isUserProperty).foldl takeProperty run).buffers =
      run.buffers ++ pairBuffers (userPairs properties) := by
  induction properties generalizing run with
  | nil => exact (List.append_nil _).symm
  | cons property rest ih =>
      cases property with
      | userProperty name value =>
          have taken : (takeProperty run (.userProperty name value)).buffers =
              (run.buffers ++ [name]) ++ [value] := rfl
          have walked := ih (takeProperty run (.userProperty name value))
          rw [taken, List.append_assoc, List.append_assoc] at walked
          exact walked
      | _ => exact ih run

section Reads

variable {library : Library} (lawful : library.Lawful)

include lawful

theorem read_correlation_data_buffers (pProps : List Property) (run : Receiving) :
    (readCorrelationData library pProps run).buffers =
      run.buffers ++ ((first .correlationData pProps).bind Property.binary?).toList := by
  rw [readCorrelationData, lawful.read_binary, copyBinary, head_found]
  cases (first .correlationData pProps).bind Property.binary? <;> rfl

theorem read_response_topic_buffers (pProps : List Property) (run : Receiving) :
    (readResponseTopic library pProps run).buffers =
      run.buffers ++ ((first .responseTopic pProps).bind Property.string?).toList := by
  rw [readResponseTopic, lawful.read_response_topic, copyString, head_found]
  cases (first .responseTopic pProps).bind Property.string? <;> rfl

theorem read_content_type_buffers (pProps : List Property) (run : Receiving) :
    (readContentType library pProps run).buffers =
      run.buffers ++ ((first .contentType pProps).bind Property.string?).toList := by
  rw [readContentType, lawful.read_content_type, copyString, head_found]
  cases (first .contentType pProps).bind Property.string? <;> rfl

theorem receive_holds_copies {fuel : Nat} {arrival : Arrival}
    (enough : arrival.pProps.length < fuel) (held : Buffers) :
    receive library fuel arrival held = some (held ++ copies arrival.pProps) := by
  have walked := read_user_props_folds lawful.read_string_pair enough
    { mqttMessage := startMessage arrival.pMsg
      log := [⟨.debug, text "Mosquitto received message"⟩] }
  have formatted : ∀ run : Receiving,
      (readFormatIndicator library arrival.pProps run).buffers = run.buffers := fun _ => rfl
  rw [receive, onMessageCb, walked, Option.map_some, Option.map_some, formatted,
    read_content_type_buffers lawful, read_response_topic_buffers lawful,
    read_correlation_data_buffers lawful, take_property_buffers, List.nil_append, copies,
    List.append_assoc, List.append_assoc]

theorem receive_all_holds_copies {fuel : Nat} {arrivals : List Arrival}
    (enough : ∀ arrival ∈ arrivals, arrival.pProps.length < fuel) (held : Buffers) :
    receiveAll library fuel arrivals held =
      some (held ++ arrivals.flatMap fun arrival => copies arrival.pProps) := by
  induction arrivals generalizing held with
  | nil => simp [receiveAll]
  | cons arrival rest ih =>
      have first := receive_holds_copies lawful (enough arrival List.mem_cons_self) held
      have later := ih fun other member => enough other (List.mem_cons_of_mem _ member)
      rw [receiveAll, first, Option.bind_some, later, List.flatMap_cons, List.append_assoc]

end Reads

theorem pair_buffers_nil_iff (pProps : List Property) :
    pairBuffers (userPairs pProps) = [] ↔
      ∀ property ∈ pProps, property.identifier ≠ .userProperty := by
  have pairs_nil : pairBuffers (userPairs pProps) = [] ↔ userPairs pProps = [] := by
    cases userPairs pProps <;> simp [pairBuffers]
  rw [pairs_nil, userPairs, List.filterMap_eq_nil_iff]
  apply forall₂_congr
  intro property _
  cases property <;> simp [Property.stringPair?, Property.identifier]

theorem first_value_nil_iff {Value : Type} {value : Property → Option Value}
    {identifier : Identifier}
    (valued : ∀ property : Property, property.identifier = identifier →
      (value property).isSome) (pProps : List Property) :
    ((first identifier pProps).bind value).toList = [] ↔
      ∀ property ∈ pProps, property.identifier ≠ identifier := by
  cases found : first identifier pProps with
  | none =>
      have nowhere := List.find?_eq_none.mp found
      constructor
      · intro _ property member same
        exact nowhere property member (beq_iff_eq.mpr same)
      · intro _
        rfl
  | some property =>
      have named : property.identifier = identifier := by
        rw [first] at found
        simpa using List.find?_some found
      constructor
      · intro nothing
        have present := valued property named
        rw [Option.toList_eq_nil_iff, Option.bind_some] at nothing
        rw [nothing] at present
        cases present
      · intro absent
        exact absurd named (absent property (List.mem_of_find?_eq_some found))

theorem binary_of_correlation_data (property : Property)
    (named : property.identifier = .correlationData) : property.binary?.isSome := by
  cases property with
  | correlationData value => rfl
  | _ => cases named

theorem string_of_response_topic (property : Property)
    (named : property.identifier = .responseTopic) : property.string?.isSome := by
  cases property with
  | responseTopic value => rfl
  | _ => cases named

theorem string_of_content_type (property : Property)
    (named : property.identifier = .contentType) : property.string?.isSome := by
  cases property with
  | contentType value => rfl
  | _ => cases named

theorem copies_nil_iff (pProps : List Property) :
    copies pProps = [] ↔ Unbuffered pProps := by
  rw [copies, List.append_eq_nil_iff, List.append_eq_nil_iff, List.append_eq_nil_iff,
    pair_buffers_nil_iff, first_value_nil_iff binary_of_correlation_data,
    first_value_nil_iff string_of_response_topic,
    first_value_nil_iff string_of_content_type]
  constructor
  · rintro ⟨users, correlations, topics, types⟩ property member kind
    simp only [bufferedKinds, List.mem_cons, List.not_mem_nil, or_false] at kind
    rcases kind with user | correlation | topic | type
    · exact users property member user
    · exact correlations property member correlation
    · exact topics property member topic
    · exact types property member type
  · intro unbuffered
    refine ⟨?_, ?_, ?_, ?_⟩ <;> intro property member same <;>
      exact unbuffered property member (same ▸ by decide)

/-- However many messages are received. -/
theorem buffers_given_back_iff {library : Library} (lawful : library.Lawful) {fuel : Nat}
    {arrivals : List Arrival}
    (enough : ∀ arrival ∈ arrivals, arrival.pProps.length < fuel) (held : Buffers) :
    ∃ holding, receiveAll library fuel arrivals held = some holding ∧
      (holding = held ↔ ∀ arrival ∈ arrivals, Unbuffered arrival.pProps) := by
  refine ⟨_, receive_all_holds_copies lawful enough held, ?_⟩
  rw [List.append_right_eq_self, List.flatMap_eq_nil_iff]
  apply forall₂_congr
  intro arrival _
  exact copies_nil_iff arrival.pProps

def plainArrival : Arrival :=
  ⟨⟨1, text "t", [], 0, 0, false⟩, [.payloadFormatIndicator 1, .other 2]⟩

theorem plain_arrivals_hold_nothing :
    ∃ holding, receiveAll willing 3 [plainArrival, plainArrival] [] = some holding ∧
      (holding = [] ↔
        ∀ arrival ∈ [plainArrival, plainArrival], Unbuffered arrival.pProps) :=
  buffers_given_back_iff willing_lawful (by decide) []

def taggedArrival : Arrival :=
  ⟨⟨1, text "t", [], 0, 0, false⟩, [.userProperty (text "k") (text "v")]⟩

theorem user_property_buffers_are_kept :
    receiveAll willing 2 [taggedArrival] [] = some [text "k", text "v"] ∧
      receiveAll willing 2 [taggedArrival] [] ≠ some [] := by
  decide

end IMqtt.Mosquitto.ReceiveBuffers
