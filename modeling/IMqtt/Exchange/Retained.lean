import IMqtt.Library.Subscription
import IMqtt.Mosquitto.Commands
import IMqtt.Paho.Commands

/-!
# What `getRetained` does with either back end

`MosquittoClient` asks for no retained messages with Retain Handling 2, as the
interface says. `PahoClient` writes the 2 to Retain As Published, so its Retain
Handling is always 0 and the broker sends what it holds.
-/

namespace IMqtt.Exchange.Retained

open IMqtt.Client IMqtt.Defines IMqtt.Message Subscription

set_option autoImplicit false

universe u

variable {Message : Type u}

/-- How the Paho library encodes the options, which are fields of a structure. It
is given no Retain Handling other than those of the standard. A Retain As
Published other than 0 and 1, such as the wrapper writes, is assumed not to spill
into the bits of Retain Handling. -/
structure PahoEncoding where
  options : Paho.Commands.SubscribeCall → Options
  noLocal : ∀ call, call.subscribeOptions.noLocal ≤ 1 →
    ((options call).noLocal = true ↔ call.subscribeOptions.noLocal = 1)
  retainHandling : ∀ call, call.subscribeOptions.retainHandling ≤ 2 →
    (options call).retainHandling = call.subscribeOptions.retainHandling.toNat

/-- How libmosquitto encodes them, which are bits of an int. -/
structure MosquittoEncoding where
  options : Mosquitto.Commands.SubscribeCall → Options
  noLocal : ∀ call, (options call).noLocal = true ↔ call.options.toNat / 4 % 2 = 1
  retainHandling : ∀ call, (options call).retainHandling = call.options.toNat / 16 % 4

/-- The arguments of one `SubscribeAsync`, and the retained messages the broker
holds when it is called. -/
structure Subscribing (Message : Type u) where
  topic : Str
  qos : QOS
  getRetained : Bool
  store : List Message

/-- Both libraries take the filter as a C string. -/
def pahoRequest (encoding : PahoEncoding) (params : InitializeParameters)
    (call : Subscribing Message) : Request Str Message where
  filter := cStr call.topic
  options := encoding.options
    (Paho.Commands.subscribeCall params call.topic call.qos call.getRetained)
  store := call.store

def mosquittoRequest (encoding : MosquittoEncoding) (params : InitializeParameters)
    (call : Subscribing Message) : Request Str Message where
  filter := cStr call.topic
  options := encoding.options
    (Mosquitto.Commands.subscribeCall params call.topic call.qos call.getRetained)
  store := call.store

/-- The retained messages that match. -/
def held (broker : Broker Str Message) (call : Subscribing Message) : List Message :=
  call.store.filter (broker.matching (cStr call.topic))

/-- What the user of the interface asks for. -/
def wanted (broker : Broker Str Message) (call : Subscribing Message) : List Message :=
  if call.getRetained then held broker call else []

variable (pahoEncoding : PahoEncoding) (mosquittoEncoding : MosquittoEncoding)
  (broker : Broker Str Message) (params : InitializeParameters)

/-- Each subscription is answered as asked, with either back end. -/
structure Honoured (calls : List (Subscribing Message)) : Prop where
  paho : answers broker [] (calls.map (pahoRequest pahoEncoding params)) =
    calls.map (wanted broker)
  mosquitto : answers broker [] (calls.map (mosquittoRequest mosquittoEncoding params)) =
    calls.map (wanted broker)

theorem paho_retain_handling (call : Subscribing Message) :
    (pahoRequest pahoEncoding params call).options.retainHandling = 0 := by
  have standard : (0 : UInt8) ≤ 2 := by decide
  exact pahoEncoding.retainHandling _ standard

theorem mosquitto_retain_handling (call : Subscribing Message) :
    (mosquittoRequest mosquittoEncoding params call).options.retainHandling =
      if call.getRetained then 0 else 2 := by
  rw [mosquittoRequest, mosquittoEncoding.retainHandling]
  simp only [Mosquitto.Commands.subscribeCall, Mosquitto.Commands.subscribeOptions]
  cases params.allowLocalTopics <;> cases call.getRetained <;> rfl

theorem paho_answers (calls : List (Subscribing Message)) :
    answers broker [] (calls.map (pahoRequest pahoEncoding params)) =
      calls.map (held broker) := by
  rw [answers_eq_sent]
  · rw [List.map_map]
    apply List.map_congr_left
    intro call _
    have always := paho_retain_handling pahoEncoding params call
    rw [Function.comp_apply, sent, if_pos always]
    rfl
  · intro request member
    rw [List.mem_map] at member
    rcases member with ⟨call, _, rfl⟩
    exact .inl (paho_retain_handling pahoEncoding params call)

theorem mosquitto_answers (calls : List (Subscribing Message)) :
    answers broker [] (calls.map (mosquittoRequest mosquittoEncoding params)) =
      calls.map (wanted broker) := by
  rw [answers_eq_sent]
  · rw [List.map_map]
    apply List.map_congr_left
    intro call _
    have handling := mosquitto_retain_handling mosquittoEncoding params call
    rw [Function.comp_apply, sent, handling, wanted]
    cases call.getRetained <;> rfl
  · intro request member
    rw [List.mem_map] at member
    rcases member with ⟨call, _, rfl⟩
    rw [mosquitto_retain_handling]
    cases call.getRetained
    · exact .inr rfl
    · exact .inl rfl

/-- Exactly the sequences in which every call asks for the retained messages,
or there are none for its filter. -/
theorem retained_honoured_iff (calls : List (Subscribing Message)) :
    Honoured pahoEncoding mosquittoEncoding broker params calls ↔
      ∀ call ∈ calls, call.getRetained = true ∨
        ∀ message ∈ call.store, broker.matching (cStr call.topic) message = false := by
  have answered : Honoured pahoEncoding mosquittoEncoding broker params calls ↔
      calls.map (held broker) = calls.map (wanted broker) := by
    constructor
    · intro honoured
      rw [← paho_answers pahoEncoding broker params calls]
      exact honoured.paho
    · intro same
      constructor
      · rw [paho_answers, same]
      · exact mosquitto_answers mosquittoEncoding broker params calls
  rw [answered, List.map_inj_left]
  constructor
  · intro same call member
    have one := same call member
    cases asked : call.getRetained with
    | true => exact .inl rfl
    | false =>
        rw [wanted, asked, if_neg Bool.false_ne_true, held, List.filter_eq_nil_iff] at one
        refine .inr ?_
        intro message stored
        exact Bool.not_eq_true _ ▸ one message stored
  · intro condition call member
    rw [wanted]
    rcases condition call member with asked | nothing
    · rw [if_pos asked]
    · have empty : held broker call = [] := by
        rw [held, List.filter_eq_nil_iff]
        intro message stored
        rw [nothing message stored]
        exact Bool.false_ne_true
      rw [empty, ite_self]

/-- The libraries' encodings, by way of the options byte. -/
def pahoBits : PahoEncoding where
  options call := ofByte (toByte call.qos.toNat call.subscribeOptions.noLocal.toNat
    call.subscribeOptions.retainAsPublished.toNat call.subscribeOptions.retainHandling.toNat)
  noLocal := by
    intro call small
    rw [UInt8.le_iff_toNat_le] at small
    have bound : call.subscribeOptions.noLocal.toNat ≤ 1 := small
    rw [of_byte_to_byte, decide_eq_true_eq, ← UInt8.toNat_inj]
    have one : (1 : UInt8).toNat = 1 := rfl
    omega
  retainHandling := by
    intro call small
    rw [UInt8.le_iff_toNat_le] at small
    have bound : call.subscribeOptions.retainHandling.toNat ≤ 2 := small
    rw [of_byte_to_byte]
    exact Nat.mod_eq_of_lt (by omega)

/-- libmosquitto sends the low byte of the int, with the QoS of the call. -/
def mosquittoByte (call : Mosquitto.Commands.SubscribeCall) : Options :=
  { ofByte (UInt8.ofNat call.options.toNat) with maximumQos := call.qos.toNat % 4 }

theorem mosquitto_byte_no_local (call : Mosquitto.Commands.SubscribeCall) :
    (mosquittoByte call).noLocal = true ↔ call.options.toNat / 4 % 2 = 1 := by
  simp only [mosquittoByte, ofByte, UInt8.toNat_ofNat', decide_eq_true_eq]
  omega

theorem mosquitto_byte_retain_handling (call : Mosquitto.Commands.SubscribeCall) :
    (mosquittoByte call).retainHandling = call.options.toNat / 16 % 4 := by
  simp only [mosquittoByte, ofByte, UInt8.toNat_ofNat']
  omega

def mosquittoBits : MosquittoEncoding where
  options := mosquittoByte
  noLocal := mosquitto_byte_no_local
  retainHandling := mosquitto_byte_retain_handling

/-- A subscription without the retained message that the broker holds. -/
def declined : Subscribing Nat where
  topic := text "t"
  qos := ⟨0⟩
  getRetained := false
  store := [7]

theorem declined_message_is_sent :
    answers (plainBroker fun _ _ => true) []
        ([declined].map (pahoRequest pahoBits {})) = [[7]] ∧
      answers (plainBroker fun _ _ => true) []
        ([declined].map (mosquittoRequest mosquittoBits {})) = [[]] ∧
      ¬ Honoured pahoBits mosquittoBits (plainBroker fun _ (_ : Nat) => true) {}
        [declined] := by
  refine ⟨by decide, by decide, ?_⟩
  intro honoured
  exact absurd honoured.paho (by decide)

end IMqtt.Exchange.Retained
