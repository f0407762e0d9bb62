import Mathlib.Data.List.Basic

/-!
# MQTT5 subscriptions and retained messages

The options byte of a SUBSCRIBE packet, the four options in it, and a broker
that answers with the retained messages of its store. A client's subscriptions
follow each other, so a broker also knows whether a filter is subscribed
already.
-/

namespace Subscription

set_option autoImplicit false

universe u v

/-- The options of one subscription, as a broker reads them. -/
structure Options where
  maximumQos : Nat
  noLocal : Bool
  retainAsPublished : Bool
  retainHandling : Nat
  deriving DecidableEq, Repr

/-- Bits 0 and 1, 2, 3, 4 and 5 of the options byte. -/
def ofByte (byte : UInt8) : Options where
  maximumQos := byte.toNat % 4
  noLocal := decide (byte.toNat / 4 % 2 = 1)
  retainAsPublished := decide (byte.toNat / 8 % 2 = 1)
  retainHandling := byte.toNat / 16 % 4

/-- The byte with the low bits of the given values in the places of the four
options. -/
def toByte (maximumQos noLocal retainAsPublished retainHandling : Nat) : UInt8 :=
  UInt8.ofNat (maximumQos % 4 + noLocal % 2 * 4 + retainAsPublished % 2 * 8 +
    retainHandling % 4 * 16)

theorem of_byte_to_byte (maximumQos noLocal retainAsPublished retainHandling : Nat) :
    ofByte (toByte maximumQos noLocal retainAsPublished retainHandling) =
      ⟨maximumQos % 4, decide (noLocal % 2 = 1), decide (retainAsPublished % 2 = 1),
        retainHandling % 4⟩ := by
  have value : (toByte maximumQos noLocal retainAsPublished retainHandling).toNat =
      maximumQos % 4 + noLocal % 2 * 4 + retainAsPublished % 2 * 8 +
        retainHandling % 4 * 16 := by
    rw [toByte]
    apply UInt8.toNat_ofNat_of_lt'
    rw [UInt8.size]
    omega
  simp only [ofByte, value, Options.mk.injEq, decide_eq_decide]
  omega

variable {Filter : Type u} {Message : Type v}

/-- A broker, by what it sends when a filter is subscribed: with Retain
Handling 0 every matching retained message, with 2 none. -/
structure Broker (Filter : Type u) (Message : Type v) where
  matching : Filter → Message → Bool
  answer : List Filter → Options → Filter → List Message → List Message
  sends : ∀ subscribed options filter store, options.retainHandling = 0 →
    answer subscribed options filter store = store.filter (matching filter)
  withholds : ∀ subscribed options filter store, options.retainHandling = 2 →
    answer subscribed options filter store = []

/-- One SUBSCRIBE and the retained messages the broker holds at that time. -/
structure Request (Filter : Type u) (Message : Type v) where
  filter : Filter
  options : Options
  store : List Message

/-- The answers to a sequence of requests, behind the filters subscribed
before it. -/
def answers (broker : Broker Filter Message) :
    List Filter → List (Request Filter Message) → List (List Message)
  | _, [] => []
  | subscribed, request :: rest =>
      broker.answer subscribed request.options request.filter request.store ::
        answers broker (request.filter :: subscribed) rest

/-- What Retain Handling 0 or 2 leaves to be sent. -/
def sent (broker : Broker Filter Message) (request : Request Filter Message) : List Message :=
  if request.options.retainHandling = 0 then
    request.store.filter (broker.matching request.filter)
  else []

/-- With Retain Handling 0 or 2 in every request the answers do not depend on
what is subscribed. -/
theorem answers_eq_sent (broker : Broker Filter Message) (subscribed : List Filter)
    (requests : List (Request Filter Message))
    (plain : ∀ request ∈ requests,
      request.options.retainHandling = 0 ∨ request.options.retainHandling = 2) :
    answers broker subscribed requests = requests.map (sent broker) := by
  induction requests generalizing subscribed with
  | nil => rfl
  | cons request rest ih =>
      have later := ih (request.filter :: subscribed) fun other member =>
        plain other (List.mem_cons_of_mem _ member)
      rw [answers, later, List.map_cons, sent]
      rcases plain request List.mem_cons_self with always | never
      · rw [if_pos always, broker.sends _ _ _ _ always]
      · have not_always : request.options.retainHandling ≠ 0 := by omega
        rw [if_neg not_always, broker.withholds _ _ _ _ never]

/-- A broker that sends with Retain Handling 1 for a new filter only. -/
def plainBroker [DecidableEq Filter] (matching : Filter → Message → Bool) :
    Broker Filter Message where
  matching := matching
  answer subscribed options filter store :=
    if options.retainHandling = 0 ∨ options.retainHandling = 1 ∧ filter ∉ subscribed then
      store.filter (matching filter)
    else []
  sends _ _ _ _ always := by rw [if_pos (.inl always)]
  withholds _ _ _ _ never := by
    rw [if_neg]
    omega

end Subscription
