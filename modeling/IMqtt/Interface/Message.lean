import Mathlib.Tactic.Common
import IMqtt.Interface.Defines

/-!
# MQTT messages

`IMqttMessage` with its optional fields and their defaults, and the MQTT5
properties that carry them on the wire. A `std::map` iterates in the order of
its keys and its `insert` does nothing for a key that is present.
-/

namespace IMqtt.Message

open IMqtt.Defines

set_option autoImplicit false

abbrev UserProps := Std.ExtTreeMap Str Str compare

inductive FormatIndicator
  | unspecified | utf8
  deriving DecidableEq, Repr

/-- An enumeration over `int`; a cast may produce any value. -/
structure QOS where
  toInt : Int
  deriving DecidableEq, Repr

structure IMqttMessage where
  topic : Str
  payload : List UInt8
  qos : QOS
  retain : Bool
  messageId : Int := -1
  userProps : UserProps := ∅
  correlationDataProps : List UInt8 := []
  responseTopic : Str := []
  payloadFormatIndicator : FormatIndicator := .unspecified
  payloadContentType : Str := []

/-- `MqttMessageFactory::Create`. -/
def create (topic : Str) (payload : List UInt8) (qos : QOS) (retain : Bool) :
    IMqttMessage :=
  { topic, payload, qos, retain }

/-- Equality in everything a PUBLISH transports; the message id is chosen by
the library on either side. -/
structure SameContent (received published : IMqttMessage) : Prop where
  topic : received.topic = published.topic
  payload : received.payload = published.payload
  qos : received.qos = published.qos
  retain : received.retain = published.retain
  userProps : received.userProps = published.userProps
  correlationDataProps :
    received.correlationDataProps = published.correlationDataProps
  responseTopic : received.responseTopic = published.responseTopic
  payloadContentType : received.payloadContentType = published.payloadContentType
  payloadFormatIndicator :
    received.payloadFormatIndicator = published.payloadFormatIndicator

inductive Identifier
  | payloadFormatIndicator | contentType | responseTopic | correlationData
  | userProperty | other (code : Nat)
  deriving DecidableEq, Repr

/-- One MQTT5 property. The wrapper looks at five identifiers; of a property
with another one only the identifier matters. -/
inductive Property
  | payloadFormatIndicator (value : UInt8)
  | contentType (value : Str)
  | responseTopic (value : Str)
  | correlationData (value : List UInt8)
  | userProperty (name value : Str)
  | other (code : Nat)
  deriving DecidableEq, Repr

def Property.identifier : Property → Identifier
  | .payloadFormatIndicator _ => .payloadFormatIndicator
  | .contentType _ => .contentType
  | .responseTopic _ => .responseTopic
  | .correlationData _ => .correlationData
  | .userProperty _ _ => .userProperty
  | .other code => .other code

/-! The value of a property, by its type on the wire. -/

def Property.byte? : Property → Option UInt8
  | .payloadFormatIndicator value => some value
  | _ => none

def Property.string? : Property → Option Str
  | .contentType value => some value
  | .responseTopic value => some value
  | _ => none

def Property.binary? : Property → Option (List UInt8)
  | .correlationData value => some value
  | _ => none

def Property.stringPair? : Property → Option (Str × Str)
  | .userProperty name value => some (name, value)
  | _ => none

/-- The kinds of which a message carries one property at most. -/
def singleIdentifiers : List Identifier :=
  [.correlationData, .responseTopic, .contentType, .payloadFormatIndicator]

def occurrences (identifier : Identifier) (properties : List Property) : List Property :=
  properties.filter fun property => property.identifier == identifier

def first (identifier : Identifier) (properties : List Property) : Option Property :=
  properties.find? fun property => property.identifier == identifier

/-- The user properties of a list, in order. -/
def userPairs (properties : List Property) : List (Str × Str) :=
  properties.filterMap Property.stringPair?

theorem occurrences_append (identifier : Identifier) (before after : List Property) :
    occurrences identifier (before ++ after) =
      occurrences identifier before ++ occurrences identifier after := List.filter_append ..

end IMqtt.Message
