import IMqtt.Interface.Message
import IMqtt.Paho.Results

/-!
# The Paho library as the wrapper publishes with it

The property type with its pointer and length pairs, the message structure and
`MQTTAsync_sendMessage`. The library is not part of the repository: its
functions are the fields of `Library`, and `Library.Lawful` is what the wrapper
relies on.
-/

namespace IMqtt.Paho

open IMqtt.Defines IMqtt.Message

set_option autoImplicit false

/-- `static_cast<int>` of a size. -/
def castInt (size : Nat) : Int := (Int32.ofNat size).toInt

theorem cast_int_of_lt {size : Nat} (small : size < 2147483648) : castInt size = size := by
  rw [castInt]
  exact Int32.toInt_ofNat_of_lt small

/-- A pointer to bytes and the number of them that belong to the string. -/
structure MQTTLenString where
  data : List UInt8
  len : Int
  deriving DecidableEq, Repr

def MQTTLenString.bytes (string : MQTTLenString) : List UInt8 :=
  string.data.take string.len.toNat

/-- A container as the wrapper hands it over. -/
def lenString (bytes : List UInt8) : MQTTLenString := ⟨bytes, castInt bytes.length⟩

theorem bytes_len_string {bytes : List UInt8} (small : bytes.length < 2147483648) :
    (lenString bytes).bytes = bytes := by
  rw [MQTTLenString.bytes, lenString, cast_int_of_lt small, Int.toNat_natCast,
    List.take_length]

/-- `MQTTProperty`, with the members of the value that its identifier uses. -/
inductive MQTTProperty
  | payloadFormatIndicator (byte : UInt8)
  | contentType (data : MQTTLenString)
  | responseTopic (data : MQTTLenString)
  | correlationData (data : MQTTLenString)
  | userProperty (data value : MQTTLenString)
  | other (code : Nat)
  deriving DecidableEq, Repr

/-- The MQTT5 property that the structure describes. -/
def MQTTProperty.property : MQTTProperty → Property
  | .payloadFormatIndicator byte => .payloadFormatIndicator byte
  | .contentType data => .contentType data.bytes
  | .responseTopic data => .responseTopic data.bytes
  | .correlationData data => .correlationData data.bytes
  | .userProperty data value => .userProperty data.bytes value.bytes
  | .other code => .other code

def MQTTLenString.copy (string : MQTTLenString) : MQTTLenString :=
  ⟨string.bytes, string.len⟩

def MQTTProperty.copy : MQTTProperty → MQTTProperty
  | .payloadFormatIndicator byte => .payloadFormatIndicator byte
  | .contentType data => .contentType data.copy
  | .responseTopic data => .responseTopic data.copy
  | .correlationData data => .correlationData data.copy
  | .userProperty data value => .userProperty data.copy value.copy
  | .other code => .other code

theorem bytes_copy (string : MQTTLenString) : string.copy.bytes = string.bytes := by
  rw [MQTTLenString.copy, MQTTLenString.bytes, MQTTLenString.bytes, List.take_take, Nat.min_self]

/-- `MQTTAsync_message`. -/
structure MQTTAsyncMessage where
  payload : List UInt8
  payloadlen : Int
  qos : Int
  retained : Int
  msgid : Int
  properties : List MQTTProperty
  deriving DecidableEq, Repr

/-- The arguments of `MQTTAsync_sendMessage` other than client and options. -/
structure SendCall where
  destinationName : Str
  msg : MQTTAsyncMessage
  deriving DecidableEq, Repr

structure Library where
  texts : Texts
  /-- The `msgid` that `MQTTAsync_message_initializer` sets. -/
  initialMsgid : Int
  propertiesAdd : Nat → List MQTTProperty → MQTTProperty → Int × List MQTTProperty
  /-- The return code and `callOptions.token` after the call. -/
  sendMessage : SendCall → Int × Int

/-- An add that succeeds appends a copy. -/
def Library.Lawful (library : Library) : Prop :=
  ∀ number properties prop,
    (library.propertiesAdd number properties prop).1 = mqttasyncSuccess →
    (library.propertiesAdd number properties prop).2 = properties ++ [prop.copy]

/-- A library that behaves as documented and never fails. -/
def willing : Library where
  texts := ⟨fun _ => text "Success", fun _ => text "SUCCESS"⟩
  initialMsgid := 0
  propertiesAdd _ properties prop := (mqttasyncSuccess, properties ++ [prop.copy])
  sendMessage _ := (mqttasyncSuccess, 1)

theorem willing_lawful : willing.Lawful := fun _ _ _ _ => rfl

end IMqtt.Paho
