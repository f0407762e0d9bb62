import IMqtt.Interface.Message
import IMqtt.Library.FirstMatch

/-!
# libmosquitto as the wrapper uses it

The library is not part of the repository. Its functions are the fields of
`Library`, and what its documentation promises about the property functions is
`Library.Lawful`. A `mosquitto_property` pointer is the list from that node on,
so the null pointer is the empty list. An add is also given its number, because
whether it succeeds may depend on more than its arguments.
-/

namespace IMqtt.Mosquitto

open IMqtt.Defines IMqtt.Message

set_option autoImplicit false

def mosqErrSuccess : Int := 0
def mosqErrNoConn : Int := 4
def mosqErrConnLost : Int := 7
def mosqErrTls : Int := 8
def mosqErrAuth : Int := 11
def mosqErrTlsHandshake : Int := 23

/-- `mosqRcToReasonCode`, with the line it logs. -/
def mosqRcToReasonCode (strerror : Int → Str) (rc : Int) (details : Str) :
    ReasonCode × LogEntry :=
  let (status, logLvl) : ReasonCode × LogLevel :=
    if rc = mosqErrSuccess then (.okay, .debug)
    else if rc = mosqErrTls ∨ rc = mosqErrTlsHandshake then (.errorTls, .error)
    else if rc = mosqErrConnLost ∨ rc = mosqErrNoConn then (.errorNoConnection, .warning)
    else if rc = mosqErrAuth then (.notAllowed, .error)
    else (.errorGeneral, .error)
  (status, ⟨logLvl, details ++ text ": " ++ (reasonCodeToStringRepr status).1 ++
    text ", Mosq: " ++ strerror rc⟩)

theorem mosq_rc_okay_iff (strerror : Int → Str) (rc : Int) (details : Str) :
    (mosqRcToReasonCode strerror rc details).1 = .okay ↔ rc = mosqErrSuccess := by
  rw [mosqRcToReasonCode]
  split_ifs <;> simp_all

/-- A call of one of the `mosquitto_property_add_*` functions. -/
inductive PropertyAdd
  | stringPair (identifier : Identifier) (name value : Str)
  | binary (identifier : Identifier) (value : List UInt8) (len : UInt16)
  | string (identifier : Identifier) (value : Str)
  | byte (identifier : Identifier) (value : UInt8)
  deriving DecidableEq, Repr

/-- The property a well-typed call describes: strings are handed over as C
strings, binary data with its length. -/
def PropertyAdd.property : PropertyAdd → Option Property
  | .stringPair .userProperty name value => some (.userProperty (cStr name) (cStr value))
  | .binary .correlationData value len => some (.correlationData (value.take len.toNat))
  | .string .responseTopic value => some (.responseTopic (cStr value))
  | .string .contentType value => some (.contentType (cStr value))
  | .byte .payloadFormatIndicator value => some (.payloadFormatIndicator value)
  | _ => none

/-- The arguments of `mosquitto_publish_v5` other than the client and `mid`. -/
structure PublishCall where
  topic : Str
  payloadlen : Int
  payload : List UInt8
  qos : Int
  retain : Bool
  properties : List Property
  deriving DecidableEq, Repr

/-- `struct mosquitto_message`. -/
structure MosquittoMessage where
  mid : Int
  topic : Str
  payload : List UInt8
  payloadlen : Int
  qos : Int
  retain : Bool
  deriving DecidableEq, Repr

structure Library where
  strerror : Int → Str
  propertyAdd : Nat → List Property → PropertyAdd → Int × List Property
  /-- The node found and what was stored through `name` and `value`. -/
  readStringPair : List Property → Identifier → Bool →
    List Property × Option Str × Option Str
  /-- The node found and what was stored through `value` and `len`. -/
  readBinary : List Property → Identifier → Bool →
    List Property × Option (List UInt8) × UInt16
  readString : List Property → Identifier → Bool → List Property × Option Str
  readByte : List Property → Identifier → Bool → List Property × Option UInt8
  /-- The return code and what was stored through `mid`. -/
  publish : PublishCall → Int × Option Int

/-- The node that a read for the identifier finds, and what follows it. -/
def found (identifier : Identifier) (skipFirst : Bool) (proplist : List Property) :
    List Property :=
  FirstMatch.nextMatch (fun property => property.identifier == identifier)
    skipFirst proplist

theorem head_found (identifier : Identifier) (proplist : List Property) :
    (found identifier false proplist).head? = first identifier proplist :=
  FirstMatch.head_first_match _ proplist

/-! What a read returns and stores, given the node it finds. -/

def copyStringPair (node : List Property) : List Property × Option Str × Option Str :=
  let pair := node.head?.bind Property.stringPair?
  (node, pair.map (·.1), pair.map (·.2))

def copyBinary (node : List Property) : List Property × Option (List UInt8) × UInt16 :=
  let value := node.head?.bind Property.binary?
  (node, value, UInt16.ofNat (value.elim 0 List.length))

def copyString (node : List Property) : List Property × Option Str :=
  (node, node.head?.bind Property.string?)

def copyByte (node : List Property) : List Property × Option UInt8 :=
  (node, node.head?.bind Property.byte?)

/-- An add that succeeds appends a copy; a read copies out of the first node
with the identifier and stores null when there is none. -/
structure Library.Lawful (library : Library) : Prop where
  add_appends : ∀ number proplist call property, call.property = some property →
    (library.propertyAdd number proplist call).1 = mosqErrSuccess →
    (library.propertyAdd number proplist call).2 = proplist ++ [property]
  read_string_pair : ∀ proplist skipFirst,
    library.readStringPair proplist .userProperty skipFirst =
      copyStringPair (found .userProperty skipFirst proplist)
  read_binary : ∀ proplist,
    library.readBinary proplist .correlationData false =
      copyBinary (found .correlationData false proplist)
  read_response_topic : ∀ proplist,
    library.readString proplist .responseTopic false =
      copyString (found .responseTopic false proplist)
  read_content_type : ∀ proplist,
    library.readString proplist .contentType false =
      copyString (found .contentType false proplist)
  read_byte : ∀ proplist,
    library.readByte proplist .payloadFormatIndicator false =
      copyByte (found .payloadFormatIndicator false proplist)

/-- A library that behaves as documented and never fails. -/
def willing : Library where
  strerror _ := text "No error."
  propertyAdd _ proplist call := (mosqErrSuccess, proplist ++ call.property.toList)
  readStringPair proplist identifier skipFirst :=
    copyStringPair (found identifier skipFirst proplist)
  readBinary proplist identifier skipFirst :=
    copyBinary (found identifier skipFirst proplist)
  readString proplist identifier skipFirst :=
    copyString (found identifier skipFirst proplist)
  readByte proplist identifier skipFirst :=
    copyByte (found identifier skipFirst proplist)
  publish _ := (mosqErrSuccess, some 1)

theorem willing_lawful : willing.Lawful where
  add_appends _ proplist call property describes _ := by simp [willing, describes]
  read_string_pair _ _ := rfl
  read_binary _ := rfl
  read_response_topic _ := rfl
  read_content_type _ := rfl
  read_byte _ := rfl

end IMqtt.Mosquitto
