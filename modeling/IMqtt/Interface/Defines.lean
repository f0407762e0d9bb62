import Mathlib.Data.List.TakeWhile

/-!
# Strings, log levels and reason codes

The vocabulary of `IMqttClientDefines.h` that the modelled functions use. A
`std::string` is its bytes; nothing excludes an embedded NUL.
-/

namespace IMqtt.Defines

set_option autoImplicit false

abbrev Str := List UInt8

/-- A string literal of the source. -/
def text (literal : String) : Str := literal.toUTF8.data.toList

/-- `std::to_string`. -/
def toStr (number : Int) : Str := text (toString number)

inductive LogLevel
  | trace | debug | info | warning | error | fatal
  deriving DecidableEq, Repr

/-- The C string that a `char` pointer to the bytes denotes: it ends at the
first NUL. -/
def cStr (bytes : List UInt8) : Str := bytes.takeWhile (· ≠ 0)

theorem c_str_of_no_nul {bytes : List UInt8} (plain : 0 ∉ bytes) :
    cStr bytes = bytes := by
  rw [cStr, List.takeWhile_eq_self_iff]
  intro byte member
  have nonzero : byte ≠ 0 := fun zero => plain (zero ▸ member)
  simpa using nonzero

/-- One call of `IMqttLogCallbacks::Log`. -/
structure LogEntry where
  level : LogLevel
  txt : Str
  deriving DecidableEq, Repr

inductive ReasonCode
  | okay | errorGeneral | errorNoConnection | errorTls | notAllowed
  deriving DecidableEq, Repr

/-- `IMqttClient::ReasonCodeToStringRepr`: the short and the long text. -/
def reasonCodeToStringRepr : ReasonCode → Str × Str
  | .okay => (text "OKAY", text "The operation was successful")
  | .errorGeneral => (text "ERROR_GENERAL", text "A general error occured")
  | .errorNoConnection =>
      (text "ERROR_NO_CONNECTION", text "No connection to the broker")
  | .errorTls => (text "ERROR_TLS", text "A TLS error occured")
  | .notAllowed => (text "NOT_ALLOWED", text "The broker refused the connection")

def mqttReasonCodeToString : List (Int × String × String) :=
  [(0x0, "ACCEPTED", "Connection accepted"),
    (0x1, "UNACCEPTABLE_PROTOCOL_VERSION", "Unacceptable protocol version"),
    (0x2, "IDENTIFIER_REJECTED", "Identifier rejected"),
    (0x3, "SERVER_UNAVAILABLE", "Server unavailable"),
    (0x4, "BAD_USERNAME_OR_PASSWORD", "Bad user name or password"),
    (0x5, "NOT_AUTHORIZED", "Not authorized")]

/-- `IMqttClient::MqttReasonCodeToStringRepr`. -/
def mqttReasonCodeToStringRepr (rc : Int) : Str × Str :=
  match mqttReasonCodeToString.find? fun entry => entry.1 == rc with
  | some (_, short, long) => (text short, text long)
  | none => (text "UNKNOWN", text "Unknown MQTT reason code")

def mqtt5ReasonCodeToString : List (Int × String × String) :=
  [(0x00, "SUCCESS", "Success"),
    (0x01, "GRANTED_QOS_1", "Granted QoS 1"),
    (0x02, "GRANTED_QOS_2", "Granted QoS 2 "),
    (0x04, "DISCONNECT_WITH_WILL_MESSAGE", "Disconnect with Will Message"),
    (0x10, "NO_MATCHING_SUBSCRIBERS", "No matching subscribers "),
    (0x11, "NO_SUBSCRIPTION_EXISTS", "No subscription existed"),
    (0x18, "CONTINUE_AUTHENTICATION", "Continue authentication"),
    (0x19, "RE_AUTHENTICATE", "Re-authenticate"),
    (0x80, "UNSPECIFIED_ERROR", "Unspecified error"),
    (0x81, "MALFORMED_PACKET", "Malformed Packet"),
    (0x82, "PROTOCOL_ERROR", "Protocol Error"),
    (0x83, "IMPLEMENTATION_SPECIFIC_ERROR", "Implementation specific error"),
    (0x84, "UNSUPPORTED_PROTOCOL_VERSION", "Unsupported Protocol Version"),
    (0x85, "CLIENT_IDENTIFIER_NOT_VALID", "Client Identifier not valid"),
    (0x86, "BAD_USER_NAME_OR_PASSWORD", "Bad User Name or Password"),
    (0x87, "NOT_AUTHORIZED", "Not authorized"),
    (0x88, "SERVER_UNAVAILABLE", "Server unavailable"),
    (0x89, "SERVER_BUSY", "Server busy"),
    (0x8a, "BANNED", "Banned"),
    (0x8b, "SERVER_SHUTTING_DOWN", "Server shutting down"),
    (0x8c, "BAD_AUTHENTICATION_METHOD", "Bad authentication method"),
    (0x8d, "KEEP_ALIVE_TIMEOUT", "Keep Alive timeout"),
    (0x8e, "SESSION_TAKEN_OVER", "Session taken over"),
    (0x8f, "TOPIC_FILTER_INVALID", "Topic Filter invalid"),
    (0x90, "TOPIC_NAME_INVALID", "Topic Name invalid"),
    (0x91, "PACKET_IDENTIFIER_IN_USE", "Packet Identifier in use"),
    (0x92, "PACKET_IDENTIFIER_NOT_FOUND", "Packet Identifier not found"),
    (0x93, "RECEIVE_MAXIMUM_EXCEEDED", "Receive Maximum exceeded"),
    (0x94, "TOPIC_ALIAS_INVALID", "Topic Alias invalid"),
    (0x95, "PACKET_TOO_LARGE", "Packet too large"),
    (0x96, "MESSAGE_RATE_TOO_HIGH", "Message rate too high"),
    (0x97, "QUOTA_EXCEEDED", "Quota exceeded"),
    (0x98, "ADMINISTRATIVE_ACTION", "Administrative action"),
    (0x99, "PAYLOAD_FORMAT_INVALID", "Payload format invalid"),
    (0x9a, "RETAIN_NOT_SUPPORTED", "Retain not supported"),
    (0x9b, "QOS_NOT_SUPPORTED", "QoS not supported"),
    (0x9c, "USE_ANOTHER_SERVER", "Use another server"),
    (0x9d, "SERVER_MOVED", "Server moved"),
    (0x9e, "SHARED_SUBSCRIPTIONS_NOT_SUPPORTED", "Shared Subscription not supported"),
    (0x9f, "CONNECTION_RATE_EXCEEDED", "Connection rate exceeded"),
    (0xa0, "MAXIMUM_CONNECT_TIME", "Maximum connect time"),
    (0xa1, "SUBSCRIPTION_IDENTIFIERS_NOT_SUPPORTED", "Subscription Identifiers not supported"),
    (0xa2, "WILDCARD_SUBSCRIPTIONS_NOT_SUPPORTED", "Wildcard Subscription not supported")]

/-- `IMqttClient::Mqtt5ReasonCodeToStringRepr`: the short and the long text of
an MQTT5 reason code, which any `int` can be cast to. -/
def mqtt5ReasonCodeToStringRepr (rc : Int) : Str × Str :=
  match mqtt5ReasonCodeToString.find? fun entry => entry.1 == rc with
  | some (_, short, long) => (text short, text long)
  | none => (text "UNKNOWN", text "Unknown MQTT5 reason code")

end IMqtt.Defines
