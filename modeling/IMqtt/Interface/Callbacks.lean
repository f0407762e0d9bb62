import IMqtt.Interface.Defines

/-!
# IMqttCommandCallbacks

What a command leaves behind when it returns, and the calls of the user's
command callbacks. The interface asks for one of them once the library has
finished the command.
-/

namespace IMqtt.Callbacks

open IMqtt.Defines

set_option autoImplicit false

/-- A call of the user's command callbacks. -/
inductive CommandCall
  | onSubscribe (token : Int)
  | onUnSubscribe (token : Int)
  | onPublish (token : Int) (mqttRc : Int)
  deriving DecidableEq, Repr

inductive CommandKind
  | subscribe | unSubscribe | publish
  deriving DecidableEq, Repr

/-- The call reports a command of the kind with the token. -/
def CommandCall.reports (kind : CommandKind) (token : Int) : CommandCall → Prop
  | .onSubscribe reported => kind = .subscribe ∧ reported = token
  | .onUnSubscribe reported => kind = .unSubscribe ∧ reported = token
  | .onPublish reported _ => kind = .publish ∧ reported = token

/-- The status a command returned, the int `token` points at (`none` for a null
pointer) and the lines logged. -/
structure Submitted where
  status : ReasonCode
  token : Option Int
  log : List LogEntry
  deriving DecidableEq, Repr

/-- What a completion has done: the user calls it made and the lines logged. -/
structure Completed where
  calls : List CommandCall
  log : List LogEntry
  deriving DecidableEq, Repr

end IMqtt.Callbacks
