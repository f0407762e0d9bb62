import IMqtt.Interface.Client
import IMqtt.Library.OnceCell
import Mathlib.Logic.Function.Basic

/-!
# InitLogMqttLib and LogMqttLib

The lines of the MQTT library go to a function of the user's. The first call of
`InitLogMqttLib` in the process decides which lines; the constructors of both
back ends make one without a function.
-/

namespace IMqtt.LibraryLog

open IMqtt.Defines IMqtt.Client

set_option autoImplicit false

/-- `MqttLogInit_t`: whether there is a function to call, and the minimum level. -/
structure MqttLogInit where
  first : Bool
  second : LogLevelLib
  deriving DecidableEq, Repr

/-- `{nullptr, LogLevelLib::NONE}`. -/
def silent : MqttLogInit := ⟨false, .none⟩

/-- The values of the enumerators; `NONE` is the greatest `int`. -/
def value : LogLevelLib → Int
  | .trace => 1
  | .debug => 2
  | .info => 3
  | .warning => 4
  | .error => 5
  | .fatal => 6
  | .none => 2147483647

structure Line where
  lvl : LogLevelLib
  txt : Str
  deriving DecidableEq, Repr

def Wanted (mqttLibLogInitParams : MqttLogInit) (line : Line) : Prop :=
  mqttLibLogInitParams.first = true ∧
    value mqttLibLogInitParams.second ≤ value line.lvl

instance (params : MqttLogInit) (line : Line) : Decidable (Wanted params line) :=
  inferInstanceAs (Decidable (_ ∧ _))

/-- `LogMqttLib`, by the calls of the user's function. -/
def logMqttLib (mqttLibLogInitParams : MqttLogInit) (line : Line) : List Line :=
  if Wanted mqttLibLogInitParams line then [line] else []

/-- The lines that the settings which were passed first ask for. -/
def wantedLines (winner : Option MqttLogInit) (lines : List Line) : List Line :=
  lines.filter fun line => winner.any fun params => Wanted params line

theorem wanted_lines_append (winner : Option MqttLogInit) (before after : List Line) :
    wantedLines winner (before ++ after) =
      wantedLines winner before ++ wantedLines winner after := List.filter_append ..

theorem wanted_lines_of_winner (params : MqttLogInit) (line : Line) :
    wantedLines (some params) [line] = logMqttLib params line := by
  by_cases wanted : Wanted params line <;> simp [wantedLines, logMqttLib, wanted]

/-- No line has the level `NONE`, so the setting asks for none. -/
theorem none_wanted {params : MqttLogInit} (level : params.second = .none) {line : Line}
    (real : line.lvl ≠ .none) : logMqttLib params line = [] := by
  rw [logMqttLib, if_neg]
  rintro ⟨-, reaches⟩
  rw [level] at reaches
  cases lvl : line.lvl with
  | none => exact real lvl
  | _ =>
      rw [lvl, value, value] at reaches
      omega

/-- What holds of a party's phase behind a move holds of the new phase or held before. -/
theorem of_moved {Party Phase : Type*} [DecidableEq Party] (holds : Phase → Prop)
    {phase : Party → Phase} {party other : Party} {moved : Phase}
    (here : holds (Function.update phase party moved other)) :
    holds moved ∨ holds (phase other) := by
  by_cases own : other = party
  · rw [own, Function.update_self] at here
    exact .inl here
  · rw [Function.update_of_ne own] at here
    exact .inr here

end IMqtt.LibraryLog
