import IMqtt.Interface.LibraryLog
import IMqtt.Library.LabelledSteps
import IMqtt.Paho.Construct

/-!
# The log of the Paho library

Trace callback and trace level belong to the process. The first constructor sets
both under a once flag, and the other constructors wait for it. The library
calls the callback for the lines from the trace level on, and `LogMqttLib` looks
at their level again.
-/

namespace IMqtt.Paho.Logging

open IMqtt.Defines IMqtt.Client IMqtt.LibraryLog IMqtt.Paho.Construct LabelledSteps OnceCell

set_option autoImplicit false

universe u

/-- The values of the enumerators. -/
def traceValue : TraceLevel → Int
  | .maximum => 1
  | .medium => 2
  | .minimum => 3
  | .protocol => 4
  | .error => 5
  | .severe => 6
  | .fatal => 7

/-- The switch of the trace callback. -/
def logLvl : TraceLevel → LogLevelLib
  | .minimum | .medium | .maximum => .trace
  | .protocol => .debug
  | .error | .severe => .error
  | .fatal => .fatal

/-- Where a thread stands; `libCallOnce` to `leaveInit` are the block under
`initFlag`. -/
inductive Phase
  | idle
  | callOnce (initParam : MqttLogInit)
  | store
  | initOnce
  | libCallOnce
  | libStore
  | setTraceCallback (logInfo : MqttLogInit)
  | setTraceLevel (logInfo : MqttLogInit)
  | leaveInit
  | constructed
  deriving DecidableEq, Repr

structure State (Party : Type u) where
  mqttLibLogInit : Cell MqttLogInit := { value := silent }
  initFlag : Cell Unit := { value := () }
  traceCallback : Bool := false
  traceLevel : TraceLevel
  phase : Party → Phase := fun _ => .idle
  /-- The lines the library has traced for the clients. -/
  traced : List Line := []
  /-- The calls of the user's function. -/
  handed : List Line := []

inductive Action (Party : Type u)
  | initLogMqttLib (party : Party) (initParam : MqttLogInit)
  | construct (party : Party)
  | advance (party : Party)
  | trace (party : Party) (lvl : TraceLevel) (pTxt : List UInt8)
  deriving DecidableEq, Repr

variable {Party : Type u} [DecidableEq Party]

def State.go (s : State Party) (party : Party) (phase : Phase) : State Party :=
  { s with phase := Function.update s.phase party phase }

/-- What a call into the library does to its log settings. -/
def configure (s : State Party) : Call Unit → State Party
  | .setTraceCallback installed => { s with traceCallback := installed }
  | .setTraceLevel level => { s with traceLevel := level }
  | _ => s

def advance (s : State Party) (party : Party) : Option (State Party) :=
  match s.phase party with
  | .callOnce initParam =>
      (enter s.mqttLibLogInit initParam).map fun entered =>
        { s.go party (if entered.1 then .store else .idle) with mqttLibLogInit := entered.2 }
  | .store =>
      (finish s.mqttLibLogInit).map fun stored =>
        { s.go party .idle with mqttLibLogInit := stored }
  | .initOnce =>
      (enter s.initFlag ()).map fun entered =>
        { s.go party (if entered.1 then .libCallOnce else .constructed) with
          initFlag := entered.2 }
  | .libCallOnce =>
      (enter s.mqttLibLogInit silent).map fun entered =>
        { s.go party (if entered.1 then .libStore else .setTraceCallback entered.2.value) with
          mqttLibLogInit := entered.2 }
  | .libStore =>
      (finish s.mqttLibLogInit).map fun stored =>
        { s.go party (.setTraceCallback stored.value) with mqttLibLogInit := stored }
  | .setTraceCallback logInfo =>
      if logInfo.second = .none then
        some (configure (s.go party .leaveInit) (.setTraceCallback false))
      else some (configure (s.go party (.setTraceLevel logInfo)) (.setTraceCallback true))
  | .setTraceLevel logInfo =>
      some (configure (s.go party .leaveInit) (traceCall logInfo.second))
  | .leaveInit =>
      (finish s.initFlag).map fun left => { s.go party .constructed with initFlag := left }
  | _ => none

/-- The callback gets what reaches the trace level. -/
def trace (s : State Party) (lvl : TraceLevel) (pTxt : List UInt8) : State Party :=
  { s with
    traced := s.traced ++ [⟨logLvl lvl, cStr pTxt⟩]
    handed := s.handed ++
      if s.traceCallback = true ∧ traceValue s.traceLevel ≤ traceValue lvl then
        logMqttLib s.mqttLibLogInit.value ⟨logLvl lvl, cStr pTxt⟩
      else [] }

def step (s : State Party) : Action Party → Option (State Party)
  | .initLogMqttLib party initParam =>
      if s.phase party = .idle then some (s.go party (.callOnce initParam)) else none
  | .construct party => if s.phase party = .idle then some (s.go party .initOnce) else none
  | .advance party => advance s party
  | .trace party lvl pTxt =>
      if s.phase party = .constructed then some (trace s lvl pTxt) else none

/-- The level the library starts with is its own affair. -/
def system (Party : Type u) [DecidableEq Party] : System (State Party) (Action Party) where
  initial s := ∃ traceLevel, s = { traceLevel := traceLevel }
  step := step

/-! What one step can do. -/

inductive Transition (s : State Party) : Action Party → State Party → Prop
  | initLogMqttLib {party : Party} {initParam : MqttLogInit} (here : s.phase party = .idle) :
      Transition s (.initLogMqttLib party initParam) (s.go party (.callOnce initParam))
  | construct {party : Party} (here : s.phase party = .idle) :
      Transition s (.construct party) (s.go party .initOnce)
  | callOnce {party : Party} {initParam : MqttLogInit} {runs : Bool}
      {cell : Cell MqttLogInit} (here : s.phase party = .callOnce initParam)
      (entered : enter s.mqttLibLogInit initParam = some (runs, cell)) :
      Transition s (.advance party)
        { s.go party (if runs then .store else .idle) with mqttLibLogInit := cell }
  | store {party : Party} {cell : Cell MqttLogInit} (here : s.phase party = .store)
      (stored : finish s.mqttLibLogInit = some cell) :
      Transition s (.advance party) { s.go party .idle with mqttLibLogInit := cell }
  | initOnce {party : Party} {runs : Bool} {cell : Cell Unit}
      (here : s.phase party = .initOnce)
      (entered : enter s.initFlag () = some (runs, cell)) :
      Transition s (.advance party)
        { s.go party (if runs then .libCallOnce else .constructed) with initFlag := cell }
  | libCallOnce {party : Party} {runs : Bool} {cell : Cell MqttLogInit}
      (here : s.phase party = .libCallOnce)
      (entered : enter s.mqttLibLogInit silent = some (runs, cell)) :
      Transition s (.advance party)
        { s.go party (if runs then .libStore else .setTraceCallback cell.value) with
          mqttLibLogInit := cell }
  | libStore {party : Party} {cell : Cell MqttLogInit} (here : s.phase party = .libStore)
      (stored : finish s.mqttLibLogInit = some cell) :
      Transition s (.advance party)
        { s.go party (.setTraceCallback cell.value) with mqttLibLogInit := cell }
  | noTraceCallback {party : Party} {logInfo : MqttLogInit}
      (here : s.phase party = .setTraceCallback logInfo) (level : logInfo.second = .none) :
      Transition s (.advance party) { s.go party .leaveInit with traceCallback := false }
  | setTraceCallback {party : Party} {logInfo : MqttLogInit}
      (here : s.phase party = .setTraceCallback logInfo) (level : logInfo.second ≠ .none) :
      Transition s (.advance party)
        { s.go party (.setTraceLevel logInfo) with traceCallback := true }
  | setTraceLevel {party : Party} {logInfo : MqttLogInit}
      (here : s.phase party = .setTraceLevel logInfo) :
      Transition s (.advance party)
        (configure (s.go party .leaveInit) (traceCall logInfo.second))
  | leaveInit {party : Party} {cell : Cell Unit} (here : s.phase party = .leaveInit)
      (left : finish s.initFlag = some cell) :
      Transition s (.advance party) { s.go party .constructed with initFlag := cell }
  | trace {party : Party} {lvl : TraceLevel} {pTxt : List UInt8}
      (here : s.phase party = .constructed) :
      Transition s (.trace party lvl pTxt) (trace s lvl pTxt)

theorem advance_transition {s after : State Party} {party : Party}
    (taken : advance s party = some after) : Transition s (.advance party) after := by
  rw [advance] at taken
  cases here : s.phase party <;> rw [here] at taken
  case callOnce initParam =>
    rcases Option.map_eq_some_iff.mp taken with ⟨⟨runs, cell⟩, entered, rfl⟩
    exact .callOnce here entered
  case store =>
    rcases Option.map_eq_some_iff.mp taken with ⟨cell, stored, rfl⟩
    exact .store here stored
  case initOnce =>
    rcases Option.map_eq_some_iff.mp taken with ⟨⟨runs, cell⟩, entered, rfl⟩
    exact .initOnce here entered
  case libCallOnce =>
    rcases Option.map_eq_some_iff.mp taken with ⟨⟨runs, cell⟩, entered, rfl⟩
    exact .libCallOnce here entered
  case libStore =>
    rcases Option.map_eq_some_iff.mp taken with ⟨cell, stored, rfl⟩
    exact .libStore here stored
  case setTraceCallback logInfo =>
    by_cases level : logInfo.second = .none
    · simp only [level, if_true, Option.some.injEq] at taken
      rw [← taken]
      exact .noTraceCallback here level
    · simp only [level, if_false, Option.some.injEq] at taken
      rw [← taken]
      exact .setTraceCallback here level
  case setTraceLevel logInfo =>
    cases taken
    exact .setTraceLevel here
  case leaveInit =>
    rcases Option.map_eq_some_iff.mp taken with ⟨cell, left, rfl⟩
    exact .leaveInit here left
  all_goals cases taken

theorem step_transition {s after : State Party} {action : Action Party}
    (taken : step s action = some after) : Transition s action after := by
  cases action with
  | initLogMqttLib party initParam =>
      rcases guarded_some taken with ⟨here, rfl⟩
      exact .initLogMqttLib here
  | construct party =>
      rcases guarded_some taken with ⟨here, rfl⟩
      exact .construct here
  | advance party => exact advance_transition taken
  | trace party lvl pTxt =>
      rcases guarded_some taken with ⟨here, rfl⟩
      exact .trace here

/-! The trace level lets every wanted line through. -/

/-- What the block under `initFlag` leaves behind. -/
structure Configured (s : State Party) : Prop where
  settled : s.mqttLibLogInit.flag = .done
  callback : s.traceCallback = true ↔ s.mqttLibLogInit.value.second ≠ .none
  level : s.mqttLibLogInit.value.second ≠ .none →
    (traceCall s.mqttLibLogInit.value.second : Call Unit) = .setTraceLevel s.traceLevel

theorem log_lvl_real (lvl : TraceLevel) : logLvl lvl ≠ .none := by
  cases lvl <;> simp [logLvl]

/-- The library drops nothing that the user asked for. -/
theorem trace_level_reached {second : LogLevelLib} {traceLevel lvl : TraceLevel}
    (level : (traceCall second : Call Unit) = .setTraceLevel traceLevel)
    (reaches : value second ≤ value (logLvl lvl)) : traceValue traceLevel ≤ traceValue lvl := by
  cases second <;> simp only [traceCall, Call.setTraceLevel.injEq, reduceCtorEq] at level <;>
    rw [← level] <;> cases lvl <;> simp [value, logLvl, traceValue] at reaches ⊢

omit [DecidableEq Party] in
theorem traced_line {s : State Party} (configured : Configured s) (lvl : TraceLevel)
    (txt : Str) :
    (if s.traceCallback = true ∧ traceValue s.traceLevel ≤ traceValue lvl then
      logMqttLib s.mqttLibLogInit.value ⟨logLvl lvl, txt⟩ else []) =
      logMqttLib s.mqttLibLogInit.value ⟨logLvl lvl, txt⟩ := by
  by_cases passes : s.traceCallback = true ∧ traceValue s.traceLevel ≤ traceValue lvl
  · rw [if_pos passes]
  · rw [if_neg passes]
    by_cases level : s.mqttLibLogInit.value.second = .none
    · exact (none_wanted level (log_lvl_real lvl)).symm
    · rw [logMqttLib, if_neg]
      rintro ⟨-, reaches⟩
      apply passes
      exact ⟨configured.callback.mpr level,
        trace_level_reached (configured.level level) reaches⟩

/-- Inside the block under `initFlag`. -/
def Phase.inInit : Phase → Bool
  | .libCallOnce | .libStore | .setTraceCallback _ | .setTraceLevel _ | .leaveInit => true
  | _ => false

/-- What has been done when a thread stands there. -/
def Meets (s : State Party) : Phase → Prop
  | .libCallOnce | .libStore => s.initFlag.flag = .running ()
  | .setTraceCallback logInfo => s.initFlag.flag = .running () ∧
      s.mqttLibLogInit.flag = .done ∧ s.mqttLibLogInit.value = logInfo
  | .setTraceLevel logInfo => s.initFlag.flag = .running () ∧
      s.mqttLibLogInit.flag = .done ∧ s.mqttLibLogInit.value = logInfo ∧
      s.traceCallback = true ∧ logInfo.second ≠ .none
  | .leaveInit => s.initFlag.flag = .running () ∧ Configured s
  | .constructed => s.initFlag.flag = .done
  | _ => True

structure Filtered (s : State Party) : Prop where
  sound : Sound silent s.mqttLibLogInit
  positions : ∀ party, Meets s (s.phase party)
  alone : ∀ one other, (s.phase one).inInit = true → (s.phase other).inInit = true →
    one = other
  configured : s.initFlag.flag = .done → Configured s
  quiet : s.traced ≠ [] → s.initFlag.flag = .done
  handed : s.handed = wantedLines s.mqttLibLogInit.winner s.traced

omit [DecidableEq Party] in
theorem running_of_in_init {s : State Party} {phase : Phase} (meets : Meets s phase)
    (inside : phase.inInit = true) : s.initFlag.flag = .running () := by
  cases phase with
  | libCallOnce | libStore => exact meets
  | setTraceCallback | setTraceLevel | leaveInit => exact meets.1
  | _ => cases inside

omit [DecidableEq Party] in
/-- Outside the block only the end of the block counts. -/
theorem meets_outside {s after : State Party} {phase : Phase} (meets : Meets s phase)
    (outside : phase.inInit = false)
    (done : s.initFlag.flag = .done → after.initFlag.flag = .done) : Meets after phase := by
  cases phase with
  | constructed => exact done meets
  | libCallOnce | libStore | setTraceCallback | setTraceLevel | leaveInit => cases outside
  | _ => trivial

omit [DecidableEq Party] in
theorem configured_kept {s after : State Party} (configured : Configured s)
    (logInit : s.mqttLibLogInit.flag = .done → after.mqttLibLogInit = s.mqttLibLogInit)
    (callback : after.traceCallback = s.traceCallback)
    (level : after.traceLevel = s.traceLevel) : Configured after := by
  have same := logInit configured.settled
  constructor
  · rw [same]
    exact configured.settled
  · rw [same, callback]
    exact configured.callback
  · rw [same, level]
    exact configured.level

omit [DecidableEq Party] in
theorem meets_kept {s after : State Party} {phase : Phase} (meets : Meets s phase)
    (logInit : s.mqttLibLogInit.flag = .done → after.mqttLibLogInit = s.mqttLibLogInit)
    (initFlag : after.initFlag = s.initFlag)
    (callback : after.traceCallback = s.traceCallback)
    (level : after.traceLevel = s.traceLevel) : Meets after phase := by
  cases phase with
  | setTraceCallback logInfo =>
      rcases meets with ⟨running, done, asked⟩
      simp only [Meets, initFlag, logInit done]
      exact ⟨running, done, asked⟩
  | setTraceLevel logInfo =>
      rcases meets with ⟨running, done, rest⟩
      simp only [Meets, initFlag, logInit done, callback]
      exact ⟨running, done, rest⟩
  | leaveInit =>
      simp only [Meets, initFlag]
      exact ⟨meets.1, configured_kept meets.2 logInit callback level⟩
  | libCallOnce | libStore | constructed =>
      simp only [Meets, initFlag] at meets ⊢
      exact meets
  | _ => trivial

/-- One thread at most stands inside the block. -/
theorem alone_moved {phase : Party → Phase} {party : Party} {moved : Phase}
    (alone : ∀ one other, (phase one).inInit = true → (phase other).inInit = true →
      one = other)
    (inside : moved.inInit = true → ∀ other, (phase other).inInit = true → other = party)
    (one other : Party) (first : (Function.update phase party moved one).inInit = true)
    (second : (Function.update phase party moved other).inInit = true) : one = other := by
  by_cases own : one = party
  · rw [own, Function.update_self] at first
    by_cases same : other = party
    · rw [own, same]
    · rw [Function.update_of_ne same] at second
      rw [own, inside first other second]
  · rw [Function.update_of_ne own] at first
    by_cases same : other = party
    · rw [same, Function.update_self] at second
      rw [same, inside second one first]
    · rw [Function.update_of_ne same] at second
      exact alone one other first second

theorem positions_moved {s after : State Party} {party : Party} {moved : Phase}
    (phase : after.phase = Function.update s.phase party moved) (here : Meets after moved)
    (elsewhere : ∀ other, other ≠ party → Meets after (s.phase other)) (other : Party) :
    Meets after (after.phase other) := by
  rw [phase]
  by_cases own : other = party
  · rw [own, Function.update_self]
    exact here
  · rw [Function.update_of_ne own]
    exact elsewhere other own

/-- A step of a thread that is not inside the block. -/
theorem filtered_outside {s after : State Party} (before : Filtered s) {party : Party}
    {moved : Phase} (phase : after.phase = Function.update s.phase party moved)
    (outside : moved.inInit = false) (here : Meets after moved)
    (sound : Sound silent after.mqttLibLogInit)
    (logInit : s.mqttLibLogInit.flag = .done → after.mqttLibLogInit = s.mqttLibLogInit)
    (initFlag : after.initFlag = s.initFlag)
    (settings : after.traceCallback = s.traceCallback ∧ after.traceLevel = s.traceLevel)
    (lines : after.traced = s.traced ∧ after.handed = s.handed) : Filtered after := by
  have configured : after.initFlag.flag = .done → Configured after := by
    intro done
    rw [initFlag] at done
    exact configured_kept (before.configured done) logInit settings.1 settings.2
  constructor
  · exact sound
  · apply positions_moved phase here
    intro other _
    exact meets_kept (before.positions other) logInit initFlag settings.1 settings.2
  · rw [phase]
    apply alone_moved before.alone
    intro inside
    rw [outside] at inside
    cases inside
  · exact configured
  · rw [lines.1, initFlag]
    exact before.quiet
  · rw [lines.1, lines.2, before.handed]
    by_cases nothing : s.traced = []
    · rw [nothing]
      rfl
    · rw [logInit (before.configured (before.quiet nothing)).settled]

/-- A step of the thread inside the block: nothing has been traced yet. -/
theorem filtered_inside {s after : State Party} (before : Filtered s) {party : Party}
    {moved : Phase} (phase : after.phase = Function.update s.phase party moved)
    (inside : (s.phase party).inInit = true) (here : Meets after moved)
    (sound : Sound silent after.mqttLibLogInit)
    (configured : after.initFlag = s.initFlag ∨ Configured after)
    (lines : after.traced = s.traced ∧ after.handed = s.handed) : Filtered after := by
  have running := running_of_in_init (before.positions party) inside
  have unfinished : s.initFlag.flag ≠ .done := by
    rw [running]
    exact fun same => by cases same
  have nothing : s.traced = [] := by
    by_contra some_traced
    exact unfinished (before.quiet some_traced)
  constructor
  · exact sound
  · apply positions_moved phase here
    intro other different
    apply meets_outside (before.positions other)
    · rw [← Bool.not_eq_true]
      intro both
      exact different (before.alone other party both inside)
    · intro done
      exact absurd done unfinished
  · rw [phase]
    apply alone_moved before.alone
    intro _ other both
    exact before.alone other party both inside
  · intro done
    rcases configured with same | configured
    · rw [same] at done
      exact absurd done unfinished
    · exact configured
  · rw [lines.1, nothing]
    intro some_traced
    exact absurd rfl some_traced
  · rw [lines.1, lines.2, before.handed, nothing]
    rfl

theorem enter_sets_running {cell after : Cell Unit} (entered : enter cell () = some (true, after)) :
    cell.flag = .fresh ∧ after.flag = .running () := by
  rcases enter_cases entered with ⟨-, fresh, rfl⟩ | ⟨passes, -, -⟩
  · exact ⟨fresh, rfl⟩
  · cases passes

/-- The first constructor goes into the block. -/
theorem filtered_enters {s : State Party} (before : Filtered s) {party : Party} {cell : Cell Unit}
    (entered : enter s.initFlag () = some (true, cell)) :
    Filtered { s.go party .libCallOnce with initFlag := cell } := by
  rcases enter_sets_running entered with ⟨fresh, running⟩
  have nobody : ∀ other, (s.phase other).inInit = false := by
    intro other
    rw [← Bool.not_eq_true]
    intro inside
    have entered := running_of_in_init (before.positions other) inside
    rw [fresh] at entered
    cases entered
  have unfinished : s.initFlag.flag ≠ .done := by
    rw [fresh]
    exact fun same => by cases same
  have nothing : s.traced = [] := by
    by_contra some_traced
    exact unfinished (before.quiet some_traced)
  constructor
  · exact before.sound
  · refine positions_moved rfl running ?_
    intro other _
    apply meets_outside (before.positions other) (nobody other)
    intro done
    exact absurd done unfinished
  · apply alone_moved before.alone
    intro _ other inside
    rw [nobody other] at inside
    cases inside
  · intro done
    have same : cell.flag = .done := done
    rw [running] at same
    cases same
  · intro some_traced
    exact absurd nothing some_traced
  · exact before.handed

theorem entered_if_done {initParam : MqttLogInit} {cell after : Cell MqttLogInit} {runs : Bool}
    (entered : enter cell initParam = some (runs, after)) (done : cell.flag = .done) :
    after = cell := (enter_keeps_done done entered).2

theorem finished_if_done {cell after : Cell MqttLogInit} (stored : finish cell = some after)
    (done : cell.flag = .done) : after = cell := by
  rw [finish_of_done done] at stored
  cases stored

theorem trace_call_of_real {second : LogLevelLib} (real : second ≠ .none) :
    ∃ level, (traceCall second : Call Unit) = .setTraceLevel level := by
  cases second with
  | none => exact absurd rfl real
  | _ => exact ⟨_, rfl⟩

theorem filtered_step {s after : State Party} {action : Action Party} (before : Filtered s)
    (transition : Transition s action after) : Filtered after := by
  cases transition with
  | initLogMqttLib here =>
      exact filtered_outside before rfl rfl trivial before.sound (fun _ => rfl) rfl
        ⟨rfl, rfl⟩ ⟨rfl, rfl⟩
  | construct here =>
      exact filtered_outside before rfl rfl trivial before.sound (fun _ => rfl) rfl
        ⟨rfl, rfl⟩ ⟨rfl, rfl⟩
  | @callOnce party initParam runs cell here entered =>
      refine filtered_outside before rfl ?_ ?_ (sound_enter before.sound entered)
        (entered_if_done entered) rfl ⟨rfl, rfl⟩ ⟨rfl, rfl⟩
      · cases runs <;> rfl
      · cases runs <;> trivial
  | store here stored =>
      exact filtered_outside before rfl rfl trivial (sound_finish before.sound stored)
        (finished_if_done stored) rfl ⟨rfl, rfl⟩ ⟨rfl, rfl⟩
  | @initOnce party runs cell here entered =>
      cases runs with
      | true => exact filtered_enters before entered
      | false =>
          rcases enter_cases entered with ⟨runs, -, -⟩ | ⟨-, done, same⟩
          · cases runs
          · exact filtered_outside before rfl rfl (by rw [same]; exact done) before.sound
              (fun _ => rfl) same ⟨rfl, rfl⟩ ⟨rfl, rfl⟩
  | @libCallOnce party runs cell here entered =>
      have running := running_of_in_init (before.positions party) (by rw [here]; rfl)
      refine filtered_inside before rfl (by rw [here]; rfl) ?_
        (sound_enter before.sound entered) (.inl rfl) ⟨rfl, rfl⟩
      cases runs with
      | true => exact running
      | false =>
          rcases enter_cases entered with ⟨runs, -, -⟩ | ⟨-, done, same⟩
          · cases runs
          · exact ⟨running, by rw [same]; exact done, rfl⟩
  | @libStore party cell here stored =>
      have running := running_of_in_init (before.positions party) (by rw [here]; rfl)
      exact filtered_inside before rfl (by rw [here]; rfl)
        ⟨running, finish_sets_done stored, rfl⟩ (sound_finish before.sound stored) (.inl rfl)
        ⟨rfl, rfl⟩
  | @noTraceCallback party logInfo here level =>
      have meets := before.positions party
      rw [here] at meets
      rcases meets with ⟨running, settled, asked⟩
      refine filtered_inside before rfl (by rw [here]; rfl) ⟨running, ?_⟩ before.sound (.inl rfl)
        ⟨rfl, rfl⟩
      constructor
      · exact settled
      · simp [State.go, asked, level]
      · simp [State.go, asked, level]
  | @setTraceCallback party logInfo here level =>
      have meets := before.positions party
      rw [here] at meets
      rcases meets with ⟨running, settled, asked⟩
      exact filtered_inside before rfl (by rw [here]; rfl)
        ⟨running, settled, asked, rfl, level⟩ before.sound (.inl rfl) ⟨rfl, rfl⟩
  | @setTraceLevel party logInfo here =>
      have meets := before.positions party
      rw [here] at meets
      rcases meets with ⟨running, settled, asked, installed, real⟩
      rcases trace_call_of_real real with ⟨traceLevel, level⟩
      rw [level]
      refine filtered_inside before rfl (by rw [here]; rfl) ⟨running, ?_⟩ before.sound (.inl rfl)
        ⟨rfl, rfl⟩
      constructor
      · exact settled
      · simp [configure, State.go, asked, installed, real]
      · intro _
        simpa [configure, State.go, asked] using level
  | @leaveInit party cell here left =>
      have meets := before.positions party
      rw [here] at meets
      have configured : Configured { s.go party .constructed with initFlag := cell } :=
        configured_kept meets.2 (fun _ => rfl) rfl rfl
      exact filtered_inside before rfl (by rw [here]; rfl) (finish_sets_done left) before.sound
        (.inr configured) ⟨rfl, rfl⟩
  | @trace party lvl pTxt here =>
      have done : s.initFlag.flag = .done := by
        have meets := before.positions party
        rw [here] at meets
        exact meets
      have configured := before.configured done
      have winner := winner_of_done before.sound configured.settled
      constructor
      · exact before.sound
      · intro other
        exact meets_kept (before.positions other) (fun _ => rfl) rfl rfl rfl
      · exact before.alone
      · intro _
        exact configured_kept configured (fun _ => rfl) rfl rfl
      · exact fun _ => done
      · show s.handed ++ _ = wantedLines s.mqttLibLogInit.winner (s.traced ++ [_])
        rw [traced_line configured, wanted_lines_append, ← before.handed, winner,
          wanted_lines_of_winner]

theorem reached_filtered {s : State Party} (reached : Reached (system Party) s) :
    Filtered s := by
  apply invariant_of_step Filtered _ _ reached
  · rintro _ ⟨traceLevel, rfl⟩
    constructor
    · exact .fresh
    · exact fun _ => trivial
    · intro one other inside
      cases inside
    · intro done
      cases done
    · intro some_traced
      exact absurd rfl some_traced
    · rfl
  · intro s action after _ before _ taken
    exact filtered_step before (step_transition taken)

/-- No later call of `InitLogMqttLib` takes the settings back. -/
theorem winner_kept {s after : State Party} {action : Action Party} {params : MqttLogInit}
    (before : Filtered s) (winner : s.mqttLibLogInit.winner = some params)
    (transition : Transition s action after) : after.mqttLibLogInit.winner = some params := by
  cases transition with
  | callOnce here entered | libCallOnce here entered =>
      exact enter_keeps_winner before.sound winner entered
  | store here stored | libStore here stored => exact finish_keeps_winner winner stored
  | @setTraceLevel party logInfo here =>
      generalize traceCall logInfo.second = call
      cases call <;> exact winner
  | _ => exact winner

/-- The first call of `InitLogMqttLib` decides for good which of the traced lines
come to the user: the trace level that the library filters by drops no line that
`LogMqttLib` would hand over, and `LogMqttLib` never reads the settings while they
are stored. -/
theorem user_gets_wanted_traces {s after : State Party} (reached : Reached (system Party) s)
    {params : MqttLogInit} (winner : s.mqttLibLogInit.winner = some params)
    (labels : List (Action Party)) (ran : execute (system Party) s labels = some after) :
    after.handed = wantedLines (some params) after.traced ∧
      ∀ party, after.phase party = .constructed →
        after.mqttLibLogInit.flag = .done ∧ after.mqttLibLogInit.value = params := by
  have kept : after.mqttLibLogInit.winner = some params := by
    apply invariant_of_execute
      (fun state : State Party => state.mqttLibLogInit.winner = some params) _ labels reached
      winner ran
    intro state action next within before taken
    exact winner_kept (reached_filtered within) before (step_transition taken)
  have later : Reached (system Party) after := reached_of_execute labels reached ran
  have filtered := reached_filtered later
  constructor
  · rw [filtered.handed, kept]
  · intro party here
    have meets := filtered.positions party
    rw [here] at meets
    have settled := (filtered.configured meets).settled
    have value := winner_of_done filtered.sound settled
    rw [kept] at value
    exact ⟨settled, (Option.some.inj value).symm⟩

def firstCallSchedule : List (Action Nat) := [.initLogMqttLib 0 ⟨true, .debug⟩, .advance 0]

/-- Two constructors come while the first caller has still to store its settings. -/
def twoConstructorsSchedule : List (Action Nat) :=
  [.construct 1, .construct 2, .advance 1, .advance 0, .advance 1, .advance 1, .advance 1,
    .advance 1, .advance 2, .trace 2 .minimum (text "t"), .trace 1 .protocol (text "p"),
    .trace 2 .severe (text "s")]

theorem two_constructors_trace :
    ∃ s after : State Nat,
      execute (system Nat) { traceLevel := .error } firstCallSchedule = some s ∧
      execute (system Nat) s twoConstructorsSchedule = some after ∧
      after.handed = [⟨.debug, text "p"⟩, ⟨.error, text "s"⟩] ∧
      after.handed = wantedLines (some ⟨true, .debug⟩) after.traced ∧
      ∀ party, after.phase party = .constructed →
        after.mqttLibLogInit.flag = .done ∧
          after.mqttLibLogInit.value = ⟨true, .debug⟩ := by
  refine ⟨_, _, rfl, rfl, rfl, ?_⟩
  have reached := @reached_of_execute _ _ (system Nat) firstCallSchedule
    { traceLevel := .error } _ (.start ⟨.error, rfl⟩) rfl
  exact user_gets_wanted_traces reached rfl twoConstructorsSchedule rfl

end IMqtt.Paho.Logging
