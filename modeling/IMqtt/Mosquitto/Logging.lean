import IMqtt.Interface.LibraryLog
import IMqtt.Library.LabelledSteps

/-!
# The log of libmosquitto

A constructor asks once whether the user wants the library's log and sets the
log callback of its instance, or does not. User threads may call
`InitLogMqttLib` at any time, so may other constructors.
-/

namespace IMqtt.Mosquitto.Logging

open IMqtt.Defines IMqtt.Client IMqtt.LibraryLog LabelledSteps OnceCell

set_option autoImplicit false

universe u

def mosqLogWarning : Int := 4
def mosqLogErr : Int := 8
def mosqLogDebug : Int := 16
def mosqLogSubscribe : Int := 32
def mosqLogUnsubscribe : Int := 64
def mosqLogWebsockets : Int := 128

/-- The switch of `MosquittoClient::onLog`. -/
def logLvl (logLevel : Int) : LogLevelLib :=
  if logLevel = mosqLogWarning then .warning
  else if logLevel = mosqLogErr then .error
  else if logLevel = mosqLogSubscribe ∨ logLevel = mosqLogUnsubscribe ∨
      logLevel = mosqLogWebsockets ∨ logLevel = mosqLogDebug then .debug
  else .info

theorem log_lvl_real (logLevel : Int) : logLvl logLevel ≠ .none := by
  rw [logLvl]
  split_ifs <;> simp

/-- `MosquittoClient::onLog`. -/
def onLog (mqttLibLogInitParams : MqttLogInit) (logLevel : Int) (pTxt : List UInt8) :
    List Line :=
  logMqttLib mqttLibLogInitParams ⟨logLvl logLevel, cStr pTxt⟩

/-- Where a thread stands. One that constructs a client ends in `created`, with
the log callback of the instance set or not. -/
inductive Phase
  | idle
  | callOnce (initParam : MqttLogInit) (constructing : Bool)
  | store (constructing : Bool)
  | test
  | created (logCallback : Bool)
  deriving DecidableEq, Repr

structure State (Party : Type u) where
  mqttLibLogInit : Cell MqttLogInit := { value := silent }
  phase : Party → Phase := fun _ => .idle
  /-- The lines libmosquitto has logged for the instances. -/
  logged : List Line := []
  /-- The calls of the user's function. -/
  handed : List Line := []

inductive Action (Party : Type u)
  | initLogMqttLib (party : Party) (initParam : MqttLogInit)
  | construct (party : Party)
  | advance (party : Party)
  | log (party : Party) (logLevel : Int) (pTxt : List UInt8)
  deriving DecidableEq, Repr

variable {Party : Type u} [DecidableEq Party]

def State.go (s : State Party) (party : Party) (phase : Phase) : State Party :=
  { s with phase := Function.update s.phase party phase }

/-- The statement behind the call of `InitLogMqttLib`. -/
def returned (constructing : Bool) : Phase := if constructing then .test else .idle

def advance (s : State Party) (party : Party) : Option (State Party) :=
  match s.phase party with
  | .callOnce initParam constructing =>
      (enter s.mqttLibLogInit initParam).map fun entered =>
        { s.go party (if entered.1 then .store constructing else returned constructing) with
          mqttLibLogInit := entered.2 }
  | .store constructing =>
      (finish s.mqttLibLogInit).map fun stored =>
        { s.go party (returned constructing) with mqttLibLogInit := stored }
  | .test => some (s.go party (.created (s.mqttLibLogInit.value.second ≠ .none)))
  | _ => none

/-- Without a log callback the library's line is lost. -/
def log (s : State Party) (logCallback : Bool) (logLevel : Int) (pTxt : List UInt8) :
    State Party :=
  { s with
    logged := s.logged ++ [⟨logLvl logLevel, cStr pTxt⟩]
    handed := s.handed ++
      if logCallback then onLog s.mqttLibLogInit.value logLevel pTxt else [] }

def step (s : State Party) : Action Party → Option (State Party)
  | .initLogMqttLib party initParam =>
      if s.phase party = .idle then some (s.go party (.callOnce initParam false)) else none
  | .construct party =>
      if s.phase party = .idle then some (s.go party (.callOnce silent true)) else none
  | .advance party => advance s party
  | .log party logLevel pTxt =>
      match s.phase party with
      | .created logCallback => some (log s logCallback logLevel pTxt)
      | _ => none

def system (Party : Type u) [DecidableEq Party] : System (State Party) (Action Party) where
  initial s := s = {}
  step := step

/-! What one step can do. -/

inductive Transition (s : State Party) : Action Party → State Party → Prop
  | initLogMqttLib {party : Party} {initParam : MqttLogInit} (here : s.phase party = .idle) :
      Transition s (.initLogMqttLib party initParam) (s.go party (.callOnce initParam false))
  | construct {party : Party} (here : s.phase party = .idle) :
      Transition s (.construct party) (s.go party (.callOnce silent true))
  | callOnce {party : Party} {initParam : MqttLogInit} {constructing runs : Bool}
      {cell : Cell MqttLogInit} (here : s.phase party = .callOnce initParam constructing)
      (entered : enter s.mqttLibLogInit initParam = some (runs, cell)) :
      Transition s (.advance party)
        { s.go party (if runs then .store constructing else returned constructing) with
          mqttLibLogInit := cell }
  | store {party : Party} {constructing : Bool} {cell : Cell MqttLogInit}
      (here : s.phase party = .store constructing)
      (stored : finish s.mqttLibLogInit = some cell) :
      Transition s (.advance party)
        { s.go party (returned constructing) with mqttLibLogInit := cell }
  | test {party : Party} (here : s.phase party = .test) :
      Transition s (.advance party)
        (s.go party (.created (s.mqttLibLogInit.value.second ≠ .none)))
  | log {party : Party} {logCallback : Bool} {logLevel : Int} {pTxt : List UInt8}
      (here : s.phase party = .created logCallback) :
      Transition s (.log party logLevel pTxt) (log s logCallback logLevel pTxt)

theorem step_transition {s after : State Party} {action : Action Party}
    (taken : step s action = some after) : Transition s action after := by
  cases action with
  | initLogMqttLib party initParam =>
      rcases guarded_some taken with ⟨here, rfl⟩
      exact .initLogMqttLib here
  | construct party =>
      rcases guarded_some taken with ⟨here, rfl⟩
      exact .construct here
  | advance party =>
      cases here : s.phase party with
      | callOnce initParam constructing =>
          simp only [step, advance, here, Option.map_eq_some_iff] at taken
          rcases taken with ⟨⟨runs, cell⟩, entered, rfl⟩
          exact .callOnce here entered
      | store constructing =>
          simp only [step, advance, here, Option.map_eq_some_iff] at taken
          rcases taken with ⟨cell, stored, rfl⟩
          exact .store here stored
      | test =>
          simp only [step, advance, here, Option.some.injEq] at taken
          rw [← taken]
          exact .test here
      | idle => simp [step, advance, here] at taken
      | created logCallback => simp [step, advance, here] at taken
  | log party logLevel pTxt =>
      cases here : s.phase party with
      | created logCallback =>
          simp only [step, here, Option.some.injEq] at taken
          rw [← taken]
          exact .log here
      | _ => simp [step, here] at taken

/-- A party is past its call of `InitLogMqttLib` in the constructor. -/
def Phase.asked : Phase → Bool
  | .test | .created _ => true
  | _ => false

structure Filtered (s : State Party) : Prop where
  sound : Sound silent s.mqttLibLogInit
  settled : ∀ party, (s.phase party).asked = true → s.mqttLibLogInit.flag = .done
  installed : ∀ party logCallback, s.phase party = .created logCallback →
    (logCallback = true ↔ s.mqttLibLogInit.value.second ≠ .none)
  quiet : s.logged ≠ [] → s.mqttLibLogInit.flag = .done
  handed : s.handed = wantedLines s.mqttLibLogInit.winner s.logged

/-- A move to a phase in front of the answer. -/
theorem filtered_go {s : State Party} (before : Filtered s) (party : Party) {phase : Phase}
    (unasked : phase.asked = false) : Filtered (s.go party phase) := by
  constructor
  · exact before.sound
  · intro other asked
    rcases of_moved (fun phase : Phase => phase.asked = true) asked with moved | stays
    · rw [unasked] at moved
      cases moved
    · exact before.settled other stays
  · intro other logCallback here
    rcases of_moved (· = Phase.created logCallback) here with moved | stays
    · rw [moved] at unasked
      cases unasked
    · exact before.installed other logCallback stays
  · exact before.quiet
  · exact before.handed

omit [DecidableEq Party] in
/-- While the first call runs, no constructor has an answer and no line is logged. -/
theorem blank_of_not_done {s : State Party} (before : Filtered s)
    (unsettled : s.mqttLibLogInit.flag ≠ .done) :
    (∀ party, (s.phase party).asked = false) ∧ s.logged = [] ∧ s.handed = [] := by
  have nothing : s.logged = [] := by
    by_contra some_logged
    exact unsettled (before.quiet some_logged)
  refine ⟨?_, nothing, ?_⟩
  · intro party
    rw [← Bool.not_eq_true]
    intro asked
    exact unsettled (before.settled party asked)
  · rw [before.handed, nothing]
    rfl

omit [DecidableEq Party] in
theorem filtered_of_blank {s : State Party} (sound : Sound silent s.mqttLibLogInit)
    (unasked : ∀ party, (s.phase party).asked = false) (logged : s.logged = [])
    (handed : s.handed = []) : Filtered s := by
  constructor
  · exact sound
  · intro party asked
    rw [unasked party] at asked
    cases asked
  · intro party logCallback here
    have asked := unasked party
    rw [here] at asked
    cases asked
  · intro some_logged
    exact absurd logged some_logged
  · rw [logged, handed]
    rfl

theorem filtered_step {s after : State Party} {action : Action Party} (before : Filtered s)
    (transition : Transition s action after) : Filtered after := by
  cases transition with
  | initLogMqttLib here => exact filtered_go before _ rfl
  | construct here => exact filtered_go before _ rfl
  | @callOnce party initParam constructing runs cell here entered =>
      have sound := sound_enter before.sound entered
      rcases enter_cases entered with ⟨first, fresh, -⟩ | ⟨passes, done, same⟩
      · have unsettled : s.mqttLibLogInit.flag ≠ .done := by
          rw [fresh]
          exact fun same => by cases same
        rcases blank_of_not_done before unsettled with ⟨unasked, logged, handed⟩
        rw [first, if_pos rfl]
        refine filtered_of_blank sound ?_ logged handed
        intro other
        rw [← Bool.not_eq_true]
        intro asked
        rcases of_moved (fun phase : Phase => phase.asked = true) asked with moved | stays
        · cases moved
        · rw [unasked other] at stays
          cases stays
      · rw [passes, same]
        constructor
        · exact before.sound
        · exact fun _ _ => done
        · intro other logCallback installed
          rcases of_moved (· = Phase.created logCallback) installed with moved | stays
          · cases constructing <;> cases moved
          · exact before.installed other logCallback stays
        · exact before.quiet
        · exact before.handed
  | @store party constructing cell here stored =>
      have sound := sound_finish before.sound stored
      rcases finish_some stored with ⟨value, running, same⟩
      have unsettled : s.mqttLibLogInit.flag ≠ .done := by
        rw [running]
        exact fun same => by cases same
      rcases blank_of_not_done before unsettled with ⟨unasked, logged, handed⟩
      have done : cell.flag = .done := by rw [same]
      constructor
      · exact sound
      · exact fun _ _ => done
      · intro other logCallback installed
        rcases of_moved (· = Phase.created logCallback) installed with moved | stays
        · cases constructing <;> cases moved
        · have asked := unasked other
          rw [stays] at asked
          cases asked
      · exact fun _ => done
      · show s.handed = wantedLines cell.winner s.logged
        rw [logged, handed]
        rfl
  | @test party here =>
      have done := before.settled party (by rw [here]; rfl)
      constructor
      · exact before.sound
      · exact fun _ _ => done
      · intro other logCallback installed
        rcases of_moved (· = Phase.created logCallback) installed with moved | stays
        · rw [← Phase.created.inj moved, decide_eq_true_eq]
          exact Iff.rfl
        · exact before.installed other logCallback stays
      · exact before.quiet
      · exact before.handed
  | @log party logCallback logLevel pTxt here =>
      have done := before.settled party (by rw [here]; rfl)
      have winner := winner_of_done before.sound done
      constructor
      · exact before.sound
      · exact before.settled
      · exact before.installed
      · exact fun _ => done
      · show s.handed ++ _ = wantedLines s.mqttLibLogInit.winner (s.logged ++ [_])
        rw [wanted_lines_append, ← before.handed, winner, wanted_lines_of_winner]
        cases logCallback with
        | true => rfl
        | false =>
            have level : s.mqttLibLogInit.value.second = .none := by
              by_contra wanted
              have installed := (before.installed party false here).mpr wanted
              cases installed
            rw [none_wanted level (log_lvl_real logLevel)]
            rfl

theorem reached_filtered {s : State Party} (reached : Reached (system Party) s) :
    Filtered s := by
  apply invariant_of_step Filtered _ _ reached
  · intro s start
    have begins : s = {} := start
    rw [begins]
    exact filtered_of_blank .fresh (fun _ => rfl) rfl rfl
  · intro s action after _ before _ taken
    exact filtered_step before (step_transition taken)

/-- No later call of `InitLogMqttLib` takes the settings back. -/
theorem winner_kept {s after : State Party} {action : Action Party} {params : MqttLogInit}
    (before : Filtered s) (winner : s.mqttLibLogInit.winner = some params)
    (transition : Transition s action after) : after.mqttLibLogInit.winner = some params := by
  cases transition with
  | callOnce here entered => exact enter_keeps_winner before.sound winner entered
  | store here stored => exact finish_keeps_winner winner stored
  | _ => exact winner

/-- The first call of `InitLogMqttLib` decides for good which of the library's
lines come to the user, whatever is called before the log callback is set or
left out; and `LogMqttLib` never reads the settings while they are stored. -/
theorem user_gets_wanted_lines {s after : State Party} (reached : Reached (system Party) s)
    {params : MqttLogInit} (winner : s.mqttLibLogInit.winner = some params)
    (labels : List (Action Party)) (ran : execute (system Party) s labels = some after) :
    after.handed = wantedLines (some params) after.logged ∧
      ∀ party logCallback, after.phase party = .created logCallback →
        after.mqttLibLogInit.flag = .done ∧ after.mqttLibLogInit.value = params := by
  have kept : after.mqttLibLogInit.winner = some params := by
    apply invariant_of_execute
      (fun state : State Party => state.mqttLibLogInit.winner = some params) _ labels reached
      winner ran
    intro state action next within before taken
    exact winner_kept (reached_filtered within) before (step_transition taken)
  have later : Reached (system Party) after := reached_of_execute labels reached ran
  have filtered := reached_filtered later
  constructor
  · rw [filtered.handed, kept]
  · intro party logCallback here
    have done := filtered.settled party (by rw [here]; rfl)
    have value := winner_of_done filtered.sound done
    rw [kept] at value
    exact ⟨done, (Option.some.inj value).symm⟩

def firstCallSchedule : List (Action Nat) := [.initLogMqttLib 0 ⟨true, .info⟩, .advance 0]

/-- The first caller has still to store its settings when a constructor comes. -/
def lateConstructorSchedule : List (Action Nat) :=
  [.construct 2, .initLogMqttLib 1 ⟨true, .trace⟩, .advance 0, .advance 2, .advance 1,
    .advance 2, .log 2 mosqLogDebug (text "d"), .log 2 mosqLogErr (text "e")]

theorem late_constructor_logs_errors :
    ∃ s after : State Nat, execute (system Nat) {} firstCallSchedule = some s ∧
      execute (system Nat) s lateConstructorSchedule = some after ∧
      after.handed = [⟨.error, text "e"⟩] ∧
      after.handed = wantedLines (some ⟨true, .info⟩) after.logged ∧
      ∀ party logCallback, after.phase party = .created logCallback →
        after.mqttLibLogInit.flag = .done ∧
          after.mqttLibLogInit.value = ⟨true, .info⟩ := by
  refine ⟨_, _, rfl, rfl, rfl, ?_⟩
  have reached := @reached_of_execute _ _ (system Nat) firstCallSchedule {} _ (.start rfl) rfl
  exact user_gets_wanted_lines reached rfl lateConstructorSchedule rfl

end IMqtt.Mosquitto.Logging
