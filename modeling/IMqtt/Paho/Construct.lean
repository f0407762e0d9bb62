import Mathlib.Data.Finset.Basic
import IMqtt.Interface.Client
import IMqtt.Library.Throwing
import IMqtt.Paho.Results

/-!
# PahoClient::PahoClient

There is no counter here: the library is initialised under a once flag and is
never cleaned up. What a constructor that throws can leave behind is the
handle that `MQTTAsync_createWithOptions` made.
-/

namespace IMqtt.Paho.Construct

open IMqtt.Defines IMqtt.Client Throwing

set_option autoImplicit false

variable {Handle : Type}

inductive TraceLevel
  | maximum | medium | minimum | protocol | error | severe | fatal
  deriving DecidableEq, Repr

/-- The calls into the library, in the words of its header. -/
inductive Call (Handle : Type)
  | globalInit (doOpensslInit : Bool)
  | setTraceCallback (installed : Bool)
  | setTraceLevel (level : TraceLevel)
  | getVersionInfo
  | createWithOptions (serverURI clientId : Str)
  | setCallbacks (handle : Handle)
  | setDisconnected (handle : Handle)
  | setConnected (handle : Handle)
  deriving DecidableEq, Repr

structure World (Handle : Type) where
  /-- `PahoClient::initFlag` has been used up. -/
  initFlag : Bool
  live : Finset Handle
  libVersion : Str := text "UNKNOWN"
  mqttLibLogInit : Option LogLevelLib := none
  calls : List (Call Handle) := []
  log : List LogEntry := []
  deriving DecidableEq

/-- What the library answers during one construction; `pClient` is the handle
that is stored when the creation succeeds. -/
structure Results (Handle : Type) where
  versionInfo : Str := []
  createWithOptions : Int := mqttasyncSuccess
  pClient : Handle
  setCallbacks : Int := mqttasyncSuccess
  setDisconnected : Int := mqttasyncSuccess
  setConnected : Int := mqttasyncSuccess
  strerror : Int → Str := fun _ => []

abbrev Building (Handle Value : Type) := Program (World Handle) Str Value

def logLine (level : LogLevel) (txt : Str) : Building Handle PUnit :=
  modify fun world => { world with log := world.log ++ [⟨level, txt⟩] }

def call (made : Call Handle) : Building Handle PUnit :=
  modify fun world => { world with calls := world.calls ++ [made] }

/-- A call whose failure throws. -/
def checked (results : Results Handle) (made : Call Handle) (rc : Int) (details : String) :
    Building Handle PUnit := do
  call made
  require (rc = mqttasyncSuccess) (text details ++ results.strerror rc)

/-- The minimum level asked of the library; the last case of the source's
switch, `NONE`, takes the callback away again. -/
def traceCall : LogLevelLib → Call Handle
  | .trace => .setTraceLevel .maximum
  | .debug => .setTraceLevel .protocol
  | .fatal => .setTraceLevel .fatal
  | .none => .setTraceCallback false
  | _ => .setTraceLevel .error

/-- The block under `call_once`. -/
def initLibrary (results : Results Handle) : Building Handle PUnit := do
  logLine .info (text "Initializing paho lib")
  call (.globalInit true)
  let world ← get
  let (level, given) := initLogMqttLib .none world.mqttLibLogInit
  modify fun world => { world with mqttLibLogInit := given }
  if level = .none then call (.setTraceCallback false)
  else do
    call (.setTraceCallback true)
    call (traceCall level)
  call .getVersionInfo
  modify fun world =>
    { world with
      libVersion := text "libpaho " ++ results.versionInfo
      initFlag := true }

def initLibraryOnce (results : Results Handle) : Building Handle PUnit := do
  let world ← get
  whenever (world.initFlag = false) do
    initLibrary results

/-- The handle exists from a successful return on. -/
def create [DecidableEq Handle] (params : InitializeParameters) (results : Results Handle) :
    Building Handle PUnit := do
  call (.createWithOptions (brokerAddress params) params.clientId)
  require (results.createWithOptions = mqttasyncSuccess)
    (text "Was not able to create paho client: " ++
      results.strerror results.createWithOptions)
  modify fun world => { world with live := insert results.pClient world.live }

def setCallbacks (results : Results Handle) : Building Handle PUnit := do
  checked results (.setCallbacks results.pClient) results.setCallbacks
    "Was not able to set paho callbacks: "
  checked results (.setDisconnected results.pClient) results.setDisconnected
    "Was not able to set paho disconnected callback: "
  checked results (.setConnected results.pClient) results.setConnected
    "Was not able to set paho connected callback: "

structure PahoClient (Handle : Type) where
  params : InitializeParameters
  pClient : Handle
  deriving DecidableEq

/-- What is left to do once the library is initialised. -/
def initInstance [DecidableEq Handle] (params : InitializeParameters)
    (results : Results Handle) : Building Handle (PahoClient Handle) := do
  logLine .info (text "Initializing paho instance")
  logLine .info (text "Broker-Address: " ++ brokerAddress params)
  require (¬ reconnectDelayRefused params) (text "reconnectDelay not properly set")
  create params results
  setCallbacks results
  return { params := params, pClient := results.pClient }

/-- `PahoClient::PahoClient`. -/
def construct [DecidableEq Handle] (params : InitializeParameters)
    (results : Results Handle) : Building Handle (PahoClient Handle) := do
  initLibraryOnce results
  initInstance params results

/-! What a construction does to the live handles. -/

/-- The handle is made. -/
def Creates (params : InitializeParameters) (results : Results Handle) : Prop :=
  ¬ reconnectDelayRefused params ∧ results.createWithOptions = mqttasyncSuccess

/-- The steps behind the creation do not throw. -/
def SetsCallbacks (results : Results Handle) : Prop :=
  results.setCallbacks = mqttasyncSuccess ∧ results.setDisconnected = mqttasyncSuccess ∧
    results.setConnected = mqttasyncSuccess

abbrev core (world : World Handle) : Bool × Finset Handle := (world.initFlag, world.live)

theorem checked_keeps_core (results : Results Handle) (made : Call Handle) (rc : Int)
    (details : String) : Keeps core (checked results made rc details) :=
  keeps_bind (keeps_modify fun _ => rfl) fun _ => keeps_require _ _

theorem checked_decides (results : Results Handle) (made : Call Handle) (rc : Int)
    (details : String) :
    Decides (checked results made rc details) (rc = mqttasyncSuccess) :=
  decides_bind_of_returns (decides_modify _) fun _ => decides_require _ _

theorem set_callbacks_keeps_core (results : Results Handle) :
    Keeps core (setCallbacks results) := by
  apply keeps_bind (checked_keeps_core _ _ _ _)
  intro _
  apply keeps_bind (checked_keeps_core _ _ _ _)
  intro _
  exact checked_keeps_core _ _ _ _

theorem set_callbacks_decides (results : Results Handle) :
    Decides (setCallbacks results) (SetsCallbacks results) := by
  apply decides_bind (checked_decides _ _ _ _)
  intro _
  apply decides_bind (checked_decides _ _ _ _)
  intro _
  exact checked_decides _ _ _ _

theorem init_library_once_outcome (results : Results Handle) (before : World Handle) :
    (outcome (initLibraryOnce results) before).1 = .ok ⟨⟩ ∧
      core (outcome (initLibraryOnce results) before).2 = (true, before.live) := by
  simp only [initLibraryOnce, initLibrary, whenever, outcome_bind, outcome_get]
  cases flag : before.initFlag with
  | true => simp [outcome_pure, core, flag]
  | false =>
      simp only [if_true, logLine, call, outcome_bind, outcome_get, outcome_modify]
      split <;> exact ⟨rfl, rfl⟩

variable [DecidableEq Handle]

theorem create_decides (params : InitializeParameters) (results : Results Handle) :
    Decides (create params results) (results.createWithOptions = mqttasyncSuccess) := by
  apply decides_bind_of_returns (decides_modify _)
  intro _
  apply decides_of_iff
  · apply decides_bind (decides_require _ _)
    intro _
    exact decides_modify _
  · rw [and_true]

theorem init_instance_decides (params : InitializeParameters) (results : Results Handle) :
    Decides (initInstance params results)
      (Creates params results ∧ SetsCallbacks results) := by
  apply decides_bind_of_returns (decides_modify _)
  intro _
  apply decides_bind_of_returns (decides_modify _)
  intro _
  apply decides_of_iff
  · apply decides_bind (decides_require _ _)
    intro _
    apply decides_bind (create_decides params results)
    intro _
    apply decides_bind (set_callbacks_decides results)
    intro _
    exact decides_pure _
  · rw [and_true, Creates, and_assoc]

instance (params : InitializeParameters) (results : Results Handle) :
    Decidable (Creates params results) :=
  inferInstanceAs (Decidable (¬ reconnectDelayRefused params ∧
    results.createWithOptions = mqttasyncSuccess))

theorem init_instance_core (params : InitializeParameters) (results : Results Handle)
    (before : World Handle) :
    core (outcome (initInstance params results) before).2 =
      (before.initFlag,
        if Creates params results then insert results.pClient before.live
        else before.live) := by
  by_cases refused : reconnectDelayRefused params
  · simp [initInstance, logLine, require, outcome_bind, outcome_modify, outcome_throw,
      core, Creates, refused]
  · by_cases created : results.createWithOptions = mqttasyncSuccess
    · simp only [initInstance, logLine, create, call, require, outcome_bind, outcome_modify,
        outcome_pure, Creates, refused, created, not_false_eq_true, and_self, if_true]
      split
      · rename_i ended
        have same := congrArg (fun pair => core pair.2) ended
        exact same.symm.trans (set_callbacks_keeps_core results _)
      · rename_i ended
        have same := congrArg (fun pair => core pair.2) ended
        exact same.symm.trans (set_callbacks_keeps_core results _)
    · simp [initInstance, logLine, create, call, require, outcome_bind, outcome_modify,
        outcome_throw, core, Creates, refused, created]

theorem construct_outcome (params : InitializeParameters) (results : Results Handle)
    (before : World Handle) :
    ∃ middle : World Handle, core middle = (true, before.live) ∧
      outcome (construct params results) before =
        outcome (initInstance params results) middle := by
  rcases init_library_once_outcome results before with ⟨returned, view⟩
  refine ⟨_, view, ?_⟩
  rw [construct, outcome_bind]
  cases ended : outcome (initLibraryOnce results) before with
  | mk result middle =>
      rw [ended] at returned
      cases returned
      rfl

/-- Either a client and one more live handle, or the handles as they were. -/
def ClientOrHandlesRestored (before : World Handle) :
    Except Str (PahoClient Handle) × World Handle → Prop
  | (.ok _, after) => ∃ handle, handle ∉ before.live ∧ after.live = insert handle before.live
  | (.error _, after) => after.live = before.live

/-- The same, and a constructor that throws does not use up the once flag. -/
def ClientOrRestored (before : World Handle) :
    Except Str (PahoClient Handle) × World Handle → Prop
  | (.ok _, after) => ∃ handle, handle ∉ before.live ∧ after.live = insert handle before.live
  | (.error _, after) => core after = core before

theorem construct_cases (params : InitializeParameters) (results : Results Handle)
    (before : World Handle) :
    (Creates params results ∧ SetsCallbacks results ∧
        ∃ client after, outcome (construct params results) before = (.ok client, after) ∧
          core after = (true, insert results.pClient before.live)) ∨
      (¬ (Creates params results ∧ SetsCallbacks results) ∧
        ∃ error after, outcome (construct params results) before = (.error error, after) ∧
          core after = (true, if Creates params results
            then insert results.pClient before.live else before.live)) := by
  rcases construct_outcome params results before with ⟨middle, entered, ran⟩
  have decides := init_instance_decides params results middle
  have view := init_instance_core params results middle
  simp only [core, Prod.mk.injEq] at entered
  rw [entered.1, entered.2] at view
  rw [ran]
  cases ended : outcome (initInstance params results) middle with
  | mk result after =>
      rw [ended] at view
      cases result with
      | ok client =>
          have holds := decides.mp ⟨client, by rw [ended]⟩
          rw [if_pos holds.1] at view
          exact .inl ⟨holds.1, holds.2, client, after, rfl, view⟩
      | error error =>
          have throws : ¬ (Creates params results ∧ SetsCallbacks results) := by
            intro holds
            rcases decides.mpr holds with ⟨client, returned⟩
            rw [ended] at returned
            cases returned
          exact .inr ⟨throws, error, after, rfl, view⟩

/-- A handle is left behind exactly when one was made and a callback cannot be
set. -/
theorem client_or_handles_restored_iff (params : InitializeParameters)
    (results : Results Handle) (before : World Handle)
    (fresh : results.pClient ∉ before.live) :
    ClientOrHandlesRestored before (outcome (construct params results) before) ↔
      (Creates params results → SetsCallbacks results) := by
  rcases construct_cases params results before with
    ⟨creates, sets, client, after, ran, view⟩ | ⟨fails, error, after, ran, view⟩
  · rw [ran]
    have live : after.live = insert results.pClient before.live := congrArg Prod.snd view
    exact iff_of_true ⟨results.pClient, fresh, live⟩ fun _ => sets
  · rw [ran]
    have live := congrArg Prod.snd view
    simp only at live
    by_cases creates : Creates params results
    · rw [if_pos creates] at live
      apply iff_of_false
      · intro restored
        have same : after.live = before.live := restored
        apply fresh
        rw [← same, live]
        exact Finset.mem_insert_self _ _
      · intro sets
        exact fails ⟨creates, sets creates⟩
    · rw [if_neg creates] at live
      exact iff_of_true live fun made => absurd made creates

theorem client_or_restored_iff (params : InitializeParameters)
    (results : Results Handle) (before : World Handle)
    (fresh : results.pClient ∉ before.live) :
    ClientOrRestored before (outcome (construct params results) before) ↔
      (Creates params results → SetsCallbacks results) ∧
        (Creates params results ∨ before.initFlag = true) := by
  have handles := client_or_handles_restored_iff params results before fresh
  rcases construct_cases params results before with
    ⟨creates, sets, client, after, ran, view⟩ | ⟨fails, error, after, ran, view⟩
  · rw [ran] at handles ⊢
    exact (handles.trans (and_iff_left (.inl creates)).symm)
  · rw [ran] at handles ⊢
    have flag : after.initFlag = true := congrArg Prod.fst view
    constructor
    · intro restored
      have kept := handles.mp (congrArg Prod.snd restored)
      have same : after.initFlag = before.initFlag := congrArg Prod.fst restored
      exact ⟨kept, .inr (same.symm.trans flag)⟩
    · rintro ⟨kept, used⟩
      have unmade : ¬ Creates params results := fun made => fails ⟨made, kept made⟩
      have before_used := used.resolve_left unmade
      have live : after.live = before.live := handles.mpr kept
      exact Prod.ext (flag.trans before_used.symm) live

end IMqtt.Paho.Construct
