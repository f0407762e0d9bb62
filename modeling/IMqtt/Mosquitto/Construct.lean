import Mathlib.Data.Finset.Basic
import IMqtt.Interface.Client
import IMqtt.Library.Throwing
import IMqtt.Mosquitto.Library

/-!
# MosquittoClient::MosquittoClient and ~MosquittoClient

The constructor is a program that may throw. `World` is what outlives it: the
static counter, the library and its live handles. A constructor that throws
leaves no object, and the destructor of an object that was never made does not
run, so nothing is taken back.
-/

namespace IMqtt.Mosquitto.Construct

open IMqtt.Defines IMqtt.Client Throwing

set_option autoImplicit false

variable {Handle : Type}

inductive Callback
  | log | connect | disconnect | publish | message | subscribe | unsubscribe
  deriving DecidableEq, Repr

/-- The calls into the library, in the words of its header. -/
inductive Call (Handle : Type)
  | libInit
  | libVersion
  | new (clientId : Str) (cleanSession : Bool)
  | callbackSet (mosq : Option Handle) (callback : Callback)
  | usernamePwSet (mosq : Option Handle) (username password : Str)
  | reconnectDelaySet (mosq : Option Handle) (delay delayMax : Int32)
      (exponentialBackoff : Bool)
  | intOptionProtocolV5 (mosq : Option Handle)
  | tlsSet (mosq : Option Handle) (cafile capath certfile keyfile : Option Str)
  | tlsOptsSetVerifyPeer (mosq : Option Handle)
  | loopStart (mosq : Option Handle)
  | disconnectV5 (mosq : Option Handle) (reasonCode : Int)
  | loopStop (mosq : Option Handle) (force : Bool)
  | destroy (mosq : Option Handle)
  | libCleanup
  deriving DecidableEq, Repr

structure World (Handle : Type) where
  /-- `MosquittoClient::counter`. -/
  counter : UInt32
  /-- The library has been initialised and not been cleaned up. -/
  initialised : Bool
  live : Finset Handle
  libVersion : Str := text "UNKNOWN"
  mqttLibLogInit : Option LogLevelLib := none
  calls : List (Call Handle) := []
  log : List LogEntry := []
  deriving DecidableEq

/-- What the library and the random generator answer during one construction. -/
structure Results (Handle : Type) where
  libInit : Int := mosqErrSuccess
  libVersion : Int × Int × Int × Int := (2, 0, 0, 2000000)
  /-- `none` for a null pointer. -/
  new : Option Handle
  usernamePwSet : Int := mosqErrSuccess
  draw : Int32 := 0
  reconnectDelaySet : Int := mosqErrSuccess
  intOption : Int := mosqErrSuccess
  tlsSet : Int := mosqErrSuccess
  tlsOptsSet : Int := mosqErrSuccess
  loopStart : Int := mosqErrSuccess
  strerror : Int → Str := fun _ => []

abbrev Building (Handle Value : Type) := Program (World Handle) Str Value

def logLine (level : LogLevel) (txt : Str) : Building Handle PUnit :=
  modify fun world => { world with log := world.log ++ [⟨level, txt⟩] }

def call (made : Call Handle) : Building Handle PUnit :=
  modify fun world => { world with calls := world.calls ++ [made] }

/-- A call whose failure throws. -/
def checked (results : Results Handle) (made : Call Handle) (rc : Int) (details : String) :
    Building Handle PUnit := do
  call made
  require (rc = mosqErrSuccess) (text details ++ results.strerror rc)

/-- `counter.fetch_add(1)`. -/
def fetchAdd : Building Handle UInt32 := do
  let world ← get
  modify fun world => { world with counter := world.counter + 1 }
  return world.counter

def libVersionText : Int × Int × Int × Int → Str
  | (major, minor, patch, vers) =>
      text "libmosquitto " ++ toStr major ++ text "." ++ toStr minor ++ text "." ++
        toStr patch ++ text " (" ++ toStr vers ++ text ")"

def callLibInit (results : Results Handle) : Building Handle PUnit := do
  call .libInit
  modify fun world =>
    { world with initialised := world.initialised || results.libInit == mosqErrSuccess }

/-- The block under `libMutex`. -/
def initLibrary (results : Results Handle) : Building Handle PUnit := do
  let counter ← fetchAdd
  if counter = 0 then do
    logLine .info (text "Initializing mosquitto lib")
    callLibInit results
    require (results.libInit = mosqErrSuccess)
      (text "Was not able to initialize mosquitto lib: " ++ results.strerror results.libInit)
    call .libVersion
    modify fun world => { world with libVersion := libVersionText results.libVersion }

def newInstance [DecidableEq Handle] (params : InitializeParameters) (results : Results Handle) :
    Building Handle (Option Handle) := do
  call (.new params.clientId params.cleanSession)
  modify fun world => { world with live := results.new.elim world.live (insert · world.live) }
  return results.new

def setLogCallback (pMosqClient : Option Handle) : Building Handle PUnit := do
  let world ← get
  let (level, given) := initLogMqttLib .none world.mqttLibLogInit
  modify fun world => { world with mqttLibLogInit := given }
  if level ≠ .none then call (.callbackSet pMosqClient .log)

def setCallbacks (pMosqClient : Option Handle) : Building Handle PUnit := do
  call (.callbackSet pMosqClient .connect)
  call (.callbackSet pMosqClient .disconnect)
  call (.callbackSet pMosqClient .publish)
  call (.callbackSet pMosqClient .message)
  call (.callbackSet pMosqClient .subscribe)
  call (.callbackSet pMosqClient .unsubscribe)

def setTls (params : InitializeParameters) (results : Results Handle)
    (pMosqClient : Option Handle) : Building Handle PUnit := do
  checked results
    (.tlsSet pMosqClient (pathOrNull params.caFilePath) (pathOrNull params.caDirPath)
      (pathOrNull params.clientCertFilePath) (pathOrNull params.privateKeyFilePath))
    results.tlsSet "Was not able to set TLS settings: "
  checked results (.tlsOptsSetVerifyPeer pMosqClient) results.tlsOptsSet
    "Was not able to set TLS options: "

/-- Everything behind `mosquitto_new`; `withTls` is the build option. -/
def configure (withTls : Bool) (params : InitializeParameters) (results : Results Handle)
    (pMosqClient : Option Handle) : Building Handle PUnit := do
  require (¬ reconnectDelayRefused params) (text "reconnectDelay not properly set")
  setLogCallback pMosqClient
  whenever (params.mqttUsername ≠ []) do
    checked results
      (.usernamePwSet pMosqClient params.mqttUsername params.mqttPassword)
      results.usernamePwSet "Was not able to set MQTT credentials: "
  let reconnMin := params.reconnectDelayMin + results.draw
  logLine .debug (text "Reconnect delay min: " ++ toStr reconnMin.toInt ++ text "," ++
    text " max: " ++ toStr params.reconnectDelayMax.toInt)
  checked results
    (.reconnectDelaySet pMosqClient reconnMin params.reconnectDelayMax
      params.exponentialBackoff)
    results.reconnectDelaySet "Was not able to set reconnect delay: "
  checked results (.intOptionProtocolV5 pMosqClient) results.intOption
    "Was not able to set MQTT version: "
  setCallbacks pMosqClient
  whenever withTls do
    setTls params results pMosqClient
  logLine .info (text "Starting mosquitto instance")
  checked results (.loopStart pMosqClient) results.loopStart
    "Was not able to start mosquitto loop: "

structure MosquittoClient (Handle : Type) where
  params : InitializeParameters
  pMosqClient : Option Handle
  connected : Bool := false
  deriving DecidableEq

/-- What is left to do once the mutex is released. -/
def initInstance [DecidableEq Handle] (withTls : Bool) (params : InitializeParameters)
    (results : Results Handle) : Building Handle (MosquittoClient Handle) := do
  logLine .info (text "Initializing mosquitto instance")
  logLine .info (text "Broker-Address: " ++ brokerAddress params)
  let pMosqClient ← newInstance params results
  configure withTls params results pMosqClient
  return { params := params, pMosqClient := pMosqClient }

/-- `MosquittoClient::MosquittoClient`. -/
def construct [DecidableEq Handle] (withTls : Bool) (params : InitializeParameters)
    (results : Results Handle) : Building Handle (MosquittoClient Handle) := do
  initLibrary results
  initInstance withTls params results

def disconnectAsync (strerror : Int → Str) (rc : Int) (pMosqClient : Option Handle)
    (reasonCode : Int) : Building Handle ReasonCode := do
  logLine .info (text "Disconnecting from broker")
  call (.disconnectV5 pMosqClient reasonCode)
  let (status, line) := mosqRcToReasonCode strerror rc (text "mosquitto_disconnect_v5")
  logLine line.level line.txt
  return status

/-- `counter.fetch_sub(1)`. -/
def fetchSub : Building Handle UInt32 := do
  let world ← get
  modify fun world => { world with counter := world.counter - 1 }
  return world.counter

/-- `MosquittoClient::~MosquittoClient`; `rc` is what a disconnect returns. -/
def destruct [DecidableEq Handle] (strerror : Int → Str) (rc : Int)
    (client : MosquittoClient Handle) : Building Handle PUnit := do
  logLine .info (text "Deinitializing mosquitto instance")
  whenever client.connected do
    let _ ← disconnectAsync strerror rc client.pMosqClient 0
    return ⟨⟩
  call (.loopStop client.pMosqClient false)
  call (.destroy client.pMosqClient)
  modify fun world =>
    { world with live := client.pMosqClient.elim world.live world.live.erase }
  let counter ← fetchSub
  whenever (counter = 1) do
    logLine .info (text "Deinitializing mosquitto library")
    call .libCleanup
    modify fun world => { world with initialised := false }

/-! What a construction does to the counter, the library and its handles. -/

abbrev core (world : World Handle) : UInt32 × Bool × Finset Handle :=
  (world.counter, world.initialised, world.live)

theorem log_line_keeps_core (level : LogLevel) (txt : Str) :
    Keeps core (logLine level txt : Building Handle PUnit) :=
  keeps_modify fun _ => rfl

theorem call_keeps_core (made : Call Handle) : Keeps core (call made) :=
  keeps_modify fun _ => rfl

theorem checked_keeps_core (results : Results Handle) (made : Call Handle) (rc : Int)
    (details : String) : Keeps core (checked results made rc details) :=
  keeps_bind (call_keeps_core made) fun _ => keeps_require _ _

theorem checked_decides (results : Results Handle) (made : Call Handle) (rc : Int)
    (details : String) :
    Decides (checked results made rc details) (rc = mosqErrSuccess) :=
  decides_bind_of_returns (decides_modify _) fun _ => decides_require _ _

theorem set_log_callback_keeps_core (pMosqClient : Option Handle) :
    Keeps core (setLogCallback pMosqClient) := by
  intro world
  simp only [setLogCallback, outcome_bind, outcome_get, outcome_modify]
  split <;> rfl

theorem set_log_callback_decides (pMosqClient : Option Handle) :
    Decides (setLogCallback pMosqClient) True := by
  intro world
  simp only [setLogCallback, Returns, outcome_bind, outcome_get, outcome_modify]
  split <;> exact iff_true_intro ⟨_, rfl⟩

theorem set_callbacks_keeps_core (pMosqClient : Option Handle) :
    Keeps core (setCallbacks pMosqClient) := fun _ => rfl

theorem set_callbacks_decides (pMosqClient : Option Handle) :
    Decides (setCallbacks pMosqClient) True := fun _ => iff_true_intro ⟨_, rfl⟩

/-- The steps behind `mosquitto_new` that can throw do not. -/
structure Configures (withTls : Bool) (params : InitializeParameters)
    (results : Results Handle) : Prop where
  reconnectDelay : ¬ reconnectDelayRefused params
  credentials : params.mqttUsername ≠ [] → results.usernamePwSet = mosqErrSuccess
  reconnectDelaySet : results.reconnectDelaySet = mosqErrSuccess
  protocolOption : results.intOption = mosqErrSuccess
  tlsSet : withTls = true → results.tlsSet = mosqErrSuccess
  tlsOptsSet : withTls = true → results.tlsOptsSet = mosqErrSuccess
  loopStart : results.loopStart = mosqErrSuccess

theorem configure_keeps_core (withTls : Bool) (params : InitializeParameters)
    (results : Results Handle) (pMosqClient : Option Handle) :
    Keeps core (configure withTls params results pMosqClient) := by
  apply keeps_bind (keeps_require _ _)
  intro _
  apply keeps_bind (set_log_callback_keeps_core _)
  intro _
  apply keeps_bind (keeps_when _ (checked_keeps_core _ _ _ _))
  intro _
  apply keeps_bind (log_line_keeps_core _ _)
  intro _
  apply keeps_bind (checked_keeps_core _ _ _ _)
  intro _
  apply keeps_bind (checked_keeps_core _ _ _ _)
  intro _
  apply keeps_bind (set_callbacks_keeps_core _)
  intro _
  have tls : Keeps core (setTls params results pMosqClient) :=
    keeps_bind (checked_keeps_core _ _ _ _) fun _ => checked_keeps_core _ _ _ _
  apply keeps_bind (keeps_when _ tls)
  intro _
  apply keeps_bind (log_line_keeps_core _ _)
  intro _
  exact checked_keeps_core _ _ _ _

theorem configure_decides (withTls : Bool) (params : InitializeParameters)
    (results : Results Handle) (pMosqClient : Option Handle) :
    Decides (configure withTls params results pMosqClient)
      (Configures withTls params results) := by
  apply decides_of_iff
  · apply decides_bind (decides_require _ _)
    intro _
    apply decides_bind_of_returns (set_log_callback_decides _)
    intro _
    apply decides_bind (decides_when _ (checked_decides _ _ _ _))
    intro _
    apply decides_bind_of_returns (decides_modify _)
    intro _
    apply decides_bind (checked_decides _ _ _ _)
    intro _
    apply decides_bind (checked_decides _ _ _ _)
    intro _
    apply decides_bind_of_returns (set_callbacks_decides _)
    intro _
    apply decides_bind (decides_when _
      (decides_bind (checked_decides _ _ _ _) fun _ => checked_decides _ _ _ _))
    intro _
    apply decides_bind_of_returns (decides_modify _)
    intro _
    exact checked_decides _ _ _ _
  · constructor
    · rintro ⟨delay, credentials, delaySet, option, tls, loop⟩
      exact
        { reconnectDelay := delay
          credentials := credentials
          reconnectDelaySet := delaySet
          protocolOption := option
          tlsSet := fun built => (tls built).1
          tlsOptsSet := fun built => (tls built).2
          loopStart := loop }
    · intro holds
      have tls : withTls = true →
          results.tlsSet = mosqErrSuccess ∧ results.tlsOptsSet = mosqErrSuccess :=
        fun built => ⟨holds.tlsSet built, holds.tlsOptsSet built⟩
      exact ⟨holds.reconnectDelay, holds.credentials, holds.reconnectDelaySet,
        holds.protocolOption, tls, holds.loopStart⟩

/-- The library block adds to the counter whether or not it throws. -/
theorem init_library_core (results : Results Handle) (before : World Handle) :
    core (outcome (initLibrary results) before).2 =
      (before.counter + 1,
        if before.counter = 0
        then before.initialised || results.libInit == mosqErrSuccess
        else before.initialised,
        before.live) := by
  by_cases first : before.counter = 0 <;>
    by_cases success : results.libInit = mosqErrSuccess <;>
    simp [core, initLibrary, fetchAdd, callLibInit, logLine, call, require, outcome_bind,
      outcome_get, outcome_modify, outcome_throw, first, success]

theorem init_library_returns_iff (results : Results Handle) (before : World Handle) :
    Returns (initLibrary results) before ↔
      (before.counter = 0 → results.libInit = mosqErrSuccess) := by
  by_cases first : before.counter = 0 <;>
    by_cases success : results.libInit = mosqErrSuccess <;>
    simp [Returns, initLibrary, fetchAdd, callLibInit, logLine, call, require, outcome_bind,
      outcome_get, outcome_modify, outcome_throw, first, success]

variable [DecidableEq Handle]

theorem init_instance_core (withTls : Bool) (params : InitializeParameters)
    (results : Results Handle) (before : World Handle) :
    core (outcome (initInstance withTls params results) before).2 =
      (before.counter, before.initialised,
        results.new.elim before.live (insert · before.live)) := by
  simp only [initInstance, logLine, newInstance, call, outcome_bind, outcome_modify,
    outcome_pure]
  split
  · rename_i ended
    have kept := configure_keeps_core withTls params results results.new
    have same := congrArg (fun pair => core pair.2) ended
    exact same.symm.trans (kept _)
  · rename_i ended
    have kept := configure_keeps_core withTls params results results.new
    have same := congrArg (fun pair => core pair.2) ended
    exact same.symm.trans (kept _)

theorem init_instance_decides (withTls : Bool) (params : InitializeParameters)
    (results : Results Handle) :
    Decides (initInstance withTls params results) (Configures withTls params results) := by
  apply decides_bind_of_returns (decides_modify _)
  intro _
  apply decides_bind_of_returns (decides_modify _)
  intro _
  apply decides_bind_of_returns
    (decides_bind_of_returns (decides_modify _) fun _ =>
      decides_bind_of_returns (decides_modify _) fun _ => decides_pure _)
  intro pMosqClient
  apply decides_of_iff
  · apply decides_bind (configure_decides withTls params results pMosqClient)
    intro _
    exact decides_pure _
  · rw [and_true]

/-- The library block lets the construction go on. -/
def LibraryReady (results : Results Handle) (before : World Handle) : Prop :=
  before.counter = 0 → results.libInit = mosqErrSuccess

theorem construct_returns_iff (withTls : Bool) (params : InitializeParameters)
    (results : Results Handle) (before : World Handle) :
    Returns (construct withTls params results) before ↔
      LibraryReady results before ∧ Configures withTls params results := by
  have decides := init_instance_decides withTls params results
  rw [construct, returns_bind_iff, LibraryReady, ← init_library_returns_iff]
  constructor
  · rintro ⟨value, returned, built⟩
    exact ⟨⟨value, returned⟩, (decides _).mp built⟩
  · rintro ⟨⟨value, returned⟩, configures⟩
    exact ⟨value, returned, (decides _).mpr configures⟩

theorem construct_counter (withTls : Bool) (params : InitializeParameters)
    (results : Results Handle) (before : World Handle) :
    (outcome (construct withTls params results) before).2.counter = before.counter + 1 := by
  have library := init_library_core results before
  rw [construct, outcome_bind]
  cases ended : outcome (initLibrary results) before with
  | mk result middle =>
      rw [ended] at library
      have counted : middle.counter = before.counter + 1 := congrArg Prod.fst library
      cases result with
      | error error => exact counted
      | ok value =>
          have built := init_instance_core withTls params results middle
          exact (congrArg Prod.fst built).trans counted

theorem construct_core {results : Results Handle} {before : World Handle}
    (ready : LibraryReady results before) (withTls : Bool) (params : InitializeParameters) :
    core (outcome (construct withTls params results) before).2 =
      (before.counter + 1, if before.counter = 0 then true else before.initialised,
        results.new.elim before.live (insert · before.live)) := by
  have library := init_library_core results before
  rcases (init_library_returns_iff results before).mpr ready with ⟨value, returned⟩
  rw [construct, outcome_bind]
  cases ended : outcome (initLibrary results) before with
  | mk result middle =>
      rw [ended] at library returned
      cases result with
      | error error => cases returned
      | ok value =>
          simp only [init_instance_core]
          simp only [core, Prod.mk.injEq] at library
          rw [library.1, library.2.1, library.2.2]
          by_cases first : before.counter = 0
          · simp [first, ready first]
          · simp [first]

theorem init_instance_client {withTls : Bool} {params : InitializeParameters}
    {results : Results Handle} {before after : World Handle}
    {client : MosquittoClient Handle}
    (made : outcome (initInstance withTls params results) before = (.ok client, after)) :
    client.pMosqClient = results.new := by
  simp only [initInstance, logLine, newInstance, call, outcome_bind, outcome_modify,
    outcome_pure] at made
  split at made
  · cases made
    rfl
  · cases made

theorem construct_client {withTls : Bool} {params : InitializeParameters}
    {results : Results Handle} {before after : World Handle}
    {client : MosquittoClient Handle}
    (made : outcome (construct withTls params results) before = (.ok client, after)) :
    client.pMosqClient = results.new := by
  rw [construct, outcome_bind] at made
  split at made
  · exact init_instance_client made
  · cases made

/-- Either a client and one more live handle, or everything as it was. -/
def ClientOrRestored (before : World Handle) :
    Except Str (MosquittoClient Handle) × World Handle → Prop
  | (.ok _, after) => after.counter = before.counter + 1 ∧
      ∃ handle, handle ∉ before.live ∧ after.live = insert handle before.live
  | (.error _, after) => core after = core before

theorem client_or_restored_iff (withTls : Bool) (params : InitializeParameters)
    (results : Results Handle) (before : World Handle)
    (fresh : ∀ handle, results.new = some handle → handle ∉ before.live) :
    ClientOrRestored before (outcome (construct withTls params results) before) ↔
      LibraryReady results before ∧ Configures withTls params results ∧
        results.new ≠ none := by
  have counted := construct_counter withTls params results before
  have returns := construct_returns_iff withTls params results before
  cases ended : outcome (construct withTls params results) before with
  | mk result after =>
      rw [ended] at counted
      cases result with
      | error error =>
          have throws : ¬ Returns (construct withTls params results) before := by
            rintro ⟨client, returned⟩
            rw [ended] at returned
            cases returned
          constructor
          · -- the counter has moved, so nothing was restored
            intro restored
            have same : after.counter = before.counter := congrArg Prod.fst restored
            rw [counted] at same
            exact absurd same (by simp)
          · intro holds
            exact absurd (returns.mpr ⟨holds.1, holds.2.1⟩) throws
      | ok client =>
          have holds := returns.mp ⟨client, by rw [ended]⟩
          have made := construct_core holds.1 withTls params
          rw [ended] at made
          have live := congrArg (fun view => view.2.2) made
          simp only at live
          constructor
          · rintro ⟨-, handle, unused, inserted⟩
            refine ⟨holds.1, holds.2, ?_⟩
            intro null
            rw [null] at live
            have member : handle ∈ after.live := by
              rw [inserted]
              exact Finset.mem_insert_self handle before.live
            rw [live] at member
            exact unused member
          · intro succeeds
            cases created : results.new with
            | none => exact absurd created succeeds.2.2
            | some handle =>
                rw [created] at live
                exact ⟨counted, handle, fresh handle created, live⟩

theorem destruct_core (strerror : Int → Str) (rc : Int) (client : MosquittoClient Handle)
    (before : World Handle) :
    core (outcome (destruct strerror rc client) before).2 =
      (before.counter - 1, if before.counter = 1 then false else before.initialised,
        client.pMosqClient.elim before.live before.live.erase) := by
  by_cases linked : client.connected = true <;> by_cases last : before.counter = 1 <;>
    simp [core, destruct, whenever, disconnectAsync, fetchSub, logLine, call, outcome_bind,
      outcome_get, outcome_modify, linked, last]

/-- A client that was made takes back on destruction what its construction did. -/
theorem destruct_construct_core {withTls : Bool} {params : InitializeParameters}
    {results : Results Handle} {before after : World Handle}
    {client : MosquittoClient Handle}
    (fresh : ∀ handle, results.new = some handle → handle ∉ before.live)
    (counted : before.initialised = true ↔ before.counter ≠ 0)
    (made : outcome (construct withTls params results) before = (.ok client, after))
    (strerror : Int → Str) (rc : Int) :
    core (outcome (destruct strerror rc client) after).2 = core before := by
  have ready := ((construct_returns_iff withTls params results before).mp
    ⟨client, by rw [made]⟩).1
  have built := construct_core ready withTls params
  rw [made] at built
  simp only [core, Prod.mk.injEq] at built
  rw [destruct_core, construct_client made, built.1, built.2.1, built.2.2]
  have counter : before.counter + 1 - 1 = before.counter := by simp
  have last : before.counter + 1 = 1 ↔ before.counter = 0 := by simp
  have live : results.new.elim (results.new.elim before.live (insert · before.live))
      (results.new.elim before.live (insert · before.live)).erase = before.live := by
    cases created : results.new with
    | none => rfl
    | some handle => exact Finset.erase_insert (fresh handle created)
  rw [counter, live]
  by_cases first : before.counter = 0
  · have absent : before.initialised = false := by
      rw [← Bool.not_eq_true, counted, first]
      exact not_not_intro rfl
    simp [first, absent]
  · simp [first]

end IMqtt.Mosquitto.Construct
