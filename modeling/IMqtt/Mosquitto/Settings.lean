import IMqtt.Mosquitto.Construct

/-!
# What the constructor sets on its client

The credentials, the reconnect delays and the TLS files go to the library once
each at most, in this order, and a constructor that throws has handed over the
first of them. The password of the private key is not handed over: the library
asks for it through a callback.
-/

namespace IMqtt.Mosquitto.Settings

open IMqtt.Defines IMqtt.Client IMqtt.Mosquitto.Construct Throwing

set_option autoImplicit false

variable {Handle : Type}

inductive Setting
  | credentials (username password : Str)
  | reconnectDelay (delay delayMax : Int32)
  | tlsFiles (cafile capath certfile keyfile : Option Str)
  deriving DecidableEq, Repr

def setting? : Call Handle → Option Setting
  | .usernamePwSet _ username password => some (.credentials username password)
  | .reconnectDelaySet _ delay delayMax _ => some (.reconnectDelay delay delayMax)
  | .tlsSet _ cafile capath certfile keyfile =>
      some (.tlsFiles cafile capath certfile keyfile)
  | _ => none

def settings (world : World Handle) : List Setting := world.calls.filterMap setting?

/-- The lambda given to `mosquitto_tls_set`: what it writes to the buffer of
`size` bytes, and its result. -/
def pemPasswordCb (params : InitializeParameters) (size : Nat) (rwflag : Int) :
    List UInt8 × Int :=
  if rwflag ≠ 0 then
    let copied := params.privateKeyPassword.take size
    (copied, copied.length)
  else ([], 0)

def credentialSettings (params : InitializeParameters) : List Setting :=
  if params.mqttUsername ≠ [] then [.credentials params.mqttUsername params.mqttPassword]
  else []

def tlsSettings (withTls : Bool) (params : InitializeParameters) : List Setting :=
  if withTls then
    [.tlsFiles (pathOrNull params.caFilePath) (pathOrNull params.caDirPath)
      (pathOrNull params.clientCertFilePath) (pathOrNull params.privateKeyFilePath)]
  else []

/-- What a construction that draws `draw` hands over. -/
def constructSettings (withTls : Bool) (params : InitializeParameters) (draw : Int32) :
    List Setting :=
  credentialSettings params ++
    (.reconnectDelay (params.reconnectDelayMin + draw) params.reconnectDelayMax ::
      tlsSettings withTls params)

theorem call_appends (made : Call Handle) :
    Appends settings (call made) (setting? made).toList := by
  apply appends_modify
  intro world
  rw [settings, List.filterMap_append]
  cases made <;> rfl

theorem checked_appends (results : Results Handle) (made : Call Handle) (rc : Int)
    (details : String) :
    Appends settings (checked results made rc details) (setting? made).toList := by
  have appended := appends_bind (call_appends made) fun _ =>
    appends_of_keeps (keeps_require (rc = mosqErrSuccess)
      (text details ++ results.strerror rc))
  rw [List.append_nil] at appended
  exact appended

theorem log_line_keeps (level : LogLevel) (txt : Str) :
    Keeps settings (logLine level txt : Building Handle PUnit) := keeps_modify fun _ => rfl

theorem unset_call_keeps {made : Call Handle} (unset : setting? made = none) :
    Keeps settings (call made) := by
  apply keeps_modify
  intro world
  rw [settings, List.filterMap_append, List.filterMap_cons, unset]
  exact List.append_nil _

theorem init_library_keeps (results : Results Handle) :
    Keeps settings (initLibrary results) := by
  have library : Keeps settings (callLibInit results) :=
    keeps_bind (unset_call_keeps rfl) fun _ => keeps_modify fun _ => rfl
  have counted : Keeps settings (fetchAdd : Building Handle UInt32) := fun _ => rfl
  apply keeps_bind counted
  intro counter
  split
  · apply keeps_bind (log_line_keeps _ _)
    intro _
    apply keeps_bind library
    intro _
    apply keeps_bind (keeps_require _ _)
    intro _
    apply keeps_bind (unset_call_keeps rfl)
    intro _
    exact keeps_modify fun _ => rfl
  · exact keeps_pure _

theorem set_log_callback_keeps (pMosqClient : Option Handle) :
    Keeps settings (setLogCallback pMosqClient) := by
  intro world
  simp only [setLogCallback, outcome_bind, outcome_get, outcome_modify]
  split
  · exact unset_call_keeps rfl _
  · rfl

theorem set_callbacks_keeps (pMosqClient : Option Handle) :
    Keeps settings (setCallbacks pMosqClient) := by
  iterate 5
    apply keeps_bind (unset_call_keeps rfl)
    intro _
  exact unset_call_keeps rfl

theorem set_tls_appends (params : InitializeParameters) (results : Results Handle)
    (pMosqClient : Option Handle) :
    Appends settings (setTls params results pMosqClient) (tlsSettings true params) :=
  appends_bind (checked_appends _ _ _ _) fun _ => checked_appends _ _ _ _

theorem configure_appends (withTls : Bool) (params : InitializeParameters)
    (results : Results Handle) (pMosqClient : Option Handle) :
    Appends settings (configure withTls params results pMosqClient)
      (constructSettings withTls params results.draw) := by
  have credentials : Appends settings
      (whenever (params.mqttUsername ≠ []) do
        checked results (.usernamePwSet pMosqClient params.mqttUsername params.mqttPassword)
          results.usernamePwSet "Was not able to set MQTT credentials: ")
      (credentialSettings params) := appends_when _ (checked_appends _ _ _ _)
  have tls : Appends settings (whenever withTls do setTls params results pMosqClient)
      (tlsSettings withTls params) := appends_when _ (set_tls_appends params results _)
  have listed : constructSettings withTls params results.draw =
      [] ++ ([] ++ (credentialSettings params ++ ([] ++ ([.reconnectDelay
        (params.reconnectDelayMin + results.draw) params.reconnectDelayMax] ++
          ([] ++ ([] ++ (tlsSettings withTls params ++ ([] ++ [])))))))) := by
    simp [constructSettings]
  rw [listed]
  apply appends_bind (appends_of_keeps (keeps_require _ _))
  intro _
  apply appends_bind (appends_of_keeps (set_log_callback_keeps _))
  intro _
  apply appends_bind credentials
  intro _
  apply appends_bind (appends_of_keeps (log_line_keeps _ _))
  intro _
  apply appends_bind (checked_appends _ _ _ _)
  intro _
  apply appends_bind (checked_appends _ _ _ _)
  intro _
  apply appends_bind (appends_of_keeps (set_callbacks_keeps _))
  intro _
  apply appends_bind tls
  intro _
  apply appends_bind (appends_of_keeps (log_line_keeps _ _))
  intro _
  exact checked_appends _ _ _ _

variable [DecidableEq Handle]

theorem construct_appends (withTls : Bool) (params : InitializeParameters)
    (results : Results Handle) :
    Appends settings (construct withTls params results)
      (constructSettings withTls params results.draw) := by
  have made : Keeps settings (newInstance params results) :=
    keeps_bind (unset_call_keeps rfl) fun _ =>
      keeps_bind (keeps_modify fun _ => rfl) fun _ => keeps_pure _
  have listed : constructSettings withTls params results.draw =
      [] ++ ([] ++ ([] ++ ([] ++ (constructSettings withTls params results.draw ++ [])))) := by
    simp
  rw [listed]
  apply appends_bind (appends_of_keeps (init_library_keeps results))
  intro _
  apply appends_bind (appends_of_keeps (log_line_keeps _ _))
  intro _
  apply appends_bind (appends_of_keeps (log_line_keeps _ _))
  intro _
  apply appends_bind (appends_of_keeps made)
  intro _
  apply appends_bind (configure_appends withTls params results _)
  intro _
  exact appends_of_keeps (keeps_pure _)

/-- The settings of a construction that began with `before`. -/
def settingsSince (before after : World Handle) : List Setting :=
  (settings after).drop (settings before).length

theorem settings_since_construct (withTls : Bool) (params : InitializeParameters)
    (results : Results Handle) (before : World Handle) :
    settingsSince before (outcome (construct withTls params results) before).2 <+:
        constructSettings withTls params results.draw ∧
      (Returns (construct withTls params results) before →
        settingsSince before (outcome (construct withTls params results) before).2 =
          constructSettings withTls params results.draw) := by
  rcases construct_appends withTls params results before with ⟨added, part, shape, whole⟩
  rw [settingsSince, shape, List.drop_left]
  exact ⟨part, whole⟩

/-- A construction in which nothing fails. -/
def smooth (draw : Int32) : Results Handle := { new := none, draw := draw }

def secondClient : World Handle := { counter := 1, initialised := true, live := ∅ }

theorem smooth_returns (withTls : Bool) {params : InitializeParameters}
    (accepted : ¬ reconnectDelayRefused params) (draw : Int32) :
    Returns (construct withTls params (smooth draw : Results Handle)) secondClient := by
  rw [construct_returns_iff]
  constructor
  · have counted : (1 : UInt32) ≠ 0 := by decide
    intro first
    exact absurd first counted
  · constructor
    · exact accepted
    all_goals simp [smooth]

end IMqtt.Mosquitto.Settings
