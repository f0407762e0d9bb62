import IMqtt.Mosquitto.Settings
import IMqtt.Paho.ConnectOptions

/-!
# The credentials that reach the libraries

One library reads them from a structure, the other gets them through setters
and asks for the password of the private key when OpenSSL needs it. OpenSSL
calls back with `rwflag` 0 to decrypt a key, and the callback answers the other
case.
-/

namespace IMqtt.Exchange.Credentials

open IMqtt.Defines IMqtt.Client
open IMqtt.Mosquitto.Construct IMqtt.Mosquitto.Settings IMqtt.Paho.ConnectOptions

set_option autoImplicit false

def login? : Setting → Option (Str × Str)
  | .credentials username password => some (username, password)
  | _ => none

def files? : Setting → Option (Option Str × Option Str × Option Str × Option Str)
  | .tlsFiles cafile capath certfile keyfile => some (cafile, capath, certfile, keyfile)
  | _ => none

def sslFiles (ssl : SSLOptions) : Option Str × Option Str × Option Str × Option Str :=
  (ssl.trustStore, ssl.caPath, ssl.keyStore, ssl.privateKey)

/-- The password that OpenSSL takes out of the buffer. -/
def opensslPassword (params : InitializeParameters) (size : Nat) (rwflag : Int) : Str :=
  let (buf, num) := pemPasswordCb params size rwflag
  buf.take num.toNat

/-- The pointer is null for the empty string and points to any other. -/
def Presents (pointer : Option Str) (string : Str) : Prop :=
  pointer.getD [] = string ∧ (pointer = none ↔ string = [])

structure PresentsFiles (params : InitializeParameters) (ssl : SSLOptions) : Prop where
  trustStore : Presents ssl.trustStore params.caFilePath
  caPath : Presents ssl.caPath params.caDirPath
  keyStore : Presents ssl.keyStore params.clientCertFilePath
  privateKey : Presents ssl.privateKey params.privateKeyFilePath
  privateKeyPassword : Presents ssl.privateKeyPassword params.privateKeyPassword

/-- What the settings hand to one library is what the options hand to the
other. -/
structure SameCredentials (params : InitializeParameters) (size : Nat)
    (settings : List Setting) (options : MQTTAsyncConnectOptions) : Prop where
  username : (settings.filterMap login?).map Prod.fst = options.username.toList
  password : (settings.filterMap login?).map Prod.snd = options.password.toList
  files : settings.filterMap files? = (options.ssl.map sslFiles).toList
  presented : ∀ ssl ∈ options.ssl, PresentsFiles params ssl
  keyPassword : opensslPassword params size 0 = params.privateKeyPassword

theorem presents_path_or_null (path : Str) : Presents (pathOrNull path) path := by
  by_cases empty : path = []
  · rw [pathOrNull, if_pos empty]
    exact ⟨empty.symm, iff_of_true rfl empty⟩
  · rw [pathOrNull, if_neg empty]
    exact ⟨rfl, iff_of_false (Option.some_ne_none path) empty⟩

theorem presents_files (params : InitializeParameters) :
    PresentsFiles params (sslOptions params) := by
  constructor <;> exact presents_path_or_null _

theorem no_password_to_decrypt (params : InitializeParameters) (size : Nat) :
    opensslPassword params size 0 = [] := by
  simp [opensslPassword, pemPasswordCb]

/-- The password would reach OpenSSL if it were to encrypt a key. -/
theorem password_to_encrypt {params : InitializeParameters} {size : Nat}
    (enough : params.privateKeyPassword.length ≤ size) {rwflag : Int}
    (encrypts : rwflag ≠ 0) :
    opensslPassword params size rwflag = params.privateKeyPassword := by
  simp [opensslPassword, pemPasswordCb, encrypts, List.take_of_length_le enough]

theorem logins_of_construct (params : InitializeParameters) (draw : Int32) :
    (constructSettings true params draw).filterMap login? =
      if params.mqttUsername = [] then [] else [(params.mqttUsername, params.mqttPassword)] := by
  by_cases anonymous : params.mqttUsername = [] <;>
    simp [constructSettings, credentialSettings, tlsSettings, login?, anonymous]

theorem files_of_construct (params : InitializeParameters) (draw : Int32) :
    (constructSettings true params draw).filterMap files? =
      [sslFiles (sslOptions params)] := by
  rw [constructSettings, credentialSettings]
  split <;> rfl

theorem same_settings_iff (params : InitializeParameters) (size : Nat)
    (mosquittoDraw pahoDraw : Int32) :
    SameCredentials params size (constructSettings true params mosquittoDraw)
      (connectOptions true params pahoDraw) ↔ params.privateKeyPassword = [] := by
  constructor
  · intro same
    rw [← same.keyPassword]
    exact no_password_to_decrypt params size
  · intro unencrypted
    constructor
    · rw [logins_of_construct, connectOptions, pathOrNull]
      split <;> rfl
    · rw [logins_of_construct, connectOptions]
      split <;> rfl
    · rw [files_of_construct]
      rfl
    · intro ssl given
      cases given
      exact presents_files params
    · rw [no_password_to_decrypt, unencrypted]

def unencrypted : InitializeParameters where
  mqttUsername := text "user"
  mqttPassword := text "pass"
  privateKeyFilePath := text "key.pem"

def encrypted : InitializeParameters where
  privateKeyFilePath := text "key.pem"
  privateKeyPassword := text "secret"

end IMqtt.Exchange.Credentials
