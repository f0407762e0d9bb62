import IMqtt.Interface.Client

/-!
# The options of PahoClient::ConnectAsync

What a call fills in before it hands the options to `MQTTAsync_connect`. The
initialisers leave every pointer null. A connect draws its own random delay, so
two connects of one client may differ in it.
-/

namespace IMqtt.Paho.ConnectOptions

open IMqtt.Defines IMqtt.Client

set_option autoImplicit false

/-- `MQTTAsync_SSLOptions`. -/
structure SSLOptions where
  trustStore : Option Str := none
  caPath : Option Str := none
  keyStore : Option Str := none
  privateKey : Option Str := none
  privateKeyPassword : Option Str := none
  disableDefaultTrustStore : Int := 0
  verify : Int := 0
  enableServerCertAuth : Int := 1
  deriving DecidableEq, Repr

/-- `MQTTAsync_connectOptions`. -/
structure MQTTAsyncConnectOptions where
  keepAliveInterval : Int32
  automaticReconnect : Int
  cleanstart : Int
  maxRetryInterval : Int32
  minRetryInterval : Int32
  username : Option Str := none
  password : Option Str := none
  httpProxy : Option Str := none
  httpsProxy : Option Str := none
  ssl : Option SSLOptions := none
  deriving DecidableEq, Repr

def sslOptions (params : InitializeParameters) : SSLOptions where
  trustStore := pathOrNull params.caFilePath
  caPath := pathOrNull params.caDirPath
  keyStore := pathOrNull params.clientCertFilePath
  privateKey := pathOrNull params.privateKeyFilePath
  privateKeyPassword := pathOrNull params.privateKeyPassword
  disableDefaultTrustStore := if params.disableDefaultCaStore then 1 else 0
  verify := 1
  enableServerCertAuth := 1

/-- `draw` is the number between `reconnectDelayMinLower` and
`reconnectDelayMinUpper`. -/
def connectOptions (withTls : Bool) (params : InitializeParameters) (draw : Int32) :
    MQTTAsyncConnectOptions where
  keepAliveInterval := params.keepAliveInterval
  automaticReconnect := if params.autoReconnect then 1 else 0
  cleanstart := if params.cleanSession then 1 else 0
  maxRetryInterval := params.reconnectDelayMax
  minRetryInterval := params.reconnectDelayMin + draw
  username := pathOrNull params.mqttUsername
  password := if params.mqttUsername = [] then none else some params.mqttPassword
  httpProxy := pathOrNull params.httpProxy
  httpsProxy := pathOrNull params.httpsProxy
  ssl := if withTls then some (sslOptions params) else none

end IMqtt.Paho.ConnectOptions
