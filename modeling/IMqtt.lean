import IMqtt.DispatchQueue.Shutdown
import IMqtt.DispatchQueue.UserCode
import IMqtt.DispatchQueue.Wakeup
import IMqtt.Library.Completions
import IMqtt.Paho.Connection
import IMqtt.Exchange.Retained
import IMqtt.Mosquitto.Commands
import IMqtt.Paho.Commands
import IMqtt.Exchange.UserProps
import IMqtt.FailedConstruction
import IMqtt.Mosquitto.LibraryWindowKept
import IMqtt.Mosquitto.NetworkThread
import IMqtt.Mosquitto.PublishSizes
import IMqtt.Mosquitto.RoundTrip
import IMqtt.Paho.ConnectInterference
import IMqtt.Paho.Publish
import IMqtt.Paho.Receive
import IMqtt.Paho.RoundTrip
import IMqtt.Exchange.Packets
import IMqtt.Exchange.Tokens
import IMqtt.Exchange.ConnectionEnds
import IMqtt.Paho.ConnectBlocking
import IMqtt.DispatchQueue.Deliveries
import IMqtt.Library.Custody
import IMqtt.Exchange.AllOrNothing
import IMqtt.Library.FieldFold
import IMqtt.Paho.ReceiveOrder
import IMqtt.Mosquitto.ReceiveBuffers
import IMqtt.Paho.MessageArrived
import IMqtt.Exchange.UnsetFields
import IMqtt.Mosquitto.Settings
import IMqtt.Paho.ConnectOptions
import IMqtt.Exchange.ReconnectDelay
import IMqtt.Exchange.Credentials
import IMqtt.Library.Ranking
import IMqtt.DispatchQueue.Work
import IMqtt.DispatchQueue.Progress
import IMqtt.DispatchQueue.Completion
import IMqtt.Library.Linearization
import IMqtt.DispatchQueue.CallHistory
import IMqtt.Exchange.AnyClients
import IMqtt.Library.Hosting
import IMqtt.Exchange.Pipeline
import IMqtt.Exchange.Arrivals
import IMqtt.Library.OnceCell
import IMqtt.Interface.LibraryLog
import IMqtt.Mosquitto.Logging
import IMqtt.Paho.Logging
import IMqtt.Mosquitto.LibraryVersion
import IMqtt.Exchange.ConnectionView
import IMqtt.Sample.Main
import IMqtt.Sample.Deadlock
import IMqtt.Sample.Exit
import IMqtt.Interface.Handlers
import IMqtt.Mosquitto.Destruction
