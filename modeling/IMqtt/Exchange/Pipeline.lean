import IMqtt.DispatchQueue.Completion
import IMqtt.Exchange.AnyClients
import IMqtt.Library.Hosting

/-!
# From the publishing clients to the handler

Any number of subscribed clients with one dispatch queue as the receiver of
their messages. The library of a client calls the message callback for one
PUBLISH after the other, and the callback calls `OnMqttMessage` of the queue.
-/

namespace IMqtt.Exchange.Pipeline

open IMqtt.Defines IMqtt.Message IMqtt.Exchange.Packets IMqtt.Exchange.AnyClients
open IMqtt.DispatchQueue.Model IMqtt.DispatchQueue.Transitions
open IMqtt.DispatchQueue.Locking IMqtt.DispatchQueue.ExitFlag
open IMqtt.DispatchQueue.Fifo IMqtt.DispatchQueue.Shutdown
open IMqtt.DispatchQueue.Work IMqtt.DispatchQueue.Completion
open LabelledSteps
open FifoChannel (messagesOf messages_of_append messages_of_own messages_of_other)

set_option autoImplicit false

universe u

/-- A call of the message callback by the library of a client. -/
inductive Callback
  | mosquitto (library : Mosquitto.Library) (fuel : Nat) (pMsg : Mosquitto.MosquittoMessage)
      (pProps : List Property)
  | paho (pTopic : List UInt8) (topicLen : Int) (msg : Paho.MQTTAsyncMessage)

/-- The message for `msgCb->OnMqttMessage`. -/
def Callback.handed : Callback → Option IMqttMessage
  | .mosquitto library fuel pMsg pProps =>
      (Mosquitto.Receive.onMessageCb library fuel pMsg pProps).map (·.mqttMessage)
  | .paho pTopic topicLen msg => some (Paho.Receive.onMessageCb pTopic topicLen msg).handed

inductive Describes (arrived : WirePublish) : Callback → Prop
  | mosquitto {library : Mosquitto.Library} {fuel : Nat} {pMsg : Mosquitto.MosquittoMessage}
      (lawful : library.Lawful) (receives : MosquittoReceives arrived pMsg)
      (enough : arrived.properties.length < fuel) :
      Describes arrived (.mosquitto library fuel pMsg arrived.properties)
  | paho {pTopic : List UInt8} {topicLen : Int} {msg : Paho.MQTTAsyncMessage}
      (receives : PahoReceives arrived pTopic topicLen msg) :
      Describes arrived (.paho pTopic topicLen msg)

/-- What the receiving client makes of a message. -/
def content (message : IMqttMessage) (arrived : WirePublish) : Callback → IMqttMessage
  | .mosquitto _ _ pMsg _ => mosquittoContent message arrived pMsg.mid
  | .paho _ topicLen msg => pahoContent message arrived topicLen msg.msgid

theorem handed_content {message : IMqttMessage} {sent arrived : WirePublish}
    {callback : Callback} (wellformed : Wellformed message) (published : Published message sent)
    (forwarded : Forwarded sent arrived) (describes : Describes arrived callback) :
    callback.handed = some (content message arrived callback) := by
  have encodes := published_encodes wellformed published
  cases describes with
  | mosquitto lawful receives enough =>
      rcases mosquitto_reads encodes forwarded wellformed lawful receives enough with
        ⟨run, finished, delivered⟩
      rw [Callback.handed, finished, Option.map_some, delivered]
      rfl
  | paho receives =>
      rw [Callback.handed, paho_reads encodes forwarded receives]
      rfl

/-- One message on its way from `PublishAsync` of a client to `OnMqttMessage`. -/
structure Transmission where
  message : IMqttMessage
  sent : WirePublish
  arrived : WirePublish
  callback : Callback
  received : IMqttMessage
  wellformed : Wellformed message
  published : Published message sent
  forwarded : Forwarded sent arrived
  describes : Describes arrived callback
  handed : callback.handed = some received

def Transmission.content (transmission : Transmission) : IMqttMessage :=
  Pipeline.content transmission.message transmission.arrived transmission.callback

theorem received_content (transmission : Transmission) :
    transmission.received = transmission.content := by
  have whole := handed_content transmission.wellformed transmission.published
    transmission.forwarded transmission.describes
  rw [transmission.handed] at whole
  exact Option.some.inj whole

/-- The queue, and what each client has been called back for. -/
structure Process (Client : Type u) where
  queue : State Client IMqttMessage
  transmissions : Client → List Transmission

inductive Label (Client : Type u)
  | arrives (client : Client) (transmission : Transmission)
  | inside (choice : Choice Client IMqttMessage)

variable {Client : Type u}

/-- The calls of `OnMqttMessage` that the message callbacks make. -/
def fromCallback : Choice Client IMqttMessage → Bool
  | .enter (.producer _) _ => true
  | _ => false

def Label.choice : Label Client → Choice Client IMqttMessage
  | .arrives client transmission => .enter (.producer client) transmission.received
  | .inside choice => choice

variable [DecidableEq Client]

def Process.arrived (process : Process Client) (client : Client)
    (transmission : Transmission) : Client → List Transmission :=
  Function.update process.transmissions client
    (process.transmissions client ++ [transmission])

/-- A client's callback is called again once its last call has returned. -/
def step (process : Process Client) : Label Client → Option (Process Client)
  | .arrives client transmission =>
      (DispatchQueue.Model.step process.queue (.enter (.producer client) transmission.received)).map
        fun queue =>
          { queue := queue, transmissions := process.arrived client transmission }
  | .inside choice =>
      if fromCallback choice then none
      else (DispatchQueue.Model.step process.queue choice).map ({ process with queue := · })

def system (Client : Type u) [DecidableEq Client] :
    System (Process Client) (Label Client) where
  initial process := (∃ logCb priorExit, process.queue = initial logCb priorExit) ∧
    process.transmissions = fun _ => []
  step := step

theorem step_queue {process after : Process Client} {label : Label Client}
    (taken : step process label = some after) :
    DispatchQueue.Model.step process.queue label.choice = some after.queue := by
  cases label with
  | arrives client transmission =>
      simp only [step, Option.map_eq_some_iff] at taken
      rcases taken with ⟨queue, entered, rfl⟩
      exact entered
  | inside choice =>
      simp only [step] at taken
      split at taken
      · cases taken
      · rw [Option.map_eq_some_iff] at taken
        rcases taken with ⟨queue, moved, rfl⟩
        exact moved

def hosting (Client : Type u) [DecidableEq Client] :
    Hosting (system Client) (DispatchQueue.Model.system Client IMqttMessage) where
  part := Process.queue
  choice := Label.choice
  initial _ begins := begins.1
  step _ _ _ taken := step_queue taken

theorem reached_queue {process : Process Client}
    (reached : Reached (system Client) process) :
    Reached (DispatchQueue.Model.system Client IMqttMessage) process.queue :=
  (hosting Client).reached_part (fun _ _ => id) reached

/-- The calls of a client's callback are the decoded transmissions. -/
def Called (process : Process Client) : Prop :=
  ∀ client, messagesOf (.producer client) process.queue.entered =
    (process.transmissions client).map Transmission.received

/-- Only a call of `OnMqttMessage` is entered. -/
theorem entered_of_transition {s t : State Client IMqttMessage}
    {choice : Choice Client IMqttMessage} (transition : Transition s choice t)
    (elsewhere : fromCallback choice = false) (client : Client) :
    messagesOf (.producer client) t.entered = messagesOf (.producer client) s.entered := by
  cases transition with
  | @construct member rest next => cases member <;> rfl
  | @enter caller msg here may =>
      have distinct : caller ≠ .producer client := by
        intro same
        rw [same] at elsewhere
        cases elsewhere
      rw [messages_of_append, messages_of_other msg distinct, List.append_nil]
  | _ => rfl

theorem called_step {process after : Process Client} {label : Label Client}
    (before : Called process) (taken : step process label = some after) : Called after := by
  have moved := step_transition (step_queue taken)
  intro client
  cases label with
  | arrives receiver transmission =>
      simp only [step, Option.map_eq_some_iff] at taken
      rcases taken with ⟨queue, entered, rfl⟩
      cases moved with
      | enter here may =>
          by_cases own : client = receiver
          · subst own
            simp [Process.arrived, before client]
          · have distinct : Caller.producer receiver ≠ Caller.producer client := by
              intro same
              exact own (Caller.producer.inj same).symm
            simp [Process.arrived, own, before client, messages_of_other _ distinct]
  | inside choice =>
      simp only [step] at taken
      split at taken
      · cases taken
      · rename_i elsewhere
        rw [Bool.not_eq_true] at elsewhere
        rw [Option.map_eq_some_iff] at taken
        rcases taken with ⟨queue, entered, rfl⟩
        exact (entered_of_transition moved elsewhere client).trans (before client)

theorem reached_called {process : Process Client}
    (reached : Reached (system Client) process) : Called process := by
  apply invariant_of_step Called _ _ reached
  · intro process begins client
    rcases begins with ⟨⟨logCb, priorExit, queue⟩, nothing⟩
    rw [queue, nothing]
    rfl
  · intro process label after _ before _ taken
    exact called_step before taken

omit [DecidableEq Client] in
theorem map_received (transmissions : List Transmission) :
    transmissions.map Transmission.received = transmissions.map Transmission.content := by
  apply List.map_congr_left
  intro transmission _
  exact received_content transmission

section Safety

/-- As long as the flag is unset, a caller's pushes are an initial part of its calls. -/
theorem pushed_prefix_entered {s : State Client IMqttMessage}
    (reached : Reached (DispatchQueue.Model.system Client IMqttMessage) s)
    (unset : stored s.destructor = false) (caller : Caller Client) :
    messagesOf caller s.pushed <+: messagesOf caller s.entered := by
  have ordered := reached_call_order reached caller
  have counted := (reached_calls_split reached caller).length_eq
  have nothing : messagesOf caller s.refused = [] := by
    rw [reached_none_refused reached unset]
    rfl
  rw [nothing, List.nil_append] at counted
  have whole := ordered.eq_of_length counted.symm
  exact ⟨_, whole⟩

theorem delivered_sublist_entered {s : State Client IMqttMessage}
    (reached : Reached (DispatchQueue.Model.system Client IMqttMessage) s)
    (caller : Caller Client) :
    (messagesOf caller (delivered s)).Sublist (messagesOf caller s.entered) := by
  have ordered := reached_call_order reached caller
  have lossless : delivered s <+: s.pushed := List.take_prefix _ _
  exact FifoChannel.origin_order_kept caller lossless
    ((List.sublist_append_left _ _).trans ordered)

/-- The handler gets what its clients make of the published messages, client by
client in order and nothing twice; before the destructor sets its flag nothing is left out on the way. -/
theorem handler_reads_what_was_published {process : Process Client}
    (reached : Reached (system Client) process) :
    (delivered process.queue).map Prod.snd = process.queue.handed ∧
    ∀ client,
      (∃ chosen : List Transmission, chosen.Sublist (process.transmissions client) ∧
        messagesOf (.producer client) (delivered process.queue) =
          chosen.map Transmission.content) ∧
      (stored process.queue.destructor = false →
        ∃ chosen : List Transmission, chosen <+: process.transmissions client ∧
          messagesOf (.producer client) (delivered process.queue) =
            chosen.map Transmission.content) := by
  have within := reached_queue reached
  refine ⟨delivered_messages (reached_conserved within), fun client => ⟨?_, fun unset => ?_⟩⟩
  · have ordered := delivered_sublist_entered within (.producer client)
    rw [reached_called reached client, List.sublist_map_iff] at ordered
    rcases ordered with ⟨chosen, part, same⟩
    exact ⟨chosen, part, same.trans (map_received chosen)⟩
  · have lossless : delivered process.queue <+: process.queue.pushed := List.take_prefix _ _
    have initially : messagesOf (.producer client) (delivered process.queue) <+:
        messagesOf (.producer client) process.queue.entered :=
      ((lossless.filter _).map _).trans (pushed_prefix_entered within unset (.producer client))
    rw [reached_called reached client, List.prefix_map_iff] at initially
    rcases initially with ⟨chosen, part, same⟩
    exact ⟨chosen, part, same.trans (map_received chosen)⟩

/-- `full` at a client of the Paho back end, with its topic as a C string. -/
def atPaho : Transmission where
  message := full
  sent := fullSent
  arrived := fullArrived
  callback := .paho [116, 0] 0 fullMsg
  received := { expected full fullArrived 7 with topic := [] }
  wellformed := full_wellformed
  published := full_published
  forwarded := full_forwarded
  describes := .paho full_paho_receives_c_string
  handed := handed_content full_wellformed full_published full_forwarded
    (.paho full_paho_receives_c_string)

theorem full_described_to_mosquitto :
    Describes fullArrived (.mosquitto Mosquitto.willing 8
      ⟨5, [116, 0], [1, 0, 2], 3, 0, false⟩ fullArrived.properties) :=
  .mosquitto Mosquitto.willing_lawful full_mosquitto_receives (by decide)

def atMosquitto : Transmission where
  message := full
  sent := fullSent
  arrived := fullArrived
  callback := .mosquitto Mosquitto.willing 8 ⟨5, [116, 0], [1, 0, 2], 3, 0, false⟩
    fullArrived.properties
  received :=
    { expected full fullArrived 5 with
      responseTopic := text "json"
      payloadContentType := [] }
  wellformed := full_wellformed
  published := full_published
  forwarded := full_forwarded
  describes := full_described_to_mosquitto
  handed := handed_content full_wellformed full_published full_forwarded
    full_described_to_mosquitto

def inside (choices : List (Choice Nat IMqttMessage)) : List (Label Nat) :=
  choices.map Label.inside

/-- The worker sleeps, and the second client is called back during the first
one's call. -/
def twoClientsSchedule : List (Label Nat) :=
  inside (List.replicate 7 .construct ++ List.replicate 8 .worker) ++
    .arrives 0 atPaho :: inside (List.replicate 2 (.call (.producer 0))) ++
    .arrives 1 atMosquitto :: inside (List.replicate 3 (.call (.producer 0)) ++
      List.replicate 5 (.call (.producer 1)))

def begun : Process Nat := ⟨initial false false, fun _ => []⟩

theorem begun_initial : (system Nat).initial begun := ⟨⟨false, false, rfl⟩, rfl⟩

theorem two_clients_messages_are_read :
    ∃ process, execute (system Nat) begun (twoClientsSchedule ++
        inside (List.replicate 16 .worker)) = some process ∧
      process.queue.handed = [atPaho.content, atMosquitto.content] ∧
      (delivered process.queue).map Prod.snd = process.queue.handed ∧
      ∀ client,
        (∃ chosen : List Transmission, chosen.Sublist (process.transmissions client) ∧
          messagesOf (.producer client) (delivered process.queue) =
            chosen.map Transmission.content) ∧
        (stored process.queue.destructor = false →
          ∃ chosen : List Transmission, chosen <+: process.transmissions client ∧
            messagesOf (.producer client) (delivered process.queue) =
              chosen.map Transmission.content) :=
  ⟨_, rfl, rfl, handler_reads_what_was_published
    (reached_of_execute (twoClientsSchedule ++ inside (List.replicate 16 .worker))
      (.start begun_initial) rfl)⟩

end Safety

section Liveness

/-- The queue serves, and its destructor has not begun. -/
structure Subscribed (process : Process Client) : Prop where
  reached : ReachedUnder (system Client)
    (fun process label => Serving process.queue label.choice) process
  alive : process.queue.destructor = .notStarted

theorem in_service {process : Process Client} (subscribed : Subscribed process) :
    InService process.queue :=
  ⟨(hosting Client).reached_part (fun _ _ => id) subscribed.reached, subscribed.alive⟩

/-- Nothing has arrived since, and the handler has got all that had. -/
structure AllDelivered (start process : Process Client) : Prop where
  nothingNew : process.transmissions = start.transmissions
  handed : (delivered process.queue).map Prod.snd = process.queue.handed
  contents : ∀ client, messagesOf (.producer client) (delivered process.queue) =
    (start.transmissions client).map Transmission.content

theorem all_delivered_of_drained {start process : Process Client}
    (reached : Reached (system Client) process)
    (same : process.transmissions = start.transmissions) (drained : Drained process.queue) :
    AllDelivered start process := by
  have within := reached_queue reached
  have whole : delivered process.queue = process.queue.pushed := by
    rw [delivered, ← drained.delivered, List.length_map, List.take_length]
  refine ⟨same, delivered_messages (reached_conserved within), fun client => ?_⟩
  rw [whole, drained.complete, reached_called reached client, same, map_received]

/-- The statements of the queue's threads but for the destructor's. -/
def serving (process : Process Client) (label : Label Client) : Prop :=
  TestsSettledFlag process.queue label.choice ∧ serves label.choice = true

omit [DecidableEq Client] in
theorem inside_of_serves {choice : Choice Client IMqttMessage}
    (served : serves choice = true) : fromCallback choice = false := by
  cases choice with
  | enter caller msg => cases served
  | _ => rfl

theorem serving_keeps_transmissions {process after : Process Client} {label : Label Client}
    (allowed : serving process label) (taken : step process label = some after) :
    after.transmissions = process.transmissions := by
  cases label with
  | arrives client transmission => cases allowed.2
  | inside choice =>
      have elsewhere : fromCallback choice = false := inside_of_serves allowed.2
      rw [step, elsewhere] at taken
      simp only [Bool.false_eq_true, if_false, Option.map_eq_some_iff] at taken
      rcases taken with ⟨queue, moved, rfl⟩
      rfl

theorem serving_keeps_subscribed {process after : Process Client} {label : Label Client}
    (subscribed : Subscribed process) (allowed : serving process label)
    (taken : step process label = some after) : Subscribed after := by
  have inside : DispatchQueue.Progress.internal label.choice = true := by
    have served := allowed.2
    generalize label.choice = choice at served
    cases choice <;> first | rfl | cases served
  have kept := serving_keeps (in_service subscribed) allowed.1 allowed.2 (step_queue taken)
  exact ⟨.next subscribed.reached ⟨allowed.1, internal_unlocked process.queue inside⟩ taken,
    kept.alive⟩

theorem serving_moves_on {process : Process Client} (subscribed : Subscribed process)
    (waiting : ¬ Drained process.queue) :
    ∃ label after, serving process label ∧ step process label = some after := by
  rcases serving_moves (in_service subscribed) waiting with
    ⟨choice, queue, ⟨settled, served⟩, moved⟩
  refine ⟨.inside choice, { process with queue := queue }, ⟨settled, served⟩, ?_⟩
  rw [step, inside_of_serves served]
  simp [moved]

/-- Every message that has arrived at a client comes to the handler, with its
content and in the order of its client, however the threads are scheduled. -/
theorem transmissions_are_delivered {process : Process Client}
    (subscribed : Subscribed process) :
    Inevitable (system Client) serving (AllDelivered process) process := by
  apply inevitable_of_ranking ((hosting Client).ranking (ranking Client IMqttMessage))
    (fun later => Subscribed later ∧ later.transmissions = process.transmissions)
  · intro later within
    exact reached_of_reached_under within.1.reached
  · intro later label after within allowed taken
    exact ⟨serving_keeps_subscribed within.1 allowed taken,
      (serving_keeps_transmissions allowed taken).trans within.2⟩
  · intro later label allowed
    have served := allowed.2
    simp only [Hosting.ranking, hosting, ranking]
    generalize label.choice = choice at served
    cases choice with
    | enter | spuriousWakeup => cases served
    | _ => rfl
  · intro later within unfinished
    apply serving_moves_on within.1
    intro drained
    exact unfinished (all_delivered_of_drained (reached_of_reached_under within.1.reached)
      within.2 drained)
  · exact ⟨subscribed, rfl⟩

deriving instance DecidableEq for IMqttMessage

/-- Nothing has been handed over yet, and the worker sleeps. -/
theorem two_clients_messages_are_delivered :
    ∃ process, execute (system Nat) begun twoClientsSchedule = some process ∧
      process.queue.handed = [] ∧
      Inevitable (system Nat) serving (AllDelivered process) process := by
  refine ⟨_, rfl, rfl, transmissions_are_delivered ⟨?_, rfl⟩⟩
  exact reached_under_of_execute twoClientsSchedule (.start begun_initial) (by decide) rfl

end Liveness

end IMqtt.Exchange.Pipeline
