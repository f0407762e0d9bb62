import IMqtt.Library.Completions
import IMqtt.Mosquitto.Commands
import IMqtt.Paho.Commands

/-!
# Tokens and completion callbacks

A run of a client is a ledger of its commands: each call with the answer of the
library, and the completions of the accepted ones in any order. `PahoClient`
reports no failed subscription or unsubscription and overwrites the token of a
refused one; everything else corresponds.
-/

namespace IMqtt.Exchange.Tokens

open IMqtt.Callbacks IMqtt.Client IMqtt.Defines IMqtt.Message
open Completions LabelledSteps
open IMqtt.Paho.ConnectAsync (Report)

set_option autoImplicit false

universe u v

inductive Command
  | subscribe (topic : Str) (qos : QOS) (getRetained : Bool)
  | unSubscribe (topic : Str)
  | publish (mqttMsg : IMqttMessage)

def Command.kind : Command → CommandKind
  | .subscribe _ _ _ => .subscribe
  | .unSubscribe _ => .unSubscribe
  | .publish _ => .publish

/-- A back end by its commands: the int that `token` points at before the call,
what the call leaves behind, the token the library gives for an accepted one,
and the user calls that a completion causes. -/
structure BackEnd (Order : Type u) (Outcome : Type v) where
  kind : Order → CommandKind
  before : Order → Int
  submitted : Order → Submitted
  given : Order → Option Int
  possible : Order → Bool
  reported : Outcome → Int
  calls : Order → Outcome → List CommandCall

section General

variable {Order : Type u} {Outcome : Type v} (backEnd : BackEnd Order Outcome)

/-- The library completes what it has accepted, with the token it gave. -/
def BackEnd.desk : Desk Order Outcome where
  possible := backEnd.possible
  accepted order := (backEnd.given order).isSome
  completes order outcome := backEnd.given order == some (backEnd.reported outcome)

/-- The command's status, token and user calls agree with the library. -/
structure Corresponds (order : Order) (outcomes : List Outcome) : Prop where
  okay : (backEnd.submitted order).status = .okay →
    ∃ token, backEnd.given order = some token ∧
      (backEnd.submitted order).token = some token ∧
      (outcomes ≠ [] → ∃ call, outcomes.flatMap (backEnd.calls order) = [call] ∧
        call.reports (backEnd.kind order) token)
  refused : (backEnd.submitted order).status ≠ .okay →
    (backEnd.submitted order).token = some (backEnd.before order) ∧
      outcomes.flatMap (backEnd.calls order) = []

def AllCorrespond (ledger : Ledger Order Outcome) : Prop :=
  ∀ number order, ledger.placed[number]? = some order →
    Corresponds backEnd order (ledger.outcomes number)

/-- What single calls and completions of a back end do, and for which of them
that is right. -/
structure Behaves (good : Order → Prop) (fine : Order → Outcome → Prop) : Prop where
  submits : ∀ order, backEnd.possible order = true →
    (∃ token, backEnd.given order = some token ∧
      (backEnd.submitted order).status = .okay ∧
      (backEnd.submitted order).token = some token ∧ good order) ∨
    (backEnd.given order = none ∧ (backEnd.submitted order).status ≠ .okay ∧
      ((backEnd.submitted order).token = some (backEnd.before order) ↔ good order))
  reports : ∀ order outcome,
    (∃ call, backEnd.calls order outcome = [call] ∧
      call.reports (backEnd.kind order) (backEnd.reported outcome)) ↔ fine order outcome

variable {backEnd} {good : Order → Prop} {fine : Order → Outcome → Prop}
  {ledger : Ledger Order Outcome}

/-- The token of a completed order is the one that its outcome reports. -/
theorem given_of_done (kept : Kept backEnd.desk (fun _ => True) (fun _ _ => True) ledger)
    {number : Nat} {outcome : Outcome} {order : Order}
    (finished : (number, outcome) ∈ ledger.done)
    (here : ledger.placed[number]? = some order) :
    backEnd.given order = some (backEnd.reported outcome) := by
  rcases kept.done number outcome finished with ⟨known, there, -, completes, -⟩
  rw [here, Option.some.injEq] at there
  rw [← there] at completes
  exact beq_iff_eq.mp completes

theorem good_of_corresponds (behaves : Behaves backEnd good fine) {order : Order}
    (possible : backEnd.possible order = true) {outcomes : List Outcome}
    (corresponds : Corresponds backEnd order outcomes) : good order := by
  rcases behaves.submits order possible with ⟨token, -, -, -, right⟩ | ⟨-, failed, keeps⟩
  · exact right
  · exact keeps.mp (corresponds.refused failed).1

theorem fine_of_corresponds (behaves : Behaves backEnd good fine) {order : Order}
    (possible : backEnd.possible order = true) {outcome : Outcome}
    (gave : backEnd.given order = some (backEnd.reported outcome))
    (corresponds : Corresponds backEnd order [outcome]) : fine order outcome := by
  rcases behaves.submits order possible with ⟨token, -, okay, -, -⟩ | ⟨nothing, -, -⟩
  · rcases corresponds.okay okay with ⟨given, answer, -, caused⟩
    rw [gave, Option.some.injEq] at answer
    rw [← answer] at caused
    rw [← behaves.reports order outcome]
    simpa using caused
  · rw [gave] at nothing
    cases nothing

theorem corresponds_of_good_fine (behaves : Behaves backEnd good fine)
    (kept : Kept backEnd.desk (fun _ => True) (fun _ _ => True) ledger) {number : Nat}
    {order : Order} (here : ledger.placed[number]? = some order) (right : good order)
    (completed : ∀ outcome, (number, outcome) ∈ ledger.done → fine order outcome) :
    Corresponds backEnd order (ledger.outcomes number) := by
  have possible := (kept.placed order (List.mem_of_getElem? here)).1
  rcases behaves.submits order possible with
    ⟨token, answer, okay, stored, -⟩ | ⟨nothing, failed, keeps⟩
  · constructor
    · intro _
      refine ⟨token, answer, stored, ?_⟩
      intro answered
      rcases outcomes_cases kept number with none_yet | ⟨outcome, listed, finished⟩
      · exact absurd none_yet answered
      · have gave := given_of_done kept finished here
        have caused := (behaves.reports order outcome).mpr (completed outcome finished)
        rw [answer, Option.some.injEq] at gave
        rw [listed, gave]
        simpa using caused
    · intro other
      exact absurd okay other
  · constructor
    · intro okay
      exact absurd okay failed
    · intro _
      refine ⟨keeps.mpr right, ?_⟩
      rcases outcomes_cases kept number with none_yet | ⟨outcome, -, finished⟩
      · rw [none_yet]
        rfl
      · rw [given_of_done kept finished here] at nothing
        cases nothing

/-- A ledger corresponds exactly if each of its calls and completions does. -/
theorem all_correspond_iff (behaves : Behaves backEnd good fine)
    (kept : Kept backEnd.desk (fun _ => True) (fun _ _ => True) ledger) :
    AllCorrespond backEnd ledger ↔
      (∀ order ∈ ledger.placed, good order) ∧
      ∀ number outcome order, (number, outcome) ∈ ledger.done →
        ledger.placed[number]? = some order → fine order outcome := by
  constructor
  · intro correspond
    constructor
    · intro order member
      have possible := (kept.placed order member).1
      rcases List.mem_iff_getElem?.mp member with ⟨number, here⟩
      exact good_of_corresponds behaves possible (correspond number order here)
    · intro number outcome order finished here
      have possible := (kept.placed order (List.mem_of_getElem? here)).1
      have gave := given_of_done kept finished here
      have member := mem_outcomes.mpr finished
      have corresponds := correspond number order here
      rcases outcomes_cases kept number with nothing | ⟨only, listed, -⟩
      · rw [nothing] at member
        cases member
      · rw [listed, List.mem_singleton] at member
        rw [listed, ← member] at corresponds
        exact fine_of_corresponds behaves possible gave corresponds
  · intro right number order here
    apply corresponds_of_good_fine behaves kept here
    · exact right.1 order (List.mem_of_getElem? here)
    · intro outcome finished
      exact right.2 number outcome order finished here

theorem asks_nothing (ledger : Ledger Order Outcome) (event : Event Order Outcome) :
    Asks (fun _ => True) (fun _ _ => True) ledger event := by
  cases event with
  | place order => exact trivial
  | complete number outcome => exact fun _ _ => trivial

/-- In every run of good calls and fine completions everything corresponds. -/
theorem all_correspond (behaves : Behaves backEnd good fine)
    (reached : ReachedUnder (system backEnd.desk) (Asks good fine) ledger) :
    AllCorrespond backEnd ledger := by
  have kept : Kept backEnd.desk good fine ledger :=
    reached_kept (fun _ _ asked => asked) reached
  have plain : Kept backEnd.desk (fun _ => True) (fun _ _ => True) ledger :=
    reached_kept (fun ledger event _ => asks_nothing ledger event) reached
  rw [all_correspond_iff behaves plain]
  constructor
  · intro order member
    exact (kept.placed order member).2
  · intro number outcome order finished here
    rcases kept.done number outcome finished with ⟨known, there, -, -, right⟩
    rw [here, Option.some.injEq] at there
    rw [there]
    exact right

end General

section Paho

open IMqtt.Paho IMqtt.Paho.Commands

/-- What the Paho library does in one call. -/
structure PahoLibrary where
  subscribe : SubscribeCall → Answer
  unSubscribe : Str → Answer
  publishing : Library

structure PahoOrder where
  command : Command
  token : Int
  library : PahoLibrary

def pahoSubmitted (params : InitializeParameters) (order : PahoOrder) : Submitted :=
  match order.command with
  | .subscribe topic qos getRetained =>
      subscribeAsync order.library.publishing.texts params order.library.subscribe topic qos
        (some order.token) getRetained
  | .unSubscribe topic =>
      unSubscribeAsync order.library.publishing.texts order.library.unSubscribe topic
        (some order.token)
  | .publish mqttMsg =>
      let (status, run) :=
        Publish.publishAsync order.library.publishing mqttMsg (some order.token)
      { status := status, token := run.token, log := run.log }

/-- What the library answers, if it is asked. -/
def pahoAnswer (params : InitializeParameters) (order : PahoOrder) : Option Answer :=
  match order.command with
  | .subscribe topic qos getRetained =>
      some (order.library.subscribe (subscribeCall params topic qos getRetained))
  | .unSubscribe topic => some (order.library.unSubscribe topic)
  | .publish mqttMsg =>
      (Publish.packets
        (Publish.publishAsync order.library.publishing mqttMsg
          (some order.token)).2.calls).head?.map fun packet =>
            ⟨(order.library.publishing.sendMessage packet).1,
              (order.library.publishing.sendMessage packet).2⟩

def pahoGiven (params : InitializeParameters) (order : PahoOrder) : Option Int :=
  (pahoAnswer params order).bind fun answer =>
    if answer.rc = mqttasyncSuccess then some answer.token else none

/-- A refused command leaves `callOptions.token` at its initial value. -/
def pahoPossible (params : InitializeParameters) (initialToken : Int) (order : PahoOrder) :
    Bool :=
  (pahoAnswer params order).all fun answer =>
    decide (answer.rc = mqttasyncSuccess ∨ answer.token = initialToken)

def pahoReported : Report → Int
  | .onSuccess5 data => data.token
  | .onFailure5 data => data.token

def pahoCalls (order : PahoOrder) (report : Report) : List CommandCall :=
  match order.command with
  | .subscribe _ _ _ => (subscribeCompleted order.library.publishing.texts report).calls
  | .unSubscribe _ => (unSubscribeCompleted order.library.publishing.texts report).calls
  | .publish _ => (publishCompleted order.library.publishing.texts report).calls

def pahoBackEnd (params : InitializeParameters) (initialToken : Int) :
    BackEnd PahoOrder Report where
  kind order := order.command.kind
  before order := order.token
  submitted := pahoSubmitted params
  given := pahoGiven params
  possible := pahoPossible params initialToken
  reported := pahoReported
  calls := pahoCalls

/-- A subscription or unsubscription is accepted, or its token is the initial
one already. -/
def KeepsToken (params : InitializeParameters) (initialToken : Int) (order : PahoOrder) :
    Prop :=
  match order.command with
  | .subscribe topic qos getRetained =>
      (order.library.subscribe (subscribeCall params topic qos getRetained)).rc =
        mqttasyncSuccess ∨ order.token = initialToken
  | .unSubscribe topic =>
      (order.library.unSubscribe topic).rc = mqttasyncSuccess ∨ order.token = initialToken
  | .publish _ => True

/-- A subscription or unsubscription does not fail. -/
def ReportsCompletion (order : PahoOrder) : Report → Prop
  | .onSuccess5 _ => True
  | .onFailure5 _ =>
      match order.command with
      | .publish _ => True
      | _ => False

theorem paho_publish_submits (params : InitializeParameters) {order : PahoOrder}
    {mqttMsg : IMqttMessage} (publishes : order.command = .publish mqttMsg) :
    (∃ token, pahoGiven params order = some token ∧
      (pahoSubmitted params order).status = .okay ∧
      (pahoSubmitted params order).token = some token) ∨
    (pahoGiven params order = none ∧ (pahoSubmitted params order).status ≠ .okay ∧
      (pahoSubmitted params order).token = some order.token) := by
  rcases Publish.publish_async_cases order.library.publishing mqttMsg order.token with
    ⟨packet, sent, status, token⟩ | ⟨nothing, status, token⟩
  · by_cases success :
        (order.library.publishing.sendMessage packet).1 = mqttasyncSuccess
    · have okay := status.trans ((paho_rc_okay_iff _ _ _).mpr success)
      rw [if_pos okay] at token
      refine .inl ⟨(order.library.publishing.sendMessage packet).2, ?_, ?_, ?_⟩
      · simp [pahoGiven, pahoAnswer, publishes, sent, success]
      · simp only [pahoSubmitted, publishes]
        exact okay
      · simp only [pahoSubmitted, publishes]
        exact token
    · have failed : (Publish.publishAsync order.library.publishing mqttMsg
          (some order.token)).1 ≠ .okay := by
        rw [status]
        exact fun okay => success ((paho_rc_okay_iff _ _ _).mp okay)
      rw [if_neg failed] at token
      refine .inr ⟨?_, ?_, ?_⟩
      · simp [pahoGiven, pahoAnswer, publishes, sent, success]
      · simp only [pahoSubmitted, publishes]
        exact failed
      · simp only [pahoSubmitted, publishes]
        exact token
  · refine .inr ⟨?_, ?_, ?_⟩
    · simp [pahoGiven, pahoAnswer, publishes, nothing]
    · simp only [pahoSubmitted, publishes, status]
      decide
    · simp only [pahoSubmitted, publishes]
      exact token

/-- A call that takes `callOptions.token` whatever the library has answered. -/
theorem paho_command_submits {texts : Texts} {answer : Answer} {details : Str} {before : Int}
    {initialToken : Int}
    (possible : answer.rc = mqttasyncSuccess ∨ answer.token = initialToken) :
    (∃ token, (if answer.rc = mqttasyncSuccess then some answer.token else none) =
        some token ∧ (pahoRcToReasonCode texts answer.rc details).1 = .okay ∧
      some answer.token = some token ∧
      (answer.rc = mqttasyncSuccess ∨ before = initialToken)) ∨
    ((if answer.rc = mqttasyncSuccess then some answer.token else none) = none ∧
      (pahoRcToReasonCode texts answer.rc details).1 ≠ .okay ∧
      (some answer.token = some before ↔
        answer.rc = mqttasyncSuccess ∨ before = initialToken)) := by
  by_cases success : answer.rc = mqttasyncSuccess
  · have okay := (paho_rc_okay_iff texts answer.rc details).mpr success
    exact .inl ⟨answer.token, if_pos success, okay, rfl, .inl success⟩
  · have failed : (pahoRcToReasonCode texts answer.rc details).1 ≠ .okay := by
      intro okay
      exact success ((paho_rc_okay_iff texts answer.rc details).mp okay)
    refine .inr ⟨if_neg success, failed, ?_⟩
    rw [Option.some.injEq, possible.resolve_left success, or_iff_right success]
    exact eq_comm

theorem paho_behaves (params : InitializeParameters) (initialToken : Int) :
    Behaves (pahoBackEnd params initialToken) (KeepsToken params initialToken)
      ReportsCompletion := by
  constructor
  · intro order possible
    simp only [pahoBackEnd, pahoPossible] at possible ⊢
    cases command : order.command with
    | publish mqttMsg =>
        have right : KeepsToken params initialToken order := by
          simp only [KeepsToken, command]
        rcases paho_publish_submits params command with
          ⟨token, gave, okay, stored⟩ | ⟨nothing, failed, keeps⟩
        · exact .inl ⟨token, gave, okay, stored, right⟩
        · exact .inr ⟨nothing, failed, iff_of_true keeps right⟩
    | subscribe topic qos getRetained =>
        simp only [pahoAnswer, command, Option.all_some, decide_eq_true_eq] at possible
        simp only [pahoGiven, pahoAnswer, pahoSubmitted, KeepsToken, command, subscribeAsync,
          Option.bind_some, Option.map_some]
        exact paho_command_submits possible
    | unSubscribe topic =>
        simp only [pahoAnswer, command, Option.all_some, decide_eq_true_eq] at possible
        simp only [pahoGiven, pahoAnswer, pahoSubmitted, KeepsToken, command,
          unSubscribeAsync, Option.bind_some, Option.map_some]
        exact paho_command_submits possible
  · intro order report
    simp only [pahoBackEnd, pahoCalls]
    cases command : order.command <;> cases report <;>
      simp [ReportsCompletion, command, subscribeCompleted, unSubscribeCompleted,
        publishCompleted, CommandCall.reports, Command.kind, pahoReported]

end Paho

section Mosquitto

open IMqtt.Mosquitto IMqtt.Mosquitto.Commands

/-- What libmosquitto does in one call. -/
structure MosquittoLibrary where
  subscribe : SubscribeCall → Answer
  unSubscribe : Str → Answer
  publishing : Library

structure MosquittoOrder where
  command : Command
  token : Int
  library : MosquittoLibrary

/-- What a completion callback is run with. -/
structure MosquittoReport where
  messageId : Int
  grantedQos : List Int
  mqttRc : Int

def mosquittoSubmitted (params : InitializeParameters) (order : MosquittoOrder) : Submitted :=
  match order.command with
  | .subscribe topic qos getRetained =>
      subscribeAsync order.library.publishing.strerror params order.library.subscribe topic
        qos (some order.token) getRetained
  | .unSubscribe topic =>
      unSubscribeAsync order.library.publishing.strerror order.library.unSubscribe topic
        (some order.token)
  | .publish mqttMsg =>
      let (status, run) :=
        Publish.publishAsync order.library.publishing mqttMsg (some order.token)
      { status := status, token := run.token, log := run.log }

def mosquittoAnswer (params : InitializeParameters) (order : MosquittoOrder) :
    Option Answer :=
  match order.command with
  | .subscribe topic qos getRetained =>
      some (order.library.subscribe (subscribeCall params topic qos getRetained))
  | .unSubscribe topic => some (order.library.unSubscribe topic)
  | .publish mqttMsg =>
      (Publish.packets
        (Publish.publishAsync order.library.publishing mqttMsg
          (some order.token)).2.calls).head?.map fun packet =>
            ⟨(order.library.publishing.publish packet).1,
              (order.library.publishing.publish packet).2⟩

def mosquittoGiven (params : InitializeParameters) (order : MosquittoOrder) : Option Int :=
  (mosquittoAnswer params order).bind fun answer =>
    if answer.rc = mosqErrSuccess then answer.mid else none

/-- The library writes the token for accepted commands and for no others. -/
def mosquittoPossible (params : InitializeParameters) (order : MosquittoOrder) : Bool :=
  (mosquittoAnswer params order).all fun answer =>
    decide (answer.rc = mosqErrSuccess ↔ answer.mid.isSome = true)

def mosquittoCalls (order : MosquittoOrder) (report : MosquittoReport) : List CommandCall :=
  match order.command with
  | .subscribe _ _ _ => (onSubscribeCb report.messageId report.grantedQos).calls
  | .unSubscribe _ => (onUnSubscribeCb report.messageId).calls
  | .publish _ => (onPublishCb report.messageId report.mqttRc).calls

def mosquittoBackEnd (params : InitializeParameters) :
    BackEnd MosquittoOrder MosquittoReport where
  kind order := order.command.kind
  before order := order.token
  submitted := mosquittoSubmitted params
  given := mosquittoGiven params
  possible := mosquittoPossible params
  reported report := report.messageId
  calls := mosquittoCalls

/-- A call that has handed its token to the library. -/
theorem mosquitto_command_submits {strerror : Int → Str} {answer : Answer} {details : Str}
    {before : Int} (possible : answer.rc = mosqErrSuccess ↔ answer.mid.isSome = true) :
    (∃ token, (if answer.rc = mosqErrSuccess then answer.mid else none) = some token ∧
      (mosqRcToReasonCode strerror answer.rc details).1 = .okay ∧
      some (answer.mid.getD before) = some token ∧ True) ∨
    ((if answer.rc = mosqErrSuccess then answer.mid else none) = none ∧
      (mosqRcToReasonCode strerror answer.rc details).1 ≠ .okay ∧
      (some (answer.mid.getD before) = some before ↔ True)) := by
  have okay_iff := mosq_rc_okay_iff strerror answer.rc details
  cases stored : answer.mid with
  | some mid =>
      have success : answer.rc = mosqErrSuccess := possible.mpr (by rw [stored]; rfl)
      exact .inl ⟨mid, if_pos success, okay_iff.mpr success, rfl, trivial⟩
  | none =>
      have failure : answer.rc ≠ mosqErrSuccess := by
        intro success
        have given := possible.mp success
        rw [stored] at given
        cases given
      refine .inr ⟨if_neg failure, ?_, iff_of_true rfl trivial⟩
      exact fun okay => failure (okay_iff.mp okay)

theorem mosquitto_behaves (params : InitializeParameters) :
    Behaves (mosquittoBackEnd params) (fun _ => True) (fun _ _ => True) := by
  constructor
  · intro order possible
    simp only [mosquittoBackEnd, mosquittoPossible] at possible ⊢
    cases command : order.command with
    | publish mqttMsg =>
        simp only [mosquittoGiven, mosquittoAnswer, mosquittoSubmitted, command] at possible ⊢
        rcases Publish.publish_async_cases order.library.publishing mqttMsg order.token with
          ⟨packet, sent, status, token⟩ | ⟨nothing, status, token⟩
        · rw [sent, List.head?_cons, Option.map_some, Option.all_some,
            decide_eq_true_eq] at possible
          rw [sent, status, token, List.head?_cons, Option.map_some, Option.bind_some]
          exact mosquitto_command_submits possible
        · refine .inr ⟨?_, ?_, iff_of_true token trivial⟩
          · rw [nothing]
            rfl
          · rw [status]
            decide
    | subscribe topic qos getRetained =>
        simp only [mosquittoAnswer, command, Option.all_some, decide_eq_true_eq] at possible
        simp only [mosquittoGiven, mosquittoAnswer, mosquittoSubmitted, command,
          subscribeAsync, Option.bind_some, Option.map_some]
        exact mosquitto_command_submits possible
    | unSubscribe topic =>
        simp only [mosquittoAnswer, command, Option.all_some, decide_eq_true_eq] at possible
        simp only [mosquittoGiven, mosquittoAnswer, mosquittoSubmitted, command,
          unSubscribeAsync, Option.bind_some, Option.map_some]
        exact mosquitto_command_submits possible
  · intro order report
    simp only [mosquittoBackEnd, mosquittoCalls]
    cases command : order.command <;>
      simp [onSubscribeCb, onUnSubscribeCb, onPublishCb, CommandCall.reports, Command.kind]

end Mosquitto

/-- Every ledger of a Paho client. -/
abbrev PahoLedger := Ledger PahoOrder Report

/-- Each call and each completion of the ledger meets its condition. -/
def PahoKeeps (params : InitializeParameters) (initialToken : Int) (ledger : PahoLedger) :
    Prop :=
  (∀ order ∈ ledger.placed, KeepsToken params initialToken order) ∧
    ∀ number report order, (number, report) ∈ ledger.done →
      ledger.placed[number]? = some order → ReportsCompletion order report

/-- With Paho in the runs whose calls and completions meet the condition, with
Mosquitto in all runs. A Paho ledger corresponds in no other case. -/
theorem tokens_correspond (params : InitializeParameters) (initialToken : Int) :
    (∀ ledger,
      ReachedUnder (system (pahoBackEnd params initialToken).desk)
        (Asks (KeepsToken params initialToken) ReportsCompletion) ledger →
      AllCorrespond (pahoBackEnd params initialToken) ledger) ∧
    (∀ ledger, Reached (system (mosquittoBackEnd params).desk) ledger →
      AllCorrespond (mosquittoBackEnd params) ledger) ∧
    ∀ ledger, Reached (system (pahoBackEnd params initialToken).desk) ledger →
      (AllCorrespond (pahoBackEnd params initialToken) ledger ↔
        PahoKeeps params initialToken ledger) := by
  refine ⟨?_, ?_, ?_⟩
  · intro ledger reached
    exact all_correspond (paho_behaves params initialToken) reached
  · intro ledger reached
    have behaves := mosquitto_behaves params
    have kept : Kept (mosquittoBackEnd params).desk (fun _ => True) (fun _ _ => True) ledger :=
      reached_kept (fun ledger event _ => asks_nothing ledger event) reached
    rw [all_correspond_iff behaves kept]
    exact ⟨fun _ _ => trivial, fun _ _ _ _ _ => trivial⟩
  · intro ledger reached
    have kept : Kept (pahoBackEnd params initialToken).desk (fun _ => True)
        (fun _ _ => True) ledger :=
      reached_kept (fun ledger event _ => asks_nothing ledger event) reached
    exact all_correspond_iff (paho_behaves params initialToken) kept

/-- A library that accepts everything, with token 5. -/
def accepting : PahoLibrary where
  subscribe _ := ⟨0, 5⟩
  unSubscribe _ := ⟨0, 5⟩
  publishing := { Paho.willing with sendMessage := fun _ => (0, 6) }

def subscribing : PahoOrder := ⟨.subscribe (text "t") ⟨1⟩ true, 9, accepting⟩

def publishing : PahoOrder :=
  ⟨.publish { topic := text "t", payload := [], qos := ⟨1⟩, retain := false }, 9, accepting⟩

/-- The publish is completed before the subscription, and fails. -/
theorem crossing_completions_correspond :
    ∃ ledger, execute (system (pahoBackEnd {} 0).desk) {}
        [.place subscribing, .place publishing, .complete 1 (.onFailure5 ⟨6, 151, -1, none⟩),
          .complete 0 (.onSuccess5 ⟨5, 0⟩)] = some ledger ∧
      AllCorrespond (pahoBackEnd {} 0) ledger := by
  refine ⟨_, rfl, ?_⟩
  apply (tokens_correspond {} 0).1
  apply reached_under_of_execute [.place subscribing, .place publishing,
    .complete 1 (.onFailure5 ⟨6, 151, -1, none⟩), .complete 0 (.onSuccess5 ⟨5, 0⟩)]
    (.start rfl) _ rfl
  refine ⟨.inl rfl, ?_⟩
  rintro _ ⟨rfl⟩
  refine ⟨trivial, ?_⟩
  rintro _ ⟨rfl⟩
  refine ⟨?_, ?_⟩
  · intro order here
    obtain rfl := Option.some.inj here
    trivial
  · rintro _ ⟨rfl⟩
    refine ⟨?_, fun _ _ => trivial⟩
    intro order here
    obtain rfl := Option.some.inj here
    trivial

theorem failed_subscription_is_not_reported :
    ∃ ledger, execute (system (pahoBackEnd {} 0).desk) {}
        [.place subscribing, .complete 0 (.onFailure5 ⟨5, 128, -1, none⟩)] = some ledger ∧
      (pahoSubmitted {} subscribing).status = .okay ∧
      pahoCalls subscribing (.onFailure5 ⟨5, 128, -1, none⟩) = [] ∧
      ¬ AllCorrespond (pahoBackEnd {} 0) ledger := by
  refine ⟨_, rfl, rfl, rfl, ?_⟩
  intro correspond
  have corresponds := correspond 0 subscribing rfl
  rcases corresponds.okay rfl with ⟨token, -, -, caused⟩
  rcases caused (by simp [Ledger.outcomes]) with ⟨call, impossible, -⟩
  cases impossible

end IMqtt.Exchange.Tokens
