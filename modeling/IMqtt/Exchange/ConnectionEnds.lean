import IMqtt.Library.Recording
import IMqtt.Paho.Connection

/-!
# What the user's connection handler sees of the end of a connection

libmosquitto runs one callback for every connection that ends, and the wrapper
passes it on. Paho reports an end that the client has asked for through the
callbacks of the request, and the wrapper only logs there.
-/

namespace IMqtt.Exchange.ConnectionEnds

open IMqtt.Defines LabelledSteps
open IMqtt.Mosquitto.Connection (ConnectionType Notification success)

set_option autoImplicit false

def noteEnd (seen : Option Nat) (notification : Notification) : Option Nat :=
  match notification.type with
  | .connect => if notification.rc = success then some 0 else seen
  | .disconnect => seen.map (· + 1)

/-- How many ends the handler has seen since it saw a connection established,
if it has seen one. -/
def endsSeen (notified : List Notification) : Option Nat := notified.foldl noteEnd none

/-- The last established connection, if there was one, has been seen to end
once. -/
def SeenOnce (notified : List Notification) : Prop :=
  endsSeen notified = none ∨ endsSeen notified = some 1

theorem ends_seen_append (before after : List Notification) :
    endsSeen (before ++ after) = after.foldl noteEnd (endsSeen before) :=
  List.foldl_append

theorem ends_seen_established (before : List Notification) :
    endsSeen (before ++ [⟨.connect, success⟩]) = some 0 := by
  rw [ends_seen_append]
  rfl

theorem ends_seen_refused (before : List Notification) {mqttRc : Int}
    (failure : mqttRc ≠ success) :
    endsSeen (before ++ [⟨.connect, mqttRc⟩]) = endsSeen before := by
  rw [ends_seen_append]
  simp [noteEnd, failure]

theorem ends_seen_ended (before : List Notification) (mqttRc : Int) :
    endsSeen (before ++ [⟨.disconnect, mqttRc⟩]) = (endsSeen before).map (· + 1) := by
  rw [ends_seen_append]
  rfl

section Paho

open IMqtt.Paho IMqtt.Paho.Connection

/-- What the handler has seen and will see of what has happened. -/
def coming (s : State) : List Notification :=
  s.notified ++ s.pending.flatMap Callback.notifications

/-- Nothing is left to be run, and there is no connection. -/
def Quiet (s : State) : Prop := s.link = false ∧ s.pending = []

theorem coming_of_quiet {s : State} (quiet : Quiet s) : coming s = s.notified := by
  rw [coming, quiet.2]
  exact List.append_nil _

theorem coming_added {s t : State} {callbacks : List Callback}
    (notified : t.notified = s.notified) (pending : t.pending = s.pending ++ callbacks) :
    coming t = coming s ++ callbacks.flatMap Callback.notifications := by
  rw [coming, coming, notified, pending, List.flatMap_append, List.append_assoc]

theorem coming_run {texts : Texts} {s : State} {callback : Callback} {rest : List Callback}
    (next : s.pending = callback :: rest) :
    coming { runCallback texts callback s with pending := rest } = coming s := by
  rw [coming, coming, next, List.flatMap_cons, ← List.append_assoc]
  rfl

/-- Each callback for an end that was not asked for is one notification. -/
theorem noted_ends (callbacks : List EndCallback) (seen : Nat) :
    ((callbacks.map Callback.ended).flatMap Callback.notifications).foldl noteEnd (some seen) =
      some (seen + callbacks.length) := by
  induction callbacks generalizing seen with
  | nil => rfl
  | cons callback rest ih =>
      have one : ∀ after, (Callback.notifications (.ended callback) ++ after).foldl noteEnd
          (some seen) = after.foldl noteEnd (some (seen + 1)) := by
        intro after
        cases callback <;> rfl
      rw [List.map_cons, List.flatMap_cons, one, ih, List.length_cons]
      congr 1
      omega

/-- The record of a run is the number of callbacks that the library has run
for the last end and that call the handler. -/
def noteReports (_ : State) : Action → Option Nat → Option Nat
  | .lost callbacks, _ => some callbacks.length
  | .disconnectCompleted _, _ => some 0
  | _, reports => reports

def reporting (texts : Texts) : System (State × Option Nat) Action :=
  recording (system texts) none noteReports

/-- What is coming agrees with the connection and the record. -/
structure ComingKept (pair : State × Option Nat) : Prop where
  up : pair.1.link = true → endsSeen (coming pair.1) = some 0
  down : pair.1.link = false → endsSeen (coming pair.1) = pair.2

theorem kept_of_same {s t : State} {reports : Option Nat} (kept : ComingKept (s, reports))
    (same : coming t = coming s) (link : t.link = s.link) : ComingKept (t, reports) := by
  constructor
  · rw [same, link]
    exact kept.up
  · rw [same, link]
    exact kept.down

theorem coming_kept_step {texts : Texts} {s t : State} {action : Action}
    {reports : Option Nat} (kept : ComingKept (s, reports))
    (transition : Transition texts s action t) :
    ComingKept (t, noteReports s action reports) := by
  cases transition with
  | connectAsync | connectReturns | disconnectAsync => exact kept_of_same kept rfl rfl
  | callback next => exact kept_of_same kept (coming_run next) rfl
  | established attempting down =>
      have later := @coming_added s
        { s with link := true, requested := false, pending := s.pending ++ [.connected] }
        [.connected] rfl rfl
      constructor
      · intro _
        rw [later]
        exact ends_seen_established (coming s)
      · intro impossible
        cases impossible
  | @lost callbacks up unasked =>
      have later := @coming_added s
        { s with link := false, pending := s.pending ++ callbacks.map .ended }
        (callbacks.map .ended) rfl rfl
      constructor
      · intro impossible
        cases impossible
      · intro _
        rw [later, ends_seen_append, kept.up up, noted_ends, Nat.zero_add]
        rfl
  | @disconnectCompleted report up asked =>
      have later := @coming_added s
        { s with
          link := false
          requested := false
          pending := s.pending ++ [.disconnectReport report] }
        [.disconnectReport report] rfl rfl
      constructor
      · intro impossible
        cases impossible
      · intro _
        rw [later, ends_seen_append, kept.up up]
        rfl
  | @disconnectFailed data up asked =>
      have later := @coming_added s
        { s with
          requested := false
          pending := s.pending ++ [.disconnectReport (.onFailure5 data)] }
        [.disconnectReport (.onFailure5 data)] rfl rfl
      have same : coming { s with
          requested := false
          pending := s.pending ++ [.disconnectReport (.onFailure5 data)] } = coming s := by
        rw [later]
        exact List.append_nil _
      exact kept_of_same kept same rfl

theorem reached_coming_kept {texts : Texts} {pair : State × Option Nat}
    (reached : Reached (reporting texts) pair) : ComingKept pair := by
  apply invariant_of_step ComingKept _ _ reached
  · intro pair start
    rcases pair with ⟨s, reports⟩
    rcases start with ⟨begins, blank⟩
    have empty : s = {} := begins
    have none_yet : reports = none := blank
    rw [empty, none_yet]
    constructor
    · intro impossible
      cases impossible
    · intro _
      rfl
  · intro pair action after _ kept _ taken
    rcases recording_some taken with ⟨ran, noted⟩
    have next := coming_kept_step kept (step_transition ran)
    rw [← noted] at next
    exact next

/-- No connection ends by a request of the client, and for each end the library
runs one of the two callbacks. -/
def EndsReported (_ : State) : Action → Prop
  | .lost callbacks => callbacks.length = 1
  | .disconnectCompleted _ => False
  | _ => True

instance (s : State) : ∀ action, Decidable (EndsReported s action)
  | .lost callbacks => inferInstanceAs (Decidable (callbacks.length = 1))
  | .disconnectCompleted _ => .isFalse id
  | .connectAsync _ _ | .connectReturns _ | .disconnectAsync _ | .established
  | .disconnectFailed _ | .callback => .isTrue trivial

theorem reports_once_step {s : State} {action : Action} {reports : Option Nat}
    (once : reports = none ∨ reports = some 1) (reported : EndsReported s action) :
    noteReports s action reports = none ∨ noteReports s action reports = some 1 := by
  cases action with
  | lost callbacks => exact .inr (congrArg some reported)
  | disconnectCompleted report => exact reported.elim
  | _ => exact once

end Paho

section Mosquitto

open IMqtt.Mosquitto.Connection

/-- The notification that the running callback will make. -/
def Callback.upcoming : Callback → List Notification
  | .idle => []
  | .onConnectCb mqttRc | .notifyConnect mqttRc => [⟨.connect, mqttRc⟩]
  | .onDisconnectCb mqttRc | .notifyDisconnect mqttRc => [⟨.disconnect, mqttRc⟩]

def mosquittoComing (s : State) : List Notification := s.notified ++ Callback.upcoming s.callback

/-- While a connection is up no end of it has been reported, and afterwards
one. -/
structure EndsKept (s : State) : Prop where
  up : s.link = true → endsSeen (mosquittoComing s) = some 0
  down : s.link = false → SeenOnce (mosquittoComing s)

theorem ends_kept_of_same {s t : State} (kept : EndsKept s)
    (same : mosquittoComing t = mosquittoComing s) (link : t.link = s.link) : EndsKept t := by
  constructor
  · rw [same, link]
    exact kept.up
  · rw [same, link]
    exact kept.down

theorem coming_of_idle {s : State} (idle : s.callback = .idle) :
    mosquittoComing s = s.notified := by
  rw [mosquittoComing, idle]
  exact List.append_nil _

theorem ends_kept_step {setting : Setting} {s t : State} {action : Action}
    (kept : EndsKept s) (transition : Transition setting s action t) : EndsKept t := by
  cases transition with
  | accepted between attempting down =>
      constructor
      · intro _
        exact ends_seen_established s.notified
      · intro impossible
        cases impossible
  | @refused mqttRc between attempting down failure =>
      have before := kept.down down
      rw [coming_of_idle between.2] at before
      constructor
      · intro up
        have standing : s.link = true := up
        rw [down] at standing
        cases standing
      · intro _
        have same : endsSeen (mosquittoComing { s with callback := .onConnectCb mqttRc }) =
            endsSeen s.notified := ends_seen_refused s.notified failure
        rw [SeenOnce, same]
        exact before
  | @ended mqttRc between up =>
      have before := kept.up up
      rw [coming_of_idle between.2] at before
      constructor
      · intro impossible
        cases impossible
      · intro _
        have one : endsSeen (mosquittoComing
            { s with link := false, callback := .onDisconnectCb mqttRc }) = some 1 := by
          have noted := ends_seen_ended s.notified mqttRc
          rw [before] at noted
          exact noted
        exact .inr one
  | onConnectCb here | onDisconnectCb here =>
      refine ends_kept_of_same kept ?_ rfl
      rw [mosquittoComing, mosquittoComing, here]
      rfl
  | @notify type mqttRc here =>
      refine ends_kept_of_same kept ?_ rfl
      rw [mosquittoComing, mosquittoComing, here]
      cases type <;> exact List.append_nil _
  | connectAsync | disconnectAsync | threadEnd | enter | testLinked | testUnlinked
  | disconnect | loopStop | stopped => exact ends_kept_of_same kept rfl rfl

theorem reached_ends_kept {setting : Setting} {s : State}
    (reached : Reached (system setting) s) : EndsKept s := by
  apply invariant_of_step EndsKept _ _ reached
  · intro start begins
    have empty : start = {} := begins
    rw [empty]
    constructor
    · intro impossible
      cases impossible
    · intro _
      exact .inl rfl
  · intro before action after _ kept _ taken
    exact ends_kept_step kept (step_transition taken)

end Mosquitto

/-- With Paho in the runs in which every end is reported, with Mosquitto in all
runs. After an end that Paho reports by another number of callbacks the handler
has not seen one end. -/
theorem each_end_is_seen_once (texts : Paho.Texts) (setting : Mosquitto.Connection.Setting) :
    (∀ s, ReachedUnder (Paho.Connection.system texts) EndsReported s → Quiet s →
      SeenOnce s.notified) ∧
    (∀ s : Mosquitto.Connection.State,
      Reached (Mosquitto.Connection.system setting) s → s.link = false →
      s.callback = .idle → SeenOnce s.notified) ∧
    ∀ s reports, Reached (reporting texts) (s, reports) → Quiet s →
      (SeenOnce s.notified ↔ reports = none ∨ reports = some 1) := by
  have agrees : ∀ s reports, Reached (reporting texts) (s, reports) → Quiet s →
      (SeenOnce s.notified ↔ reports = none ∨ reports = some 1) := by
    intro s reports reached quiet
    have kept : ComingKept (s, reports) := reached_coming_kept reached
    have seen : endsSeen (coming s) = reports := kept.down quiet.1
    rw [coming_of_quiet quiet] at seen
    rw [SeenOnce, seen]
  refine ⟨?_, ?_, agrees⟩
  · intro s reached quiet
    rcases recording_of_reached reached with ⟨reports, recorded⟩
    have within : Reached (reporting texts) (s, reports) := reached_of_reached_under recorded
    rw [agrees s reports within quiet]
    apply invariant_of_step
      (fun pair : Paho.Connection.State × Option Nat => pair.2 = none ∨ pair.2 = some 1)
      _ _ recorded
    · intro pair start
      exact .inl start.2
    · intro pair action after _ once reported taken
      rw [(recording_some taken).2]
      exact reports_once_step once reported
  · intro s reached down idle
    have kept := (reached_ends_kept reached).down down
    rw [coming_of_idle idle] at kept
    exact kept

section Runs

open IMqtt.Paho IMqtt.Paho.Connection
open IMqtt.Paho.ConnectOptions (connectOptions)

/-- A connection is lost, established again and lost again. -/
def lossSchedule : List Action :=
  [.connectAsync (connectOptions true {} 0) 0, .established, .callback, .connectReturns 0,
    .lost [.connectionLost], .callback, .established, .lost [.disconnected 139], .callback,
    .callback]

theorem losses_are_seen_once :
    ∃ s, execute (system ⟨fun _ => [], fun _ => []⟩) {} lossSchedule = some s ∧
      s.notified = [⟨.connect, 0⟩, ⟨.disconnect, 0⟩, ⟨.connect, 0⟩, ⟨.disconnect, 139⟩] ∧
      SeenOnce s.notified := by
  refine ⟨_, rfl, rfl, ?_⟩
  apply (each_end_is_seen_once ⟨fun _ => [], fun _ => []⟩ {}).1 _ _ ⟨rfl, rfl⟩
  exact reached_under_of_execute lossSchedule (.start rfl) (by decide) rfl

/-- The client connects, and disconnects again. -/
def disconnectSchedule : List Action :=
  [.connectAsync (connectOptions true {} 0) 0, .established, .callback, .connectReturns 0,
    .disconnectAsync 0,
    .disconnectCompleted (.onSuccess5 ⟨0, 0⟩), .callback]

theorem requested_end_is_not_seen :
    ∃ s, execute (system ⟨fun _ => [], fun _ => []⟩) {} disconnectSchedule = some s ∧
      Quiet s ∧ s.notified = [⟨.connect, 0⟩] ∧ ¬ SeenOnce s.notified := by
  refine ⟨_, rfl, ⟨rfl, rfl⟩, rfl, ?_⟩
  rintro (never | once)
  · cases never
  · cases once

end Runs

end IMqtt.Exchange.ConnectionEnds
