import IMqtt.Exchange.ConnectionEnds

/-!
# IsConnected and the user's connection handler

The handler is told of connections and of their ends. What it has been told is
a history of one connection at a time, and `IsConnected` gives the state at the
end of that history: from within the handler, the one it is being told of.
-/

namespace IMqtt.Exchange.ConnectionView

open IMqtt.Defines LabelledSteps
open IMqtt.Mosquitto.Connection (ConnectionType Notification success)

set_option autoImplicit false

/-- No attempt is reported while there is a connection, and no end without one. -/
def viewStep : Bool → Notification → Option Bool
  | false, ⟨.connect, rc⟩ => some (decide (rc = success))
  | true, ⟨.disconnect, _⟩ => some false
  | _, _ => none

/-- Whether there is a connection, to someone who knows the notifications only. -/
def view (notified : List Notification) : Option Bool := notified.foldlM viewStep false

theorem view_append {before : List Notification} {connected : Bool}
    (viewed : view before = some connected) (notification : Notification) :
    view (before ++ [notification]) = viewStep connected notification := by
  rw [view, List.foldlM_append]
  have prior : before.foldlM viewStep false = some connected := viewed
  rw [prior]
  simp

section Mosquitto

open IMqtt.Mosquitto.Connection

/-- The notification of a callback that has written the flag already. -/
def written : Callback → List Notification
  | .notifyConnect mqttRc => [⟨.connect, mqttRc⟩]
  | .notifyDisconnect mqttRc => [⟨.disconnect, mqttRc⟩]
  | .idle | .onConnectCb _ | .onDisconnectCb _ => []

/-- The connection, the flag and the history, by the callback that is running. -/
def Follows (s : State) : Prop :=
  match s.callback with
  | .idle => view s.notified = some s.link ∧ s.connected = s.link
  | .onConnectCb mqttRc =>
      view s.notified = some false ∧ s.connected = false ∧ s.link = decide (mqttRc = success)
  | .notifyConnect mqttRc =>
      view s.notified = some false ∧ s.connected = decide (mqttRc = success) ∧
        s.link = decide (mqttRc = success)
  | .onDisconnectCb _ => view s.notified = some true ∧ s.connected = true ∧ s.link = false
  | .notifyDisconnect _ => view s.notified = some true ∧ s.connected = false ∧ s.link = false

theorem follows_of_same {s t : State} (follows : Follows s) (callback : t.callback = s.callback)
    (notified : t.notified = s.notified) (connected : t.connected = s.connected)
    (link : t.link = s.link) : Follows t := by
  unfold Follows
  rw [callback, notified, connected, link]
  exact follows

theorem follows_between {s : State} (follows : Follows s) (between : s.between) :
    view s.notified = some s.link ∧ s.connected = s.link := by
  unfold Follows at follows
  rw [between.2] at follows
  exact follows

theorem follows_notify {s : State} {type : ConnectionType} {mqttRc : Int} (follows : Follows s)
    (here : s.callback = match type with
      | .connect => .notifyConnect mqttRc
      | .disconnect => .notifyDisconnect mqttRc) : Follows (notify type mqttRc s) := by
  unfold Follows at follows
  cases type with
  | connect =>
      rw [here] at follows
      obtain ⟨viewed, flag, link⟩ := follows
      have told := view_append viewed ⟨.connect, mqttRc⟩
      constructor
      · exact told.trans (congrArg some link.symm)
      · exact flag.trans link.symm
  | disconnect =>
      rw [here] at follows
      obtain ⟨viewed, flag, link⟩ := follows
      have told := view_append viewed ⟨.disconnect, mqttRc⟩
      constructor
      · exact told.trans (congrArg some link.symm)
      · exact flag.trans link.symm

theorem follows_step {setting : Setting} {s t : State} {action : Action}
    (follows : Follows s) (transition : Transition setting s action t) : Follows t := by
  cases transition with
  | accepted between attempting down =>
      obtain ⟨viewed, flag⟩ := follows_between follows between
      rw [down] at viewed flag
      exact ⟨viewed, flag, rfl⟩
  | @refused mqttRc between attempting down failure =>
      obtain ⟨viewed, flag⟩ := follows_between follows between
      rw [down] at viewed flag
      refine ⟨viewed, flag, ?_⟩
      rw [decide_eq_false failure]
      exact down
  | ended between up =>
      obtain ⟨viewed, flag⟩ := follows_between follows between
      rw [up] at viewed flag
      exact ⟨viewed, flag, rfl⟩
  | @onConnectCb mqttRc here =>
      unfold Follows at follows
      rw [here] at follows
      obtain ⟨viewed, flag, link⟩ := follows
      have raised : (onConnectCb mqttRc s).connected = decide (mqttRc = success) := by
        rw [onConnectCb]
        simp only
        rw [flag, Bool.false_or]
      exact ⟨viewed, raised, link⟩
  | onDisconnectCb here =>
      unfold Follows at follows
      rw [here] at follows
      exact ⟨follows.1, rfl, follows.2.2⟩
  | notify here => exact follows_notify follows here
  | connectAsync | disconnectAsync | threadEnd | enter | testLinked | testUnlinked
  | disconnect | loopStop | stopped => exact follows_of_same follows rfl rfl rfl rfl

theorem reached_follows {setting : Setting} {s : State}
    (reached : Reached (system setting) s) : Follows s := by
  apply invariant_of_step Follows _ _ reached
  · intro start begins
    have empty : start = {} := begins
    rw [empty]
    exact ⟨rfl, rfl⟩
  · intro before action after _ follows _ taken
    exact follows_step follows (step_transition taken)

/-- A thread that has ended has left no callback and no connection, and the
destructor has seen it end. -/
structure ThreadOver (s : State) : Prop where
  quiet : s.netThread = false → s.callback = .idle ∧ s.link = false
  joined : s.destructor = .destroyed → s.netThread = false

theorem thread_over_frame {s t : State} (left : ThreadOver s) (thread : t.netThread = s.netThread)
    (callback : t.callback = s.callback) (link : t.link = s.link)
    (destructor : t.destructor = .destroyed → s.destructor = .destroyed) : ThreadOver t := by
  constructor
  · rw [thread, callback, link]
    exact left.quiet
  · intro here
    rw [thread]
    exact left.joined (destructor here)

theorem thread_over_running {s t : State} (left : ThreadOver s) (running : s.netThread = true)
    (thread : t.netThread = s.netThread) (destructor : t.destructor = s.destructor) :
    ThreadOver t := by
  constructor
  · intro ended
    rw [thread, running] at ended
    cases ended
  · intro here
    rw [destructor] at here
    rw [thread]
    exact left.joined here

/-- A callback runs on the thread. -/
theorem running_of_callback {s : State} (left : ThreadOver s) (busy : s.callback ≠ .idle) :
    s.netThread = true := by
  cases thread : s.netThread with
  | true => rfl
  | false => exact absurd (left.quiet thread).1 busy

theorem thread_over_step {setting : Setting} {s t : State} {action : Action}
    (left : ThreadOver s) (transition : Transition setting s action t) : ThreadOver t := by
  cases transition with
  | accepted between | refused between | ended between =>
      exact thread_over_running left between.1 rfl rfl
  | onConnectCb here | onDisconnectCb here =>
      exact thread_over_running left (running_of_callback left (by simp [here])) rfl rfl
  | @notify type mqttRc here =>
      have busy : s.callback ≠ .idle := by
        rw [here]
        cases type <;> exact Callback.noConfusion
      exact thread_over_running left (running_of_callback left busy) rfl rfl
  | threadEnd between down requested =>
      constructor
      · intro _
        exact ⟨between.2, down⟩
      · intro _
        rfl
  | stopped here ended =>
      constructor
      · exact left.quiet
      · intro _
        exact ended
  | connectAsync | disconnectAsync => exact thread_over_frame left rfl rfl rfl id
  | enter | testLinked | testUnlinked | disconnect | loopStop =>
      refine thread_over_frame left rfl rfl rfl ?_
      intro impossible
      cases impossible

theorem reached_thread_over {setting : Setting} {s : State}
    (reached : Reached (system setting) s) : ThreadOver s := by
  apply invariant_of_step ThreadOver _ _ reached
  · intro start begins
    have empty : start = {} := begins
    rw [empty]
    constructor <;>
    · intro impossible
      cases impossible
  · intro before action after _ left _ taken
    exact thread_over_step left (step_transition taken)

/-- The flag is written in front of the handler's call, which then agrees with it. -/
theorem view_with_written {s : State} (follows : Follows s) :
    view (s.notified ++ written s.callback) = some s.connected := by
  unfold Follows at follows
  cases here : s.callback with
  | idle =>
      rw [here] at follows
      rw [written, List.append_nil, follows.2]
      exact follows.1
  | onConnectCb mqttRc | onDisconnectCb mqttRc =>
      rw [here] at follows
      rw [written, List.append_nil, follows.2.1]
      exact follows.1
  | notifyConnect mqttRc | notifyDisconnect mqttRc =>
      rw [here] at follows
      rw [written, view_append follows.1, follows.2.1]
      rfl

end Mosquitto

section Paho

open IMqtt.Paho IMqtt.Paho.Connection
open IMqtt.Exchange.ConnectionEnds (coming coming_added coming_run EndsReported)

def Foreseen (s : State) : Prop := view (coming s) = some s.link

theorem foreseen_of_same {s t : State} (foreseen : Foreseen s) (same : coming t = coming s)
    (link : t.link = s.link) : Foreseen t := by
  unfold Foreseen
  rw [same, link]
  exact foreseen

theorem foreseen_step {texts : Texts} {s t : State} {action : Action} (foreseen : Foreseen s)
    (reported : EndsReported s action) (transition : Transition texts s action t) :
    Foreseen t := by
  have before : view (coming s) = some s.link := foreseen
  cases transition with
  | connectAsync | connectReturns | disconnectAsync => exact foreseen_of_same foreseen rfl rfl
  | callback next => exact foreseen_of_same foreseen (coming_run next) rfl
  | disconnectCompleted => exact reported.elim
  | established attempting down =>
      have later := @coming_added s
        { s with link := true, requested := false, pending := s.pending ++ [.connected] }
        [.connected] rfl rfl
      rw [down] at before
      unfold Foreseen
      rw [later]
      exact view_append before ⟨.connect, success⟩
  | @lost callbacks up unasked =>
      have later := @coming_added s
        { s with link := false, pending := s.pending ++ callbacks.map .ended }
        (callbacks.map .ended) rfl rfl
      obtain ⟨callback, rfl⟩ := List.length_eq_one_iff.mp reported
      rw [up] at before
      unfold Foreseen
      rw [later]
      cases callback with
      | connectionLost => exact view_append before ⟨.disconnect, success⟩
      | disconnected reason => exact view_append before ⟨.disconnect, reason⟩
  | @disconnectFailed data up asked =>
      have later := @coming_added s
        { s with
          requested := false
          pending := s.pending ++ [.disconnectReport (.onFailure5 data)] }
        [.disconnectReport (.onFailure5 data)] rfl rfl
      refine foreseen_of_same foreseen ?_ rfl
      rw [later]
      exact List.append_nil _

theorem reached_foreseen {texts : Texts} {s : State}
    (reached : ReachedUnder (system texts) EndsReported s) : Foreseen s := by
  apply invariant_of_step Foreseen _ _ reached
  · intro start begins
    have empty : start = {} := begins
    rw [empty]
    rfl
  · intro before action after _ foreseen reported taken
    exact foreseen_step foreseen reported (step_transition taken)

end Paho

/-- An attempt is refused and the next one accepted; the client is destroyed. -/
def refusedFirstSchedule : List Mosquitto.Connection.Action :=
  [.connectAsync 0, .refused 135, .callback, .callback, .accepted, .callback, .callback,
    .destructor 0, .destructor 0, .destructor 0, .destructor 0, .ended 0, .callback, .callback,
    .threadEnd, .destructor 0]

end IMqtt.Exchange.ConnectionView
