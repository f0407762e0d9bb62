import IMqtt.Exchange.ConnectionView
import IMqtt.Library.Ranking

/-!
# When the destructor is sure to return

`mosquitto_loop_stop` waits for the network thread, and the thread is taken to
end once `mosquitto_disconnect_v5` was ever called and the connection is down. The destructor calls it when it finds
the flag set, but a connection may be lost in front of that test.
-/

namespace IMqtt.Mosquitto.Destruction

open IMqtt.Mosquitto.Connection LabelledSteps
open IMqtt.Exchange.ConnectionView (Follows ThreadOver reached_follows reached_thread_over)

set_option autoImplicit false

/-- The destructor, the callbacks, and the ends of the connection and of the
thread; no call of the user and no new connection. -/
def proceeds : Action → Bool
  | .callback | .ended _ | .threadEnd | .destructor _ => true
  | .connectAsync _ | .disconnectAsync _ | .accepted | .refused _ => false

def destructorRank : Destructor → Nat
  | .alive => 5
  | .test => 4
  | .disconnect => 3
  | .loopStop => 2
  | .stopping => 1
  | .destroyed => 0

def callbackRank : Callback → Nat
  | .onConnectCb _ | .onDisconnectCb _ => 2
  | .notifyConnect _ | .notifyDisconnect _ => 1
  | .idle => 0

def linkRank (link : Bool) : Nat := if link then 3 else 0

def threadRank (netThread : Bool) : Nat := if netThread then 1 else 0

def rank (s : State) : Nat :=
  destructorRank s.destructor + callbackRank s.callback + linkRank s.link +
    threadRank s.netThread

def paid : Action → Nat
  | .connectAsync _ | .disconnectAsync _ => 1
  | .accepted => 6
  | .refused _ => 3
  | .callback | .ended _ | .threadEnd | .destructor _ => 0

theorem link_rank_up : linkRank true = 3 := rfl

theorem link_rank_down : linkRank false = 0 := rfl

theorem thread_rank_running : threadRank true = 1 := rfl

theorem thread_rank_ended : threadRank false = 0 := rfl

theorem rank_step {setting : Setting} {s t : State} {action : Action}
    (transition : Transition setting s action t) : rank t + 1 ≤ rank s + paid action := by
  cases transition with
  | connectAsync | disconnectAsync => exact Nat.le_refl _
  | accepted between attempting down =>
      simp only [rank, paid, between.2, down, callbackRank, link_rank_up, link_rank_down]
      omega
  | refused between =>
      simp only [rank, paid, between.2, callbackRank]
      omega
  | ended between up =>
      simp only [rank, paid, between.2, up, callbackRank, link_rank_up, link_rank_down]
      omega
  | onConnectCb here =>
      simp only [rank, paid, onConnectCb, State.logLine, here, callbackRank]
      omega
  | onDisconnectCb here =>
      simp only [rank, paid, onDisconnectCb, State.logLine, here, callbackRank]
      omega
  | @notify type mqttRc here =>
      have busy : callbackRank s.callback = 1 := by
        rw [here]
        cases type <;> rfl
      have nothing : callbackRank .idle = 0 := rfl
      simp only [rank, paid, notify, busy]
      omega
  | threadEnd between =>
      simp only [rank, paid, between.1, thread_rank_running, thread_rank_ended]
      omega
  | enter here | testLinked here | testUnlinked here | disconnect here | loopStop here
  | stopped here =>
      simp only [rank, paid, here, destructorRank, State.logLine, disconnectAsync]
      omega

def ranking (setting : Setting) : Ranking (system setting) where
  rank := rank
  paid := paid
  lowers _ _ _ _ taken := rank_step (step_transition taken)

/-- The thread has ended or has been told to, or the destructor is about to tell it. -/
def Told (s : State) : Prop :=
  s.netThread = false ∨ s.disconnectCalled = true ∨ s.destructor = .disconnect

theorem told_step {setting : Setting} {s t : State} {action : Action} (told : Told s)
    (transition : Transition setting s action t) : Told t := by
  obtain ended | called | telling := told
  · left
    cases transition with
    | threadEnd => rfl
    | _ => exact ended
  · right
    left
    cases transition with
    | disconnectAsync | disconnect => rfl
    | _ => exact called
  · cases transition with
    | disconnectAsync => exact .inr (.inl rfl)
    | disconnect => exact .inr (.inl rfl)
    | threadEnd => exact .inl rfl
    | enter here | testLinked here | testUnlinked here | loopStop here | stopped here =>
        rw [telling] at here
        cases here
    | connectAsync | accepted | refused | ended | onConnectCb | onDisconnectCb | notify =>
        exact .inr (.inr telling)

/-- The thread ends on request only. -/
theorem called_of_ended {setting : Setting} {s : State} (reached : Reached (system setting) s)
    (ended : s.netThread = false) : s.disconnectCalled = true := by
  revert ended
  apply invariant_of_step (fun s : State => s.netThread = false → s.disconnectCalled = true)
    _ _ reached
  · intro start begins
    have empty : start = {} := begins
    rw [empty]
    intro impossible
    cases impossible
  · intro before action after _ called _ taken
    cases step_transition taken with
    | threadEnd between down requested => exact fun _ => requested
    | disconnectAsync | disconnect => exact fun _ => rfl
    | connectAsync | accepted | refused | ended | onConnectCb | onDisconnectCb | notify
    | enter | testLinked | testUnlinked | loopStop | stopped => exact called

structure Leaving (setting : Setting) (s : State) : Prop where
  reached : Reached (system setting) s
  told : Told s

/-- A callback goes on, and leaves the thread and the destructor where they are. -/
theorem callback_moves {s : State} (busy : s.callback ≠ .idle) :
    ∃ after, callbackStep s = some after ∧ after.netThread = s.netThread ∧
      after.disconnectCalled = s.disconnectCalled ∧ after.destructor = s.destructor := by
  cases callback : s.callback with
  | idle => exact absurd callback busy
  | onConnectCb mqttRc =>
      exact ⟨onConnectCb mqttRc s, by rw [callbackStep, callback], rfl, rfl, rfl⟩
  | notifyConnect mqttRc =>
      exact ⟨notify .connect mqttRc s, by rw [callbackStep, callback], rfl, rfl, rfl⟩
  | onDisconnectCb mqttRc =>
      exact ⟨onDisconnectCb mqttRc s, by rw [callbackStep, callback], rfl, rfl, rfl⟩
  | notifyDisconnect mqttRc =>
      exact ⟨notify .disconnect mqttRc s, by rw [callbackStep, callback], rfl, rfl, rfl⟩

theorem destructor_moves (setting : Setting) {s : State} (waits : s.destructor ≠ .stopping)
    (running : s.destructor ≠ .destroyed) :
    ∃ after, destructorStep setting 0 s = some after := by
  rw [← Option.ne_none_iff_exists', destructorStep]
  cases position : s.destructor with
  | stopping => exact absurd position waits
  | destroyed => exact absurd position running
  | _ => exact Option.some_ne_none _

/-- What a destructor waits for can go on. -/
theorem leaving_moves {setting : Setting} {s : State} (leaving : Leaving setting s)
    (running : s.destructor ≠ .destroyed) :
    ∃ action after, proceeds action = true ∧ step setting s action = some after := by
  by_cases waits : s.destructor = .stopping
  · cases thread : s.netThread with
    | false =>
        refine ⟨.destructor 0, { s with destructor := .destroyed }, rfl, ?_⟩
        simp [step, destructorStep, waits, thread]
    | true =>
        have called : s.disconnectCalled = true := by
          obtain ended | called | telling := leaving.told
          · rw [thread] at ended
            cases ended
          · exact called
          · rw [waits] at telling
            cases telling
        by_cases idle : s.callback = .idle
        · have between : s.between := ⟨thread, idle⟩
          cases link : s.link with
          | true => exact ⟨.ended 0, _, rfl, if_pos ⟨between, link⟩⟩
          | false => exact ⟨.threadEnd, _, rfl, if_pos ⟨between, link, called⟩⟩
        · obtain ⟨after, taken, -⟩ := callback_moves idle
          exact ⟨.callback, after, rfl, taken⟩
  · obtain ⟨after, taken⟩ := destructor_moves setting waits running
    exact ⟨.destructor 0, after, rfl, taken⟩

theorem returns_of_told {setting : Setting} {s : State} (leaving : Leaving setting s) :
    Inevitable (system setting) (fun _ action => proceeds action = true)
      (fun state => state.destructor = .destroyed) s := by
  refine inevitable_of_ranking (ranking setting) (Leaving setting) _ ?_ ?_ ?_ ?_ leaving
  · exact fun _ within => within.reached
  · intro state action after within _ taken
    exact ⟨.next within.reached trivial taken, told_step within.told (step_transition taken)⟩
  · intro state action forward
    cases action with
    | callback | ended | threadEnd | destructor => rfl
    | connectAsync | disconnectAsync | accepted | refused => cases forward
  · exact fun _ => leaving_moves

/-! A schedule that leaves the thread running. -/

structure Trapped (setting : Setting) (s : State) : Prop where
  reached : Reached (system setting) s
  untold : ¬ Told s
  running : s.destructor ≠ .destroyed

/-- The connection is lost, and its end reported, before the destructor tests the flag. -/
theorem loses_first {setting : Setting} {s : State} (follows : Follows s)
    (running : s.netThread = true) (flag : s.connected = true) :
    ∃ action after, proceeds action = true ∧ step setting s action = some after ∧
      after.netThread = s.netThread ∧ after.disconnectCalled = s.disconnectCalled ∧
      after.destructor = s.destructor := by
  by_cases idle : s.callback = .idle
  · unfold Follows at follows
    rw [idle] at follows
    have link : s.link = true := follows.2.symm.trans flag
    exact ⟨.ended 0, _, rfl, if_pos ⟨⟨running, idle⟩, link⟩, rfl, rfl, rfl⟩
  · obtain ⟨after, taken, same⟩ := callback_moves idle
    exact ⟨.callback, after, rfl, taken, same⟩

theorem trapped_of_same {setting : Setting} {s t : State} {action : Action}
    (trapped : Trapped setting s) (taken : step setting s action = some t)
    (thread : t.netThread = s.netThread) (called : t.disconnectCalled = s.disconnectCalled)
    (position : t.destructor = s.destructor) : Trapped setting t := by
  constructor
  · exact .next trapped.reached trivial taken
  · unfold Told
    rw [thread, called, position]
    exact trapped.untold
  · rw [position]
    exact trapped.running

/-- A thread that nobody has told to end goes on. -/
theorem untold_parts {s : State} (untold : ¬ Told s) :
    s.netThread = true ∧ s.disconnectCalled = false ∧ s.destructor ≠ .disconnect := by
  unfold Told at untold
  refine ⟨?_, ?_, fun telling => untold (.inr (.inr telling))⟩
  · rw [← Bool.not_eq_false]
    exact fun ended => untold (.inl ended)
  · rw [← Bool.not_eq_true]
    exact fun called => untold (.inr (.inl called))

theorem trapped_stays {setting : Setting} {s : State} (trapped : Trapped setting s)
    (moves : ∃ action after, proceeds action = true ∧ step setting s action = some after) :
    ∃ action after, proceeds action = true ∧ step setting s action = some after ∧
      Trapped setting after := by
  obtain ⟨thread, called, telling⟩ := untold_parts trapped.untold
  -- The destructor goes on, if that does not tell the thread to end.
  have advanced : ∀ after, step setting s (.destructor 0) = some after →
      after.netThread = s.netThread → after.disconnectCalled = s.disconnectCalled →
      after.destructor ≠ .disconnect → after.destructor ≠ .destroyed →
      Trapped setting after := by
    intro after taken sameThread sameCalled next running
    have advances : (system setting).step s (.destructor 0) = some after := taken
    refine ⟨.next trapped.reached trivial advances, ?_, running⟩
    rintro (ended | told | position)
    · rw [sameThread, thread] at ended
      cases ended
    · rw [sameCalled, called] at told
      cases told
    · exact next position
  cases position : s.destructor with
  | destroyed => exact absurd position trapped.running
  | disconnect => exact absurd position telling
  | alive =>
      have taken : step setting s (.destructor 0) = some
          { s.logLine .info (Defines.text "Deinitializing mosquitto instance") with
            destructor := .test } := by
        rw [step, destructorStep, position]
      refine ⟨.destructor 0, _, rfl, taken, advanced _ taken rfl rfl ?_ ?_⟩
      · exact Destructor.noConfusion
      · exact Destructor.noConfusion
  | test =>
      cases flag : s.connected with
      | true =>
          obtain ⟨action, after, forward, taken, same⟩ :=
            @loses_first setting s (reached_follows trapped.reached) thread flag
          exact ⟨action, after, forward, taken,
            trapped_of_same trapped taken same.1 same.2.1 same.2.2⟩
      | false =>
          have taken : step setting s (.destructor 0) =
              some { s with destructor := .loopStop } := by
            rw [step, destructorStep, position, flag]
            rfl
          refine ⟨.destructor 0, _, rfl, taken, advanced _ taken rfl rfl ?_ ?_⟩
          · exact Destructor.noConfusion
          · exact Destructor.noConfusion
  | loopStop =>
      have taken : step setting s (.destructor 0) =
          some { s with destructor := .stopping } := by
        rw [step, destructorStep, position]
      refine ⟨.destructor 0, _, rfl, taken, advanced _ taken rfl rfl ?_ ?_⟩
      · exact Destructor.noConfusion
      · exact Destructor.noConfusion
  | stopping =>
      -- Whatever else goes on, it does not end the thread.
      obtain ⟨action, after, forward, taken⟩ := moves
      refine ⟨action, after, forward, taken, ?_⟩
      have transition := step_transition taken
      cases transition with
      | connectAsync | disconnectAsync | accepted | refused => cases forward
      | threadEnd between down requested =>
          rw [called] at requested
          cases requested
      | stopped here ended =>
          rw [thread] at ended
          cases ended
      | enter here | testLinked here | testUnlinked here | disconnect here | loopStop here =>
          rw [position] at here
          cases here
      | ended | onConnectCb | onDisconnectCb | notify =>
          exact trapped_of_same trapped taken rfl rfl rfl

theorem told_of_returns {setting : Setting} {s : State} (reached : Reached (system setting) s)
    (returns : Inevitable (system setting) (fun _ action => proceeds action = true)
      (fun state => state.destructor = .destroyed) s) : Told s := by
  by_contra untold
  have running : s.destructor ≠ .destroyed := by
    intro gone
    exact untold (.inl ((reached_thread_over reached).joined gone))
  refine not_inevitable_of_trap (Trapped setting) _ ?_ ?_ ⟨reached, untold, running⟩ returns
  · exact fun _ trapped => trapped.running
  · exact fun _ trapped => trapped_stays trapped

/-- With no further call of the user and no new connection the destructor returns
under every schedule exactly if `mosquitto_disconnect_v5` has been called for the
instance, or the destructor has passed its test and is about to call it. Its test
alone does not make sure of it. -/
theorem returns_iff_told {setting : Setting} {s : State}
    (reached : Reached (system setting) s) :
    Inevitable (system setting) (fun _ action => proceeds action = true)
      (fun state => state.destructor = .destroyed) s ↔
    s.disconnectCalled = true ∨ s.destructor = .disconnect := by
  constructor
  · intro returns
    obtain ended | told := told_of_returns reached returns
    · exact .inl (called_of_ended reached ended)
    · exact told
  · intro told
    exact returns_of_told ⟨reached, .inr told⟩

/-- A connected client is destroyed. -/
def connectedDestructionSchedule : List Action :=
  [.connectAsync 0, .accepted, .callback, .callback, .destructor 0]

theorem connected_destruction_may_hang :
    ∃ s, execute (system {}) {} connectedDestructionSchedule = some s ∧ s.connected = true ∧
      ¬ Inevitable (system {}) (fun _ action => proceeds action = true)
        (fun state => state.destructor = .destroyed) s := by
  refine ⟨_, rfl, rfl, ?_⟩
  rw [returns_iff_told (reached_of_execute connectedDestructionSchedule (.start rfl) rfl)]
  decide

end IMqtt.Mosquitto.Destruction
