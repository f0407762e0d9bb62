import IMqtt.Mosquitto.Connection

/-!
# The network thread over the life of a client

The constructor starts the thread and nothing starts it again. The destructor
waits for it, and a connection attempt needs it; both depend on the order in
which `mosquitto_disconnect_v5` and `mosquitto_connect_async` were called.
-/

namespace IMqtt.Mosquitto.Connection

open LabelledSteps

set_option autoImplicit false

/-- In front of `mosquitto_loop_stop` the thread has ended or has been told to
stop since the last `ConnectAsync`. -/
def StopAnswered (s : State) : Prop :=
  s.destructor = .loopStop → s.netThread = false ∨ s.disconnectSinceConnect = true

/-- The destructor tests the flag when it is set, or else when the thread has
ended or was told to stop since the last `ConnectAsync`; and nobody calls
`ConnectAsync` when the destructor stands at `mosquitto_loop_stop`, unless the
thread has ended. A call in front of the destructor's own `DisconnectAsync` does
no harm. -/
def TestsInTime (s : State) : Action → Prop
  | .destructor _ => s.destructor = .test → s.connected = false →
      s.netThread = false ∨ s.disconnectSinceConnect = true
  | .connectAsync _ => s.destructor = .loopStop → s.netThread = false
  | _ => True

theorem stop_answered_step {setting : Setting} {s after : State} {action : Action}
    (transition : Transition setting s action after) (allowed : TestsInTime s action)
    (answered : StopAnswered s) : StopAnswered after := by
  cases transition with
  | connectAsync _ =>
      intro here
      exact .inl (allowed here)
  | disconnectAsync _ => exact fun _ => .inr rfl
  | disconnect _ => exact fun _ => .inr rfl
  | testUnlinked here flag => exact fun _ => allowed here flag
  | threadEnd _ _ _ => exact fun _ => .inl rfl
  | enter _ | testLinked _ _ | loopStop _ | stopped _ _ =>
      intro here
      cases here
  | accepted _ _ _ | refused _ _ _ _ | ended _ _ | onConnectCb _ | onDisconnectCb _
  | notify _ => exact answered

theorem late_step_unanswered {setting : Setting} {s after : State} {action : Action}
    (taken : step setting s action = some after) (late : ¬ TestsInTime s action) :
    ¬ StopAnswered after := by
  intro answered
  apply late
  cases step_transition taken with
  | connectAsync _ =>
      intro here
      -- the request, if any, was made before this `ConnectAsync`
      exact (answered here).resolve_right Bool.false_ne_true
  | testUnlinked _ _ => exact fun _ _ => answered rfl
  | testLinked _ flag =>
      intro _ unset
      rw [flag] at unset
      cases unset
  | enter here | disconnect here | loopStop here | stopped here _ =>
      intro test
      rw [here] at test
      cases test
  | disconnectAsync _ | accepted _ _ _ | refused _ _ _ _ | ended _ _ | onConnectCb _
  | onDisconnectCb _ | notify _ | threadEnd _ _ _ => trivial

/-- In a run in which the flag is always tested in time the destructor only
waits for a thread that was told to stop; a late step makes it wait for one
that was not. -/
theorem destructor_waits_for_stopped_thread {setting : Setting} :
    (∀ s, ReachedUnder (system setting) TestsInTime s → StopAnswered s) ∧
      ∀ s after action, Reached (system setting) s → step setting s action = some after →
        ¬ TestsInTime s action → ¬ StopAnswered after := by
  constructor
  · intro s reached
    apply invariant_of_step StopAnswered _ _ reached
    · intro state start
      have begins : state = {} := start
      rw [begins]
      intro here
      cases here
    · intro state action after _ answered allowed taken
      exact stop_answered_step (step_transition taken) allowed answered
  · intro s after action _ taken late
    exact late_step_unanswered taken late

instance (s : State) : ∀ action, Decidable (TestsInTime s action)
  | .destructor _ => inferInstanceAs (Decidable (s.destructor = .test → s.connected = false →
      s.netThread = false ∨ s.disconnectSinceConnect = true))
  | .connectAsync _ =>
      inferInstanceAs (Decidable (s.destructor = .loopStop → s.netThread = false))
  | .disconnectAsync _ | .accepted | .refused _ | .ended _ | .callback | .threadEnd =>
      .isTrue trivial

def connectedSchedule : List Action :=
  [.connectAsync 0, .accepted, .callback, .callback, .destructor 0, .destructor 0,
    .destructor 0]

theorem connected_client_stops_thread :
    ∃ s, execute (system {}) {} connectedSchedule = some s ∧
      s.destructor = .loopStop ∧ StopAnswered s :=
  ⟨_, rfl, rfl, destructor_waits_for_stopped_thread.1 _
    (reached_under_of_execute connectedSchedule (.start rfl) (by decide) rfl)⟩

/-- A client that was never connected. -/
theorem unconnected_client_never_stops_thread :
    ∃ s, execute (system {}) {} [.destructor 0, .destructor 0] = some s ∧
      s.destructor = .loopStop ∧ s.netThread = true ∧ s.disconnectCalled = false ∧
      ¬ StopAnswered s := by
  refine ⟨_, rfl, rfl, rfl, rfl, ?_⟩
  intro answered
  rcases answered rfl with ended | requested
  · cases ended
  · cases requested

/-! Connecting again. -/

/-- A connection attempt that stands has a network thread to carry it out. -/
def AttemptCarried (s : State) : Prop := s.connectStands = true → s.netThread = true

/-- `ConnectAsync` succeeds only as long as `mosquitto_disconnect_v5` has not
been called for the instance. -/
def ConnectsBeforeDisconnect (s : State) : Action → Prop
  | .connectAsync rc => rc = mosqErrSuccess → s.disconnectCalled = false
  | _ => True

/-- The thread ends only after a disconnect, and an attempt that stands was
made before every disconnect. -/
structure BeforeDisconnect (s : State) : Prop where
  thread : s.netThread = false → s.disconnectCalled = true
  attempt : s.connectStands = true → s.disconnectCalled = false

theorem connect_async_stands {setting : Setting} {rc : Int} {s : State}
    (stands : (connectAsync setting rc s).2.connectStands = true) :
    s.connectStands = true ∨ rc = mosqErrSuccess := by
  simp only [connectAsync, Bool.or_eq_true, decide_eq_true_eq] at stands
  rcases stands with earlier | okay
  · exact .inl earlier
  · exact .inr ((mosq_rc_okay_iff _ _ _).mp okay)

theorem before_disconnect_step {setting : Setting} {s after : State} {action : Action}
    (transition : Transition setting s action after)
    (allowed : ConnectsBeforeDisconnect s action) (before : BeforeDisconnect s) :
    BeforeDisconnect after := by
  cases transition with
  | connectAsync _ =>
      constructor
      · exact before.thread
      · intro stands
        rcases connect_async_stands stands with earlier | okay
        · exact before.attempt earlier
        · exact allowed okay
  | disconnectAsync _ | disconnect _ =>
      constructor
      · exact fun _ => rfl
      · intro stands
        cases stands
  | threadEnd _ _ requested =>
      constructor
      · exact fun _ => requested
      · exact before.attempt
  | accepted _ _ _ | refused _ _ _ _ | ended _ _ | onConnectCb _ | onDisconnectCb _
  | notify _ | enter _ | testLinked _ _ | testUnlinked _ _ | loopStop _ | stopped _ _ =>
      exact ⟨before.thread, before.attempt⟩

theorem attempt_carried_of_before_disconnect {s : State} (before : BeforeDisconnect s) :
    AttemptCarried s := by
  intro stands
  cases running : s.netThread with
  | true => rfl
  | false =>
      have called := before.thread running
      rw [before.attempt stands] at called
      cases called

/-- The network thread gets to the end of the callback it is in, with the rest
of its situation as it was. -/
structure CallbackOver (s after : State) : Prop where
  idle : after.callback = .idle
  netThread : after.netThread = s.netThread
  link : after.link = s.link
  disconnectCalled : after.disconnectCalled = s.disconnectCalled
  connectStands : after.connectStands = s.connectStands

theorem runs_callback (setting : Setting) {s : State} {callback : Callback}
    (here : s.callback = callback) :
    (system setting).step s .callback = callbackStep { s with callback := callback } := by
  rw [← here]
  rfl

theorem callback_over (setting : Setting) (s : State) :
    ∃ labels after, execute (system setting) s labels = some after ∧ CallbackOver s after := by
  cases here : s.callback with
  | idle => exact ⟨[], s, rfl, here, rfl, rfl, rfl, rfl⟩
  | notifyConnect mqttRc =>
      refine ⟨[.callback], notify .connect mqttRc s, ?_, rfl, rfl, rfl, rfl, rfl⟩
      rw [execute_cons, runs_callback setting here]
      rfl
  | notifyDisconnect mqttRc =>
      refine ⟨[.callback], notify .disconnect mqttRc s, ?_, rfl, rfl, rfl, rfl, rfl⟩
      rw [execute_cons, runs_callback setting here]
      rfl
  | onConnectCb mqttRc =>
      refine ⟨[.callback, .callback], notify .connect mqttRc (onConnectCb mqttRc s), ?_,
        rfl, rfl, rfl, rfl, rfl⟩
      rw [execute_cons, runs_callback setting here]
      rfl
  | onDisconnectCb mqttRc =>
      refine ⟨[.callback, .callback], notify .disconnect mqttRc (onDisconnectCb mqttRc s), ?_,
        rfl, rfl, rfl, rfl, rfl⟩
      rw [execute_cons, runs_callback setting here]
      rfl

/-- A lost link takes the network thread through `onDisconnectCb`, after which
it is between two callbacks without a link. -/
theorem link_over (setting : Setting) {s : State} (running : s.netThread = true) :
    ∃ labels after, execute (system setting) s labels = some after ∧
      after.between ∧ after.link = false ∧
      after.disconnectCalled = s.disconnectCalled ∧ after.connectStands = s.connectStands := by
  rcases callback_over setting s with ⟨first, middle, ran, first_over⟩
  have between : middle.between := ⟨first_over.netThread.trans running, first_over.idle⟩
  cases link : middle.link with
  | false =>
      exact ⟨first, middle, ran, between, link, first_over.disconnectCalled,
        first_over.connectStands⟩
  | true =>
      have cut : execute (system setting) middle [.ended success] =
          some { middle with link := false, callback := .onDisconnectCb success } := by
        rw [execute_cons]
        simp only [system, step, between, link, and_self, if_true, Option.bind_some]
        rfl
      rcases callback_over setting
        { middle with link := false, callback := .onDisconnectCb success } with
        ⟨second, after, second_ran, second_over⟩
      have still : after.netThread = true := second_over.netThread.trans between.1
      have whole : execute (system setting) s (first ++ ([.ended success] ++ second)) =
          some after := execute_append first ran (execute_append _ cut second_ran)
      exact ⟨_, after, whole, ⟨still, second_over.idle⟩, second_over.link,
        second_over.disconnectCalled.trans first_over.disconnectCalled,
        second_over.connectStands.trans first_over.connectStands⟩

/-- Once a disconnect has been called the network thread may end, whatever it
is doing, without another user call. -/
theorem thread_may_end (setting : Setting) {s : State} (called : s.disconnectCalled = true) :
    ∃ labels after, execute (system setting) s labels = some after ∧
      after.netThread = false ∧ after.connectStands = s.connectStands := by
  cases running : s.netThread with
  | false => exact ⟨[], s, rfl, running, rfl⟩
  | true =>
      rcases link_over setting running with ⟨labels, after, ran, between, down, same, stands⟩
      have requested : after.disconnectCalled = true := same.trans called
      have ends : execute (system setting) after [.threadEnd] =
          some { after with netThread := false } := by
        rw [execute_cons]
        simp only [system, step, between, down, requested, and_self, if_true, Option.bind_some]
        rfl
      exact ⟨labels ++ [.threadEnd], { after with netThread := false },
        execute_append labels ran ends, rfl, stands⟩

/-- A `ConnectAsync` that succeeds after a disconnect stands, and nothing it
does keeps the thread. -/
theorem late_connect_uncarried {setting : Setting} {s after : State} {action : Action}
    (taken : step setting s action = some after)
    (late : ¬ ConnectsBeforeDisconnect s action) :
    ∃ labels later, execute (system setting) after labels = some later ∧
      ¬ AttemptCarried later := by
  cases step_transition taken with
  | @connectAsync rc _ =>
      have okay : rc = mosqErrSuccess ∧ s.disconnectCalled = true := by
        simpa only [ConnectsBeforeDisconnect, Classical.not_imp, Bool.not_eq_false] using late
      have stands : (connectAsync setting rc s).2.connectStands = true := by
        simp only [connectAsync, Bool.or_eq_true, decide_eq_true_eq]
        exact .inr ((mosq_rc_okay_iff _ _ _).mpr okay.1)
      have called : (connectAsync setting rc s).2.disconnectCalled = true := okay.2
      rcases thread_may_end setting called with ⟨labels, later, ran, ended, same⟩
      refine ⟨labels, later, ran, ?_⟩
      intro carried
      have running := carried (same.trans stands)
      rw [ended] at running
      cases running
  | disconnectAsync _ | accepted _ _ _ | refused _ _ _ _ | ended _ _ | onConnectCb _
  | onDisconnectCb _ | notify _ | threadEnd _ _ _ | enter _ | testLinked _ _
  | testUnlinked _ _ | disconnect _ | loopStop _ | stopped _ _ => exact absurd trivial late

/-- In a run in which every successful `ConnectAsync` comes before the first
disconnect, an attempt that stands always has its thread; after a later one
events of the library alone can leave it without one. -/
theorem standing_attempt_has_thread {setting : Setting} :
    (∀ s, ReachedUnder (system setting) ConnectsBeforeDisconnect s → AttemptCarried s) ∧
      ∀ s after action, Reached (system setting) s → step setting s action = some after →
        ¬ ConnectsBeforeDisconnect s action →
        ∃ labels later, execute (system setting) after labels = some later ∧
          ¬ AttemptCarried later := by
  constructor
  · intro s reached
    apply attempt_carried_of_before_disconnect
    apply invariant_of_step BeforeDisconnect _ _ reached
    · intro state start
      have begins : state = {} := start
      rw [begins]
      constructor
      · intro ended
        cases ended
      · intro stands
        cases stands
    · intro state action after _ before allowed taken
      exact before_disconnect_step (step_transition taken) allowed before
  · intro s after action _ taken late
    exact late_connect_uncarried taken late

instance (s : State) : ∀ action, Decidable (ConnectsBeforeDisconnect s action)
  | .connectAsync rc =>
      inferInstanceAs (Decidable (rc = mosqErrSuccess → s.disconnectCalled = false))
  | .disconnectAsync _ | .accepted | .refused _ | .ended _ | .callback | .threadEnd
  | .destructor _ => .isTrue trivial

/-- Two attempts, the first refused and the second accepted. -/
def retriedSchedule : List Action :=
  [.connectAsync 0, .refused 135, .callback, .callback, .connectAsync 0, .accepted]

theorem retried_attempt_has_thread :
    ∃ s, execute (system {}) {} retriedSchedule = some s ∧
      s.connectStands = true ∧ AttemptCarried s :=
  ⟨_, rfl, rfl, standing_attempt_has_thread.1 _
    (reached_under_of_execute retriedSchedule (.start rfl) (by decide) rfl)⟩

/-- Connected, disconnected by the user, and connected again once the thread
has ended. -/
def reconnectSchedule : List Action :=
  [.connectAsync 0, .accepted, .callback, .callback, .disconnectAsync 0, .ended 0, .callback,
    .callback, .threadEnd, .connectAsync 0]

theorem reconnected_client_has_no_thread :
    ∃ s, execute (system {}) {} reconnectSchedule = some s ∧
      s.connectStands = true ∧ s.netThread = false ∧ ¬ AttemptCarried s := by
  refine ⟨_, rfl, rfl, rfl, ?_⟩
  intro carried
  cases carried rfl

end IMqtt.Mosquitto.Connection
