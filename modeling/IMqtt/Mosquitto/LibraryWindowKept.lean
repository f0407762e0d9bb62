import IMqtt.Mosquitto.LibraryWindow

/-!
# The library is used inside its window only

The counter is the number of clients between their `fetch_add` and their
`fetch_sub`, those whose constructor threw included. The window is open exactly
when there is such a client, but for the one that is about to open or close it.
-/

namespace IMqtt.Mosquitto.LibraryWindow

open LabelledSteps UsageWindow

set_option autoImplicit false

universe u

variable {Client : Type u} [DecidableEq Client]

/-- Inside the scope of a `lock_guard` on `libMutex`. -/
def Phase.inside : Phase → Bool
  | .fetchAdd | .libInit | .libVersion | .unlockInit | .fetchSub | .libCleanup
  | .unlockCleanup => true
  | _ => false

/-- Behind `fetch_add` and not behind `fetch_sub`. -/
def Phase.counted : Phase → Bool
  | .libInit | .libVersion | .unlockInit | .constructing | .threw | .alive | .destructing
  | .lockCleanup | .fetchSub => true
  | _ => false

/-- About to call `mosquitto_lib_init` or `mosquitto_lib_cleanup`. -/
def Phase.switching : Phase → Bool
  | .libInit | .libCleanup => true
  | _ => false

/-- Has left its library block and has not finished `mosquitto_destroy`. -/
def Phase.usable : Phase → Bool
  | .constructing | .threw | .alive | .destructing => true
  | _ => false

theorem counted_of_usable {phase : Phase} (usable : phase.usable = true) :
    phase.counted = true ∧ phase.switching = false := by
  cases phase <;> first | exact ⟨rfl, rfl⟩ | cases usable

theorem usable_of_calls {phase : Phase} (calls : phase.callsInstance = true) :
    phase.usable = true := by
  cases phase <;> first | rfl | cases calls

theorem inside_of_switching {phase : Phase} (switching : phase.switching = true) :
    phase.inside = true := by
  cases phase <;> first | rfl | cases switching

def Exclusive (s : State Client) : Prop :=
  MutexDiscipline.Exclusive s.libMutex fun client => (s.phase client).inside = true

theorem update_phase (s : State Client) (client : Client)
    (phase : Phase) (other : Client) :
    (s.go client phase).phase other = if other = client then phase else s.phase other := by
  rw [State.go]
  exact Function.update_apply s.phase client phase other

theorem exclusive_move {s : State Client} {client : Client} {phase : Phase}
    (held : Exclusive s) (same : phase.inside = (s.phase client).inside) :
    Exclusive (s.go client phase) := by
  apply MutexDiscipline.exclusive_frame held
  intro other
  rw [update_phase]
  by_cases own : other = client
  · rw [if_pos own, own, same]
  · rw [if_neg own]

theorem exclusive_lock {s : State Client} {client : Client} {phase : Phase}
    (held : Exclusive s) (free : s.libMutex = none) (enters : phase.inside = true) :
    Exclusive { s.go client phase with libMutex := some client } := by
  apply MutexDiscipline.exclusive_acquire held free
  intro other
  have moved := update_phase s client phase other
  simp only at moved ⊢
  rw [moved]
  by_cases own : other = client
  · rw [if_pos own]
    exact iff_of_true enters (.inl own)
  · rw [if_neg own]
    exact (or_iff_right own).symm

theorem exclusive_unlock {s : State Client} {client : Client} {phase : Phase}
    (held : Exclusive s) (was : (s.phase client).inside = true)
    (leaves : phase.inside = false) : Exclusive (unlock s client phase) := by
  apply MutexDiscipline.exclusive_release held client was
  intro other
  have moved := update_phase s client phase other
  rw [unlock]
  simp only at moved ⊢
  rw [moved]
  by_cases own : other = client
  · rw [if_pos own, leaves]
    exact iff_of_false Bool.false_ne_true fun both => both.2 own
  · rw [if_neg own]
    exact (and_iff_left own).symm

theorem exclusive_step {s after : State Client} {action : Action Client}
    (transition : Transition s action after) (held : Exclusive s) : Exclusive after := by
  cases transition with
  | lockInit here free => exact exclusive_lock held free rfl
  | lockCleanup here free => exact exclusive_lock held free rfl
  | unlockInit here => exact exclusive_unlock held (by rw [here]; rfl) rfl
  | unlockCleanup here => exact exclusive_unlock held (by rw [here]; rfl) rfl
  | instanceCall here => exact held
  | construct here | addFirst here _ | addFurther here _ | libInit here | libVersion here
  | subLast here _ | subFurther here _ | libCleanup here | constructed here | throw here
  | destruct here | mosquittoDestroy here =>
      exact exclusive_move held (by rw [here]; rfl)

theorem reached_exclusive {allowed : State Client → Action Client → Prop}
    {s : State Client} (reached : ReachedUnder (system Client) allowed s) :
    Exclusive s := by
  apply invariant_of_step Exclusive _ _ reached
  · intro state start
    have begins : state = initial := start
    rw [begins]
    intro party
    simp [initial, Phase.inside]
  · intro state action after _ held _ taken
    exact exclusive_step (step_transition taken) held

section Tally

variable {constructors : Finset Client} {phases : Client → Phase} {counter : UInt32}
  {client : Client} {phase : Phase}

def counted (constructors : Finset Client) (phases : Client → Phase) : Finset Client :=
  Census.census constructors fun client => (phases client).counted

omit [DecidableEq Client] in
theorem not_mem_counted (here : (phases client).counted = false) :
    client ∉ counted constructors phases := by
  intro member
  rw [(Census.mem_census.mp member).2] at here
  cases here

theorem counted_move (same : phase.counted = (phases client).counted) :
    counted constructors (Function.update phases client phase) =
      counted constructors phases := by
  apply Census.census_frame
  intro other
  rw [Function.update_apply]
  by_cases own : other = client
  · rw [if_pos own, own, same]
  · rw [if_neg own]

theorem counted_construct (here : phases client = .absent) :
    counted (insert client constructors) (Function.update phases client .lockInit) =
      counted constructors phases := by
  rw [counted_move (by rw [here]; rfl)]
  exact Census.census_join (by rw [here]; rfl)

theorem counted_enter (entered : client ∈ constructors) (enters : phase.counted = true) :
    counted constructors (Function.update phases client phase) =
      insert client (counted constructors phases) := by
  apply Census.census_enter entered
  · rw [Function.update_self]
    exact enters
  · intro other different
    rw [Function.update_of_ne different]

theorem counted_leave (leaves : phase.counted = false) :
    counted constructors (Function.update phases client phase) =
      (counted constructors phases).erase client := by
  apply Census.census_leave
  · rw [Function.update_self]
    exact leaves
  · intro other different
    rw [Function.update_of_ne different]

/-- The counter is the number of counted clients and does not wrap around. -/
structure Tally (constructors : Finset Client) (phases : Client → Phase)
    (counter : UInt32) : Prop where
  entered : ∀ client, phases client ≠ .absent → client ∈ constructors
  few : constructors.card < 2 ^ 32
  counter : counter.toNat = (counted constructors phases).card

omit [DecidableEq Client] in
theorem mem_counted (tally : Tally constructors phases counter)
    (here : (phases client).counted = true) : client ∈ counted constructors phases := by
  apply Census.mem_census.mpr
  constructor
  · apply tally.entered
    intro absent
    rw [absent] at here
    cases here
  · exact here

theorem entered_update (tally : Tally constructors phases counter)
    (here : phases client ≠ .absent) :
    ∀ other, Function.update phases client phase other ≠ .absent →
      other ∈ constructors := by
  intro other present
  by_cases own : other = client
  · rw [own]
    exact tally.entered client here
  · rw [Function.update_of_ne own] at present
    exact tally.entered other present

theorem tally_move (tally : Tally constructors phases counter)
    (here : phases client ≠ .absent) (same : phase.counted = (phases client).counted) :
    Tally constructors (Function.update phases client phase) counter := by
  constructor
  · exact entered_update tally here
  · exact tally.few
  · rw [counted_move same]
    exact tally.counter

theorem tally_construct (tally : Tally constructors phases counter)
    (here : phases client = .absent) (room : constructors.card + 1 < 2 ^ 32) :
    Tally (insert client constructors) (Function.update phases client .lockInit)
      counter := by
  constructor
  · intro other present
    by_cases own : other = client
    · rw [own]
      exact Finset.mem_insert_self client constructors
    · rw [Function.update_of_ne own] at present
      exact Finset.mem_insert_of_mem (tally.entered other present)
  · exact Nat.lt_of_le_of_lt (Finset.card_insert_le client constructors) room
  · rw [counted_construct here]
    exact tally.counter

theorem tally_add (tally : Tally constructors phases counter)
    (here : phases client = .fetchAdd) (enters : phase.counted = true) :
    Tally constructors (Function.update phases client phase) (counter + 1) := by
  have present : phases client ≠ .absent := by simp [here]
  have outside : client ∉ counted constructors phases :=
    not_mem_counted (by rw [here]; rfl)
  have grows : (counted constructors (Function.update phases client phase)).card =
      (counted constructors phases).card + 1 := by
    rw [counted_enter (tally.entered client present) enters,
      Finset.card_insert_of_notMem outside]
  have bound : (counted constructors (Function.update phases client phase)).card ≤
      constructors.card := Finset.card_filter_le _ _
  constructor
  · exact entered_update tally present
  · exact tally.few
  · have few := tally.few
    rw [grows] at bound ⊢
    rw [UInt32.toNat_add, tally.counter]
    exact Nat.mod_eq_of_lt (Nat.lt_of_le_of_lt bound few)

theorem tally_sub (tally : Tally constructors phases counter)
    (here : phases client = .fetchSub) (leaves : phase.counted = false) :
    Tally constructors (Function.update phases client phase) (counter - 1) := by
  have present : phases client ≠ .absent := by simp [here]
  have inside : client ∈ counted constructors phases :=
    mem_counted tally (by rw [here]; rfl)
  have positive : 0 < (counted constructors phases).card :=
    Finset.card_pos.mpr ⟨client, inside⟩
  constructor
  · exact entered_update tally present
  · exact tally.few
  · rw [counted_leave leaves, Finset.card_erase_of_mem inside, ← tally.counter]
    apply UInt32.toNat_sub_of_le
    rw [UInt32.le_iff_toNat_le, tally.counter]
    exact positive

end Tally

theorem tally_step {s after : State Client} {action : Action Client}
    (transition : Transition s action after) (allowed : FewConstructors s action)
    (tally : Tally s.constructors s.phase s.counter) :
    Tally after.constructors after.phase after.counter := by
  cases transition with
  | construct here => exact tally_construct tally here (allowed rfl)
  | addFirst here _ => exact tally_add tally here rfl
  | addFurther here _ => exact tally_add tally here rfl
  | subLast here _ => exact tally_sub tally here rfl
  | subFurther here _ => exact tally_sub tally here rfl
  | instanceCall here => exact tally
  | lockInit here _ | libInit here | libVersion here | unlockInit here | lockCleanup here _
  | libCleanup here | unlockCleanup here | constructed here | throw here
  | destruct here | mosquittoDestroy here =>
      exact tally_move tally (fun absent => by rw [here] at absent; cases absent)
        (by rw [here]; rfl)

theorem reached_tally {s : State Client}
    (reached : ReachedUnder (system Client) FewConstructors s) :
    Tally s.constructors s.phase s.counter := by
  apply invariant_of_step
    (fun s : State Client => Tally s.constructors s.phase s.counter) _ _ reached
  · intro state start
    have begins : state = initial := start
    rw [begins]
    exact ⟨fun _ present => absurd rfl present, by simp [initial], rfl⟩
  · intro state action after _ tally allowed taken
    exact tally_step (step_transition taken) allowed tally

/-- The window is open exactly when a client is counted, but for the client
that is about to switch it. -/
structure WindowKept (present : Finset Client) (phases : Client → Phase)
    (calls : List (Event Client)) : Prop where
  settled : (∀ client, (phases client).switching = false) →
    scan false calls = some (decide present.Nonempty)
  opening : ∀ client, phases client = .libInit →
    present = {client} ∧ scan false calls = some false
  closing : ∀ client, phases client = .libCleanup →
    present = ∅ ∧ scan false calls = some true

section Window

variable {present : Finset Client} {phases : Client → Phase}
  {calls : List (Event Client)} {client : Client} {phase : Phase}

omit [DecidableEq Client] in
theorem window_of_quiet (quiet : ∀ client, (phases client).switching = false)
    (scanned : scan false calls = some (decide present.Nonempty)) :
    WindowKept present phases calls := by
  constructor
  · intro _
    exact scanned
  · intro client here
    have still := quiet client
    rw [here] at still
    cases still
  · intro client here
    have still := quiet client
    rw [here] at still
    cases still

theorem quiet_update (quiet : ∀ other, other ≠ client → (phases other).switching = false)
    (still : phase.switching = false) :
    ∀ other, (Function.update phases client phase other).switching = false := by
  intro other
  by_cases own : other = client
  · rw [own, Function.update_self]
    exact still
  · rw [Function.update_of_ne own]
    exact quiet other own

omit [DecidableEq Client] in
/-- A counted client that is not switching the window itself finds it open. -/
theorem quiet_of_counted (kept : WindowKept present phases calls)
    (member : client ∈ present) (still : (phases client).switching = false) :
    ∀ other, (phases other).switching = false := by
  intro other
  cases here : phases other with
  | libInit =>
      have alone := (kept.opening other here).1
      rw [alone, Finset.mem_singleton] at member
      rw [member, here] at still
      cases still
  | libCleanup =>
      have nobody := (kept.closing other here).1
      rw [nobody] at member
      exact absurd member (Finset.notMem_empty client)
  | _ => rfl

omit [DecidableEq Client] in
theorem open_of_counted (kept : WindowKept present phases calls)
    (member : client ∈ present) (still : (phases client).switching = false) :
    scan false calls = some true := by
  have scanned := kept.settled (quiet_of_counted kept member still)
  rw [scanned, decide_eq_true ⟨client, member⟩]

/-- A move of a client that switches the window neither before nor after it. -/
theorem window_move (kept : WindowKept present phases calls)
    (was : (phases client).switching = false) (still : phase.switching = false) :
    WindowKept present (Function.update phases client phase) calls := by
  constructor
  · intro quiet
    apply kept.settled
    intro other
    by_cases own : other = client
    · rw [own]
      exact was
    · have same := quiet other
      rw [Function.update_of_ne own] at same
      exact same
  · intro other here
    by_cases own : other = client
    · rw [own, Function.update_self] at here
      rw [here] at still
      cases still
    · rw [Function.update_of_ne own] at here
      exact kept.opening other here
  · intro other here
    by_cases own : other = client
    · rw [own, Function.update_self] at here
      rw [here] at still
      cases still
    · rw [Function.update_of_ne own] at here
      exact kept.closing other here

/-- The one client behind its `fetch_add` is about to open the window. -/
theorem window_before_init
    (quiet : ∀ other, other ≠ client → (phases other).switching = false)
    (scanned : scan false calls = some false) :
    WindowKept {client} (Function.update phases client .libInit) calls := by
  constructor
  · intro settled
    have moving := settled client
    rw [Function.update_self] at moving
    cases moving
  · intro other here
    by_cases own : other = client
    · rw [own]
      exact ⟨rfl, scanned⟩
    · rw [Function.update_of_ne own] at here
      have still := quiet other own
      rw [here] at still
      cases still
  · intro other here
    by_cases own : other = client
    · rw [own, Function.update_self] at here
      cases here
    · rw [Function.update_of_ne own] at here
      have still := quiet other own
      rw [here] at still
      cases still

/-- The last client behind its `fetch_sub` is about to close the window. -/
theorem window_before_cleanup
    (quiet : ∀ other, other ≠ client → (phases other).switching = false)
    (scanned : scan false calls = some true) :
    WindowKept ∅ (Function.update phases client .libCleanup) calls := by
  constructor
  · intro settled
    have moving := settled client
    rw [Function.update_self] at moving
    cases moving
  · intro other here
    by_cases own : other = client
    · rw [own, Function.update_self] at here
      cases here
    · rw [Function.update_of_ne own] at here
      have still := quiet other own
      rw [here] at still
      cases still
  · intro _ _
    exact ⟨rfl, scanned⟩

end Window

omit [DecidableEq Client] in
/-- While a client is inside the mutex, no other one switches the window. -/
theorem others_quiet {s : State Client} (client : Client) (held : Exclusive s)
    (here : (s.phase client).inside = true) :
    ∀ other, other ≠ client → (s.phase other).switching = false := by
  intro other different
  cases switching : (s.phase other).switching with
  | false => rfl
  | true =>
      have same := MutexDiscipline.inside_unique held other client
        (inside_of_switching switching) here
      exact absurd same different

omit [DecidableEq Client] in
theorem all_quiet {s : State Client} (client : Client) (held : Exclusive s)
    (here : (s.phase client).inside = true)
    (still : (s.phase client).switching = false) :
    ∀ other, (s.phase other).switching = false := by
  intro other
  rcases Classical.em (other = client) with own | own
  · rw [own]
    exact still
  · exact others_quiet client held here other own

section Steps

variable {s : State Client} {client : Client}

abbrev Kept (s : State Client) : Prop :=
  WindowKept (counted s.constructors s.phase) s.phase s.calls

theorem kept_move {phase : Phase} (kept : Kept s)
    (same : phase.counted = (s.phase client).counted)
    (was : (s.phase client).switching = false) (still : phase.switching = false) :
    Kept (s.go client phase) := by
  have stays : counted s.constructors (Function.update s.phase client phase) =
      counted s.constructors s.phase := counted_move same
  have moved := window_move kept was still
  rw [← stays] at moved
  exact moved

theorem kept_construct (kept : Kept s) (here : s.phase client = .absent) :
    Kept { s.go client .lockInit with constructors := insert client s.constructors } := by
  have stays : counted (insert client s.constructors)
      (Function.update s.phase client .lockInit) = counted s.constructors s.phase :=
    counted_construct here
  have moved : WindowKept (counted s.constructors s.phase)
      (Function.update s.phase client .lockInit) s.calls :=
    window_move kept (by rw [here]; rfl) rfl
  rw [← stays] at moved
  exact moved

theorem kept_add_first (held : Exclusive s)
    (tally : Tally s.constructors s.phase s.counter) (kept : Kept s)
    (here : s.phase client = .fetchAdd) (first : s.counter = 0) :
    Kept { s.go client .libInit with counter := s.counter + 1 } := by
  have empty : counted s.constructors s.phase = ∅ := by
    rw [← Finset.card_eq_zero, ← tally.counter, first]
    rfl
  have scanned := kept.settled (all_quiet client held (by rw [here]; rfl) (by rw [here]; rfl))
  rw [empty] at scanned
  have entered := tally.entered client (by simp [here])
  have alone : counted s.constructors (Function.update s.phase client .libInit) =
      {client} := by
    rw [counted_enter entered rfl, empty]
    rfl
  have opening := window_before_init (others_quiet client held (by rw [here]; rfl)) scanned
  rw [← alone] at opening
  exact opening

theorem kept_add_further (held : Exclusive s)
    (tally : Tally s.constructors s.phase s.counter) (kept : Kept s)
    (here : s.phase client = .fetchAdd) (further : s.counter ≠ 0) :
    Kept { s.go client .unlockInit with counter := s.counter + 1 } := by
  have quiet := all_quiet client held (by rw [here]; rfl) (by rw [here]; rfl)
  have scanned := kept.settled quiet
  have filled : (counted s.constructors s.phase).Nonempty := by
    rw [← Finset.card_pos, ← tally.counter, Nat.pos_iff_ne_zero]
    intro zero
    exact further (UInt32.toNat_inj.mp zero)
  rw [decide_eq_true filled] at scanned
  have entered := tally.entered client (by simp [here])
  have grows : (counted s.constructors
      (Function.update s.phase client .unlockInit)).Nonempty := by
    rw [counted_enter entered rfl]
    exact Finset.insert_nonempty client _
  apply window_of_quiet (quiet_update (fun other _ => quiet other) rfl)
  rw [← decide_eq_true grows] at scanned
  exact scanned

theorem kept_lib_init (held : Exclusive s) (kept : Kept s)
    (here : s.phase client = .libInit) :
    Kept (called (s.go client .libVersion) .opened) := by
  have opening := kept.opening client here
  have stays : counted s.constructors (Function.update s.phase client .libVersion) =
      counted s.constructors s.phase := counted_move (by rw [here]; rfl)
  apply window_of_quiet
    (quiet_update (others_quiet client held (by rw [here]; rfl)) rfl)
  have filled : (counted s.constructors
      (Function.update s.phase client .libVersion)).Nonempty := by
    rw [stays, opening.1]
    exact Finset.singleton_nonempty client
  have scanned := scan_last opening.2 Event.opened
  exact scanned.trans (congrArg some (decide_eq_true filled).symm)

theorem kept_sub_last (held : Exclusive s)
    (tally : Tally s.constructors s.phase s.counter) (kept : Kept s)
    (here : s.phase client = .fetchSub) (last : s.counter = 1) :
    Kept { s.go client .libCleanup with counter := s.counter - 1 } := by
  have inside : client ∈ counted s.constructors s.phase :=
    mem_counted tally (by rw [here]; rfl)
  have scanned := open_of_counted kept inside (by rw [here]; rfl)
  have nobody : counted s.constructors (Function.update s.phase client .libCleanup) = ∅ := by
    rw [counted_leave rfl, ← Finset.card_eq_zero, Finset.card_erase_of_mem inside,
      ← tally.counter, last]
    rfl
  have closing :=
    window_before_cleanup (others_quiet client held (by rw [here]; rfl)) scanned
  rw [← nobody] at closing
  exact closing

theorem kept_sub_further (tally : Tally s.constructors s.phase s.counter) (kept : Kept s)
    (here : s.phase client = .fetchSub) (further : s.counter ≠ 1) :
    Kept { s.go client .unlockCleanup with counter := s.counter - 1 } := by
  have inside : client ∈ counted s.constructors s.phase :=
    mem_counted tally (by rw [here]; rfl)
  have quiet := quiet_of_counted kept inside (by rw [here]; rfl)
  have scanned := open_of_counted kept inside (by rw [here]; rfl)
  have positive := Finset.card_pos.mpr ⟨client, inside⟩
  have others : (counted s.constructors s.phase).card ≠ 1 := by
    rw [← tally.counter]
    intro one
    exact further (UInt32.toNat_inj.mp one)
  have filled : (counted s.constructors
      (Function.update s.phase client .unlockCleanup)).Nonempty := by
    rw [counted_leave rfl, ← Finset.card_pos, Finset.card_erase_of_mem inside]
    omega
  apply window_of_quiet (quiet_update (fun other _ => quiet other) rfl)
  rw [← decide_eq_true filled] at scanned
  exact scanned

theorem kept_lib_cleanup (held : Exclusive s) (kept : Kept s)
    (here : s.phase client = .libCleanup) :
    Kept (called (s.go client .unlockCleanup) .closed) := by
  have closing := kept.closing client here
  have stays : counted s.constructors (Function.update s.phase client .unlockCleanup) =
      counted s.constructors s.phase := counted_move (by rw [here]; rfl)
  apply window_of_quiet
    (quiet_update (others_quiet client held (by rw [here]; rfl)) rfl)
  have nobody : ¬ (counted s.constructors
      (Function.update s.phase client .unlockCleanup)).Nonempty := by
    rw [stays, closing.1]
    exact Finset.not_nonempty_empty
  have scanned := scan_last closing.2 Event.closed
  exact scanned.trans (congrArg some (decide_eq_false nobody).symm)

/-- A counted client finds the window open and its call leaves it so. -/
theorem kept_use {phase : Phase} (kept : Kept s)
    (inside : client ∈ counted s.constructors s.phase)
    (was : (s.phase client).switching = false)
    (same : phase.counted = (s.phase client).counted) (still : phase.switching = false) :
    Kept (called (s.go client phase) (.used client)) := by
  have quiet := quiet_of_counted kept inside was
  have stays : counted s.constructors (Function.update s.phase client phase) =
      counted s.constructors s.phase := counted_move same
  have filled : (counted s.constructors (Function.update s.phase client phase)).Nonempty := by
    rw [stays]
    exact ⟨client, inside⟩
  apply window_of_quiet (quiet_update (fun other _ => quiet other) still)
  have scanned := scan_last (open_of_counted kept inside was) (Event.used client)
  exact scanned.trans (congrArg some (decide_eq_true filled).symm)

end Steps

theorem kept_step {s after : State Client} {action : Action Client}
    (transition : Transition s action after) (held : Exclusive s)
    (tally : Tally s.constructors s.phase s.counter) (kept : Kept s) : Kept after := by
  cases transition with
  | construct here => exact kept_construct kept here
  | addFirst here first => exact kept_add_first held tally kept here first
  | addFurther here further => exact kept_add_further held tally kept here further
  | libInit here => exact kept_lib_init held kept here
  | subLast here last => exact kept_sub_last held tally kept here last
  | subFurther here further => exact kept_sub_further tally kept here further
  | libCleanup here => exact kept_lib_cleanup held kept here
  | libVersion here =>
      exact kept_use kept (mem_counted tally (by rw [here]; rfl)) (by rw [here]; rfl)
        (by rw [here]; rfl) rfl
  | mosquittoDestroy here =>
      exact kept_use kept (mem_counted tally (by rw [here]; rfl)) (by rw [here]; rfl)
        (by rw [here]; rfl) rfl
  | @instanceCall client here =>
      have usable := counted_of_usable (usable_of_calls here)
      have used := kept_use kept (mem_counted tally usable.1) usable.2 rfl usable.2
      rw [State.go, Function.update_eq_self] at used
      exact used
  | lockInit here _ | unlockInit here | lockCleanup here _ | unlockCleanup here
  | constructed here | throw here | destruct here =>
      exact kept_move kept (by rw [here]; rfl) (by rw [here]; rfl) rfl

theorem reached_kept {s : State Client}
    (reached : ReachedUnder (system Client) FewConstructors s) : Kept s := by
  apply invariant_of_step Kept _ _ reached
  · intro state start
    have begins : state = initial := start
    rw [begins]
    exact window_of_quiet (fun _ => rfl) rfl
  · intro state action after before kept _ taken
    exact kept_step (step_transition taken) (reached_exclusive before)
      (reached_tally before) kept

omit [DecidableEq Client] in
theorem scanned_some {s : State Client} (kept : Kept s) :
    ∃ isOpen, scan false s.calls = some isOpen := by
  by_cases quiet : ∀ client, (s.phase client).switching = false
  · exact ⟨_, kept.settled quiet⟩
  · rw [not_forall] at quiet
    rcases quiet with ⟨client, moving⟩
    cases here : s.phase client with
    | libInit => exact ⟨_, (kept.opening client here).2⟩
    | libCleanup => exact ⟨_, (kept.closing client here).2⟩
    | _ =>
        rw [here] at moving
        exact absurd rfl moving

/-- Initialisation and cleanup take turns, starting with an initialisation;
while a client may call an instance function the last of them was an
initialisation, and so it was at every such call. -/
theorem library_used_inside_window {s : State Client}
    (reached : ReachedUnder (system Client) FewConstructors s) :
    marks s.calls = alternating true (marks s.calls).length ∧
      (∀ client, (s.phase client).usable = true →
        (marks s.calls).getLast? = some true) ∧
      ∀ before client after, s.calls = before ++ .used client :: after →
        (marks before).getLast? = some true := by
  have kept := reached_kept reached
  have tally := reached_tally reached
  rcases scanned_some kept with ⟨isOpen, scanned⟩
  refine ⟨marks_alternate scanned, ?_, ?_⟩
  · intro client usable
    have inside := counted_of_usable usable
    exact last_mark_of_open (open_of_counted kept (mem_counted tally inside.1) inside.2)
  · intro before client after split
    rw [split] at scanned
    exact use_inside_window scanned

/-- A first client throws; a second one is built meanwhile, used and destroyed. -/
def leakingSchedule : List (Action Nat) :=
  [.construct 0, .advance 0, .advance 0, .construct 1, .advance 0, .advance 0, .advance 0,
    .instanceCall 0, .advance 1, .advance 1, .throw 0, .advance 1, .instanceCall 1,
    .constructed 1, .destruct 1, .mosquittoDestroy 1, .advance 1, .advance 1, .advance 1]

theorem leaked_increment_keeps_window_open :
    ∃ s, execute (system Nat) initial leakingSchedule = some s ∧
      (s.phase 0).usable = true ∧
      marks s.calls = alternating true (marks s.calls).length ∧
      (∀ client, (s.phase client).usable = true →
        (marks s.calls).getLast? = some true) ∧
      ∀ before client after, s.calls = before ++ .used client :: after →
        (marks before).getLast? = some true :=
  ⟨_, rfl, rfl, library_used_inside_window
    (reached_under_of_execute leakingSchedule (.start rfl) (by decide) rfl)⟩

end IMqtt.Mosquitto.LibraryWindow
