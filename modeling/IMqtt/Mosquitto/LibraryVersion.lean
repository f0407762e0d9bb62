import IMqtt.Mosquitto.Construct
import IMqtt.Mosquitto.LibraryWindowKept

/-!
# GetLibVersion

`GetLibVersion` reads the static `libVersion` without `libMutex`, while
constructors on other threads may be in the block that writes it. Here
`mosquitto_lib_init` may fail; the constructor then throws out of that block,
and its increment of the counter stays.
-/

namespace IMqtt.Mosquitto.LibraryVersion

open IMqtt.Defines LabelledSteps
open IMqtt.Mosquitto.Construct (libVersionText)
open IMqtt.Mosquitto.LibraryWindow (Phase unlock called counted Tally)

set_option autoImplicit false

universe u

structure State (Client : Type u) where
  window : LibraryWindow.State Client
  libVersion : Str
  /-- Whether `mosquitto_lib_init` succeeded, call by call. -/
  inits : List Bool
  /-- What the calls of `GetLibVersion` have returned. -/
  returned : List Str

inductive Action (Client : Type u)
  | window (action : LibraryWindow.Action Client)
  | initFails (client : Client)
  | getLibVersion (client : Client)
  deriving DecidableEq, Repr

/-- What `mosquitto_lib_version` answers. -/
abbrev Version := Int × Int × Int × Int

variable {Client : Type u} [DecidableEq Client]

/-- A step of the constructors and destructors; `libVersion` is assigned behind
the call of `mosquitto_lib_version`. -/
def follow (version : Version) (s : State Client) (after : LibraryWindow.State Client) :
    LibraryWindow.Action Client → State Client
  | .advance client =>
      match s.window.phase client with
      | .libInit => { s with window := after, inits := s.inits ++ [true] }
      | .libVersion => { s with window := after, libVersion := libVersionText version }
      | _ => { s with window := after }
  | _ => { s with window := after }

def step (version : Version) (s : State Client) : Action Client → Option (State Client)
  | .window action =>
      (LibraryWindow.step s.window action).map fun after => follow version s after action
  | .initFails client =>
      if s.window.phase client = .libInit then
        some { s with window := unlock s.window client .threw, inits := s.inits ++ [false] }
      else none
  | .getLibVersion client =>
      if (s.window.phase client).callsInstance = true then
        some { s with returned := s.returned ++ [s.libVersion] }
      else none

def initial : State Client where
  window := LibraryWindow.initial
  libVersion := text "UNKNOWN"
  inits := []
  returned := []

def system (Client : Type u) [DecidableEq Client] (version : Version) :
    System (State Client) (Action Client) where
  initial s := s = initial
  step := step version

def FewConstructors (s : State Client) : Action Client → Prop
  | .window action => LibraryWindow.FewConstructors s.window action
  | _ => True

instance (s : State Client) : ∀ action, Decidable (FewConstructors s action)
  | .window action => inferInstanceAs (Decidable (LibraryWindow.FewConstructors s.window action))
  | .initFails _ | .getLibVersion _ => .isTrue trivial

inductive Transition (version : Version) (s : State Client) :
    Action Client → State Client → Prop
  | window {action : LibraryWindow.Action Client} {after : LibraryWindow.State Client}
      (moved : LibraryWindow.Transition s.window action after)
      (other : ∀ client, action = .advance client →
        s.window.phase client ≠ .libInit ∧ s.window.phase client ≠ .libVersion) :
      Transition version s (.window action) { s with window := after }
  | libInit {client : Client} (here : s.window.phase client = .libInit) :
      Transition version s (.window (.advance client))
        { s with
          window := called (s.window.go client .libVersion) .opened
          inits := s.inits ++ [true] }
  | libVersion {client : Client} (here : s.window.phase client = .libVersion) :
      Transition version s (.window (.advance client))
        { s with
          window := called (s.window.go client .unlockInit) (.used client)
          libVersion := libVersionText version }
  | initFails {client : Client} (here : s.window.phase client = .libInit) :
      Transition version s (.initFails client)
        { s with window := unlock s.window client .threw, inits := s.inits ++ [false] }
  | getLibVersion {client : Client}
      (calls : (s.window.phase client).callsInstance = true) :
      Transition version s (.getLibVersion client)
        { s with returned := s.returned ++ [s.libVersion] }

theorem advance_transition {version : Version} {s : State Client} {client : Client}
    {after : LibraryWindow.State Client}
    (taken : LibraryWindow.step s.window (.advance client) = some after) :
    Transition version s (.window (.advance client))
      (follow version s after (.advance client)) := by
  have moved := LibraryWindow.step_transition taken
  cases here : s.window.phase client
  case libInit =>
    have ran : LibraryWindow.advance s.window client = some after := taken
    rw [LibraryWindow.advance, here, Option.some.injEq] at ran
    rw [follow, here, ← ran]
    exact .libInit here
  case libVersion =>
    have ran : LibraryWindow.advance s.window client = some after := taken
    rw [LibraryWindow.advance, here, Option.some.injEq] at ran
    rw [follow, here, ← ran]
    exact .libVersion here
  all_goals
    rw [follow, here]
    refine .window moved ?_
    intro other same
    cases same
    rw [here]
    exact ⟨Phase.noConfusion, Phase.noConfusion⟩

theorem step_transition {version : Version} {s after : State Client} {action : Action Client}
    (taken : step version s action = some after) : Transition version s action after := by
  cases action with
  | window action =>
      rcases Option.map_eq_some_iff.mp taken with ⟨window, moved, rfl⟩
      cases action with
      | advance client => exact advance_transition moved
      | _ =>
          refine .window (LibraryWindow.step_transition moved) ?_
          intro client same
          cases same
  | initFails client =>
      rcases guarded_some taken with ⟨here, rfl⟩
      exact .initFails here
  | getLibVersion client =>
      rcases guarded_some taken with ⟨calls, rfl⟩
      exact .getLibVersion calls

/-! Who calls `mosquitto_lib_init` is the only counted client. -/

def initialising : Phase → Bool
  | .libInit | .libVersion => true
  | _ => false

def Alone (phases : Client → Phase) : Prop :=
  ∀ client other, initialising (phases client) = true → (phases other).counted = true →
    other = client

theorem calls_of_counted {phase : Phase} (calls : phase.callsInstance = true) :
    phase.counted = true ∧ initialising phase = false := by
  cases phase <;> first | exact ⟨rfl, rfl⟩ | cases calls

section Alone

variable {phases : Client → Phase} {client : Client} {phase : Phase}

theorem alone_move (alone : Alone phases)
    (initialises : initialising phase = true → initialising (phases client) = true)
    (counts : phase.counted = true → (phases client).counted = true) :
    Alone (Function.update phases client phase) := by
  have before : ∀ other, initialising (Function.update phases client phase other) = true →
      initialising (phases other) = true := by
    rw [Function.forall_update_iff phases fun other here =>
      initialising here = true → initialising (phases other) = true]
    exact ⟨initialises, fun _ _ here => here⟩
  have included : ∀ other, (Function.update phases client phase other).counted = true →
      (phases other).counted = true := by
    rw [Function.forall_update_iff phases fun other here =>
      here.counted = true → (phases other).counted = true]
    exact ⟨counts, fun _ _ here => here⟩
  intro one other here counted
  exact alone one other (before one here) (included other counted)

omit [DecidableEq Client] in
theorem nobody_counted {constructors : Finset Client} {counter : UInt32}
    (tally : Tally constructors phases counter) (zero : counter = 0) (other : Client) :
    (phases other).counted ≠ true := by
  intro counted
  have member := LibraryWindow.mem_counted tally counted
  have positive := Finset.card_pos.mpr ⟨other, member⟩
  rw [← tally.counter, zero] at positive
  exact absurd positive (Nat.lt_irrefl 0)

omit [DecidableEq Client] in
theorem somebody_counted {constructors : Finset Client} {counter : UInt32}
    (tally : Tally constructors phases counter) (further : counter ≠ 0) :
    ∃ other, (phases other).counted = true := by
  have positive : 0 < (counted constructors phases).card := by
    rw [← tally.counter, Nat.pos_iff_ne_zero]
    intro zero
    exact further (UInt32.toNat_inj.mp zero)
  rcases Finset.card_pos.mp positive with ⟨other, member⟩
  exact ⟨other, (Census.mem_census.mp member).2⟩

end Alone

/-- What the window of the library says about the block under `libMutex`. -/
structure BlockKept (window : LibraryWindow.State Client) : Prop where
  exclusive : LibraryWindow.Exclusive window
  tally : Tally window.constructors window.phase window.counter
  alone : Alone window.phase

omit [DecidableEq Client] in
/-- While a thread stands at `fetch_add`, nobody initialises the library. -/
theorem nobody_initialises {window : LibraryWindow.State Client} {client : Client}
    (exclusive : LibraryWindow.Exclusive window) (here : window.phase client = .fetchAdd)
    (other : Client) : initialising (window.phase other) ≠ true := by
  intro initialises
  have inside : (window.phase other).inside = true := by
    cases position : window.phase other <;> rw [position] at initialises <;>
      first | rfl | cases initialises
  have same := MutexDiscipline.inside_unique exclusive other client inside (by rw [here]; rfl)
  rw [same, here] at initialises
  cases initialises

theorem alone_step {window after : LibraryWindow.State Client}
    {action : LibraryWindow.Action Client} (kept : BlockKept window)
    (transition : LibraryWindow.Transition window action after) : Alone after.phase := by
  have alone := kept.alone
  cases transition with
  | @addFirst client here first =>
      intro one other initialises counted
      have empty := nobody_counted kept.tally first
      have moved := LibraryWindow.update_phase window client .libInit
      simp only at initialises counted
      rw [moved] at initialises counted
      by_cases own : other = client
      · by_cases same : one = client
        · rw [own, same]
        · rw [if_neg same] at initialises
          exact absurd initialises (nobody_initialises kept.exclusive here one)
      · rw [if_neg own] at counted
        exact absurd counted (empty other)
  | @addFurther client here further =>
      intro one other initialises _
      have moved := LibraryWindow.update_phase window client .unlockInit one
      simp only at initialises
      rw [moved] at initialises
      by_cases same : one = client
      · rw [if_pos same] at initialises
        cases initialises
      · rw [if_neg same] at initialises
        exact absurd initialises (nobody_initialises kept.exclusive here one)
  | instanceCall here => exact alone
  | construct here | lockInit here _ | libInit here | libVersion here | unlockInit here
  | lockCleanup here _ | subLast here _ | subFurther here _ | libCleanup here
  | unlockCleanup here | constructed here | throw here | destruct here
  | mosquittoDestroy here =>
      apply alone_move alone
      · rw [here]
        decide
      · rw [here]
        decide

theorem block_kept_step {version : Version} {s after : State Client} {action : Action Client}
    (kept : BlockKept s.window) (allowed : FewConstructors s action)
    (transition : Transition version s action after) : BlockKept after.window := by
  have follows : ∀ {action : LibraryWindow.Action Client} {window},
      LibraryWindow.Transition s.window action window →
      LibraryWindow.FewConstructors s.window action → BlockKept window := by
    intro action window moved few
    constructor
    · exact LibraryWindow.exclusive_step moved kept.exclusive
    · exact LibraryWindow.tally_step moved few kept.tally
    · exact alone_step kept moved
  cases transition with
  | window moved other => exact follows moved allowed
  | libInit here => exact follows (.libInit here) allowed
  | libVersion here => exact follows (.libVersion here) allowed
  | initFails here =>
      constructor
      · exact LibraryWindow.exclusive_unlock kept.exclusive (by rw [here]; rfl) rfl
      · refine LibraryWindow.tally_move kept.tally ?_ (by rw [here]; rfl)
        rw [here]
        exact Phase.noConfusion
      · apply alone_move kept.alone
        · rw [here]
          decide
        · rw [here]
          decide
  | getLibVersion calls => exact kept

theorem reached_block_kept {version : Version} {s : State Client}
    (reached : ReachedUnder (system Client version) FewConstructors s) :
    BlockKept s.window := by
  apply invariant_of_step (fun s : State Client => BlockKept s.window) _ _ reached
  · intro state start
    have begins : state = initial := start
    rw [begins]
    constructor
    · intro client
      simp [initial, LibraryWindow.initial, Phase.inside]
    · exact ⟨fun _ present => absurd rfl present, by simp [initial, LibraryWindow.initial], rfl⟩
    · intro client other initialises
      cases initialises
  · intro state action after _ kept allowed taken
    exact block_kept_step kept allowed (step_transition taken)

/-! The string and the calls that decide it. -/

/-- The first call of `mosquitto_lib_init` decides what there is to read. -/
def published (version : Version) (inits : List Bool) : Str :=
  if inits.head? = some true then libVersionText version else text "UNKNOWN"

theorem published_append (version : Version) {inits : List Bool} (begun : inits ≠ [])
    (more : List Bool) : published version (inits ++ more) = published version inits := by
  rw [published, published, List.head?_append_of_ne_nil inits begun]

theorem published_failed (version : Version) (inits : List Bool) :
    published version (inits ++ [false]) = published version inits := by
  cases inits with
  | nil => rfl
  | cons first rest => exact published_append version (List.cons_ne_nil first rest) [false]

theorem published_succeeded (version : Version) {inits : List Bool} (begun : inits ≠ [])
    (succeeded : false ∉ inits) : published version inits = libVersionText version := by
  cases inits with
  | nil => exact absurd rfl begun
  | cons first rest =>
      cases first with
      | true => rfl
      | false => exact absurd List.mem_cons_self succeeded

structure History (version : Version) (phases : Client → Phase) (libVersion : Str)
    (inits : List Bool) (returned : List Str) : Prop where
  begun : ∀ client, (phases client).counted = true → phases client ≠ .libInit → inits ≠ []
  /-- The constructor that saw the failure has thrown, and stays counted. -/
  failed : false ∈ inits → ∃ client, phases client = .threw
  last : false ∉ inits.dropLast
  succeeded : ∀ client, phases client = .libVersion → false ∉ inits
  stored : (∀ client, phases client ≠ .libVersion) → libVersion = published version inits
  seen : ∀ txt ∈ returned, inits ≠ [] ∧ txt = published version inits

section History

variable {version : Version} {phases : Client → Phase} {libVersion : Str}
  {inits : List Bool} {returned : List Str} {client : Client} {phase : Phase}

theorem history_move (history : History version phases libVersion inits returned)
    (was : phases client ≠ .threw ∧ phases client ≠ .libVersion)
    (moved : phase ≠ .libVersion)
    (begun : phase.counted = true → phase ≠ .libInit → inits ≠ []) :
    History version (Function.update phases client phase) libVersion inits returned := by
  constructor
  · rw [Function.forall_update_iff phases fun _ here =>
      here.counted = true → here ≠ .libInit → inits ≠ []]
    exact ⟨begun, fun other _ => history.begun other⟩
  · intro failure
    obtain ⟨other, threw⟩ := history.failed failure
    refine ⟨other, ?_⟩
    have distinct : other ≠ client := by
      intro own
      rw [own] at threw
      exact was.1 threw
    rw [Function.update_of_ne distinct]
    exact threw
  · exact history.last
  · rw [Function.forall_update_iff phases fun _ here => here = .libVersion → false ∉ inits]
    exact ⟨fun here => absurd here moved, fun other _ => history.succeeded other⟩
  · intro nobody
    apply history.stored
    intro other here
    by_cases own : other = client
    · rw [own] at here
      exact was.2 here
    · have still := nobody other
      rw [Function.update_of_ne own] at still
      exact still here
  · exact history.seen

omit [DecidableEq Client] in
/-- A failed call would have left its client counted. -/
theorem none_failed (history : History version phases libVersion inits returned)
    (alone : Alone phases) (here : phases client = .libInit) : false ∉ inits := by
  intro failure
  obtain ⟨other, threw⟩ := history.failed failure
  have same := alone client other (by rw [here]; rfl) (by rw [threw]; rfl)
  rw [same, here] at threw
  cases threw

omit [DecidableEq Client] in
theorem nobody_stores (alone : Alone phases) (counted : (phases client).counted = true)
    (other : phases client ≠ .libVersion) : ∀ writer, phases writer ≠ .libVersion := by
  intro writer here
  have same := alone writer client (by rw [here]; rfl) counted
  rw [same] at other
  exact other here

theorem history_lib_init (history : History version phases libVersion inits returned)
    (alone : Alone phases) (here : phases client = .libInit) :
    History version (Function.update phases client .libVersion) libVersion
      (inits ++ [true]) returned := by
  have none := none_failed history alone here
  have still : false ∉ inits ++ [true] := by simpa using none
  constructor
  · intro other _ _
    exact List.append_ne_nil_of_right_ne_nil inits (List.cons_ne_nil true [])
  · intro failure
    exact absurd failure still
  · rw [List.dropLast_concat]
    exact none
  · intro other _
    exact still
  · intro nobody
    exact absurd (Function.update_self client _ phases) (nobody client)
  · intro txt member
    obtain ⟨begun, same⟩ := history.seen txt member
    refine ⟨List.append_ne_nil_of_left_ne_nil begun [true], ?_⟩
    rw [published_append version begun]
    exact same

theorem history_lib_version (history : History version phases libVersion inits returned)
    (here : phases client = .libVersion) :
    History version (Function.update phases client .unlockInit) (libVersionText version)
      inits returned := by
  have begun : inits ≠ [] := by
    apply history.begun client
    · rw [here]
      rfl
    · rw [here]
      exact Phase.noConfusion
  constructor
  · intro other _ _
    exact begun
  · intro failure
    exact absurd failure (history.succeeded client here)
  · exact history.last
  · intro other _
    exact history.succeeded client here
  · intro _
    exact (published_succeeded version begun (history.succeeded client here)).symm
  · exact history.seen

theorem history_init_fails (history : History version phases libVersion inits returned)
    (alone : Alone phases) (here : phases client = .libInit) :
    History version (Function.update phases client .threw) libVersion
      (inits ++ [false]) returned := by
  have nobody : ∀ other, phases other ≠ .libVersion :=
    nobody_stores alone (by rw [here]; rfl) (by rw [here]; exact Phase.noConfusion)
  constructor
  · intro other _ _
    exact List.append_ne_nil_of_right_ne_nil inits (List.cons_ne_nil false [])
  · intro _
    exact ⟨client, Function.update_self client _ phases⟩
  · rw [List.dropLast_concat]
    exact none_failed history alone here
  · intro other stores
    by_cases own : other = client
    · rw [own, Function.update_self] at stores
      cases stores
    · rw [Function.update_of_ne own] at stores
      exact absurd stores (nobody other)
  · intro _
    rw [published_failed]
    exact history.stored nobody
  · intro txt member
    obtain ⟨begun, same⟩ := history.seen txt member
    refine ⟨List.append_ne_nil_of_left_ne_nil begun [false], ?_⟩
    rw [published_append version begun]
    exact same

omit [DecidableEq Client] in
theorem history_read (history : History version phases libVersion inits returned)
    (alone : Alone phases) (calls : (phases client).callsInstance = true) :
    History version phases libVersion inits (returned ++ [libVersion]) := by
  have counted := (calls_of_counted calls).1
  have other := (calls_of_counted calls).2
  have begun : inits ≠ [] := by
    apply history.begun client counted
    intro here
    rw [here] at other
    cases other
  have stored : libVersion = published version inits := by
    apply history.stored
    apply nobody_stores alone counted
    intro here
    rw [here] at other
    cases other
  constructor
  · exact history.begun
  · exact history.failed
  · exact history.last
  · exact history.succeeded
  · exact history.stored
  · intro txt member
    rcases List.mem_append.mp member with earlier | own
    · exact history.seen txt earlier
    · rw [List.mem_singleton.mp own]
      exact ⟨begun, stored⟩

end History

def HistoryKept (version : Version) (s : State Client) : Prop :=
  History version s.window.phase s.libVersion s.inits s.returned

omit [DecidableEq Client] in
/-- A client that finds the counter raised finds the library initialised, or
finds that it could not be. -/
theorem begun_of_further {version : Version} {s : State Client} {client : Client}
    (block : BlockKept s.window) (history : HistoryKept version s)
    (here : s.window.phase client = .fetchAdd) (further : s.window.counter ≠ 0) :
    s.inits ≠ [] := by
  obtain ⟨other, counted⟩ := somebody_counted block.tally further
  apply history.begun other counted
  intro initialises
  apply nobody_initialises block.exclusive here other
  rw [initialises]
  rfl

theorem history_window {version : Version} {s : State Client}
    {action : LibraryWindow.Action Client} {after : LibraryWindow.State Client}
    (block : BlockKept s.window) (history : HistoryKept version s)
    (moved : LibraryWindow.Transition s.window action after)
    (other : ∀ client, action = .advance client →
      s.window.phase client ≠ .libInit ∧ s.window.phase client ≠ .libVersion) :
    HistoryKept version { s with window := after } := by
  have begun : ∀ {client : Client} {phase : Phase}, s.window.phase client = phase →
      phase.counted = true → phase ≠ .libInit → s.inits ≠ [] := by
    intro client phase here counted distinct
    rw [← here] at counted distinct
    exact history.begun client counted distinct
  cases moved with
  | libInit here => exact absurd here (other _ rfl).1
  | libVersion here => exact absurd here (other _ rfl).2
  | instanceCall here => exact history
  | @addFurther client here further =>
      apply history_move history (by simp [here]) (by simp)
      intro _ _
      exact begun_of_further block history here further
  | @addFirst client here first =>
      apply history_move history (by simp [here]) (by simp)
      intro _ same
      exact absurd rfl same
  | unlockInit here | constructed here | throw here | destruct here
  | mosquittoDestroy here | lockCleanup here _ =>
      apply history_move history (by simp [here]) (by simp)
      intro _ _
      exact begun here rfl Phase.noConfusion
  | construct here | lockInit here _ | subLast here _ | subFurther here _ | libCleanup here
  | unlockCleanup here =>
      apply history_move history (by simp [here]) (by simp)
      intro counted
      cases counted

theorem history_step {version : Version} {s after : State Client} {action : Action Client}
    (block : BlockKept s.window) (history : HistoryKept version s)
    (transition : Transition version s action after) : HistoryKept version after := by
  cases transition with
  | window moved other => exact history_window block history moved other
  | libInit here => exact history_lib_init history block.alone here
  | libVersion here => exact history_lib_version history here
  | initFails here => exact history_init_fails history block.alone here
  | getLibVersion calls => exact history_read history block.alone calls

theorem reached_history {version : Version} {s : State Client}
    (reached : ReachedUnder (system Client version) FewConstructors s) :
    HistoryKept version s := by
  apply invariant_of_step (HistoryKept version) _ _ reached
  · intro state start
    have begins : state = initial := start
    rw [begins]
    constructor
    · intro client counted
      cases counted
    · exact fun failure => absurd failure List.not_mem_nil
    · exact List.not_mem_nil
    · intro client here
      cases here
    · exact fun _ => rfl
    · intro txt member
      exact absurd member List.not_mem_nil
  · intro state action after before history _ taken
    exact history_step (reached_block_kept before) history (step_transition taken)

/-- While an instance may be in use, no constructor stands at the assignment of
the string, so the read without the mutex does not race with it. All calls of
`GetLibVersion` return one text, which the first call of `mosquitto_lib_init`
decides, and behind a failed one there is no other. -/
theorem readers_get_one_version {version : Version} {s : State Client}
    (reached : ReachedUnder (system Client version) FewConstructors s) :
    (∀ reader writer, (s.window.phase reader).callsInstance = true →
      s.window.phase writer ≠ .libVersion) ∧
    (∀ txt ∈ s.returned, txt = published version s.inits) ∧
    false ∉ s.inits.dropLast := by
  have block := reached_block_kept reached
  have history := reached_history reached
  refine ⟨?_, ?_, history.last⟩
  · intro reader writer calls
    obtain ⟨counted, other⟩ := calls_of_counted calls
    apply nobody_stores block.alone counted
    intro here
    rw [here] at other
    cases other
  · intro txt member
    exact (history.seen txt member).2

/-- The first client initialises the library and is destroyed. The next one cannot
initialise it again while a third one waits for the mutex, which then takes the
library for initialised. -/
def reopeningSchedule : List (Action Nat) :=
  [.window (.construct 0), .window (.advance 0), .window (.advance 0), .window (.advance 0),
    .window (.advance 0), .window (.advance 0), .getLibVersion 0, .window (.constructed 0),
    .window (.destruct 0), .window (.mosquittoDestroy 0), .window (.advance 0),
    .window (.advance 0), .window (.advance 0), .window (.advance 0),
    .window (.construct 1), .window (.construct 2), .window (.advance 1), .window (.advance 1),
    .initFails 1, .window (.advance 2), .window (.advance 2), .window (.advance 2),
    .getLibVersion 2]

theorem unopened_library_has_one_version :
    ∃ s, execute (system Nat (2, 0, 15, 2000015)) initial reopeningSchedule = some s ∧
      s.inits = [true, false] ∧ s.returned.length = 2 ∧
      (∀ reader writer, (s.window.phase reader).callsInstance = true →
        s.window.phase writer ≠ .libVersion) ∧
      (∀ txt ∈ s.returned, txt = published (2, 0, 15, 2000015) s.inits) ∧
      false ∉ s.inits.dropLast :=
  ⟨_, rfl, rfl, rfl, readers_get_one_version
    (reached_under_of_execute reopeningSchedule (.start rfl) (by decide) rfl)⟩

end IMqtt.Mosquitto.LibraryVersion
