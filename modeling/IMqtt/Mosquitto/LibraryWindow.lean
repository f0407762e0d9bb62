import IMqtt.Library.Census
import IMqtt.Library.LabelledSteps
import IMqtt.Library.MutexDiscipline
import IMqtt.Library.UsageWindow
import Mathlib.Algebra.Ring.Nat

/-!
# mosquitto_lib_init and mosquitto_lib_cleanup

Any number of clients are constructed, used and destroyed on different
threads. The static counter changes under `libMutex`; the calls for one
instance are made outside it. `mosquitto_lib_init` succeeds, and a constructor
may throw at any point behind its library block, in which case its increment
of the counter stays.
-/

namespace IMqtt.Mosquitto.LibraryWindow

open LabelledSteps UsageWindow

set_option autoImplicit false

universe u

variable {Client : Type u}

/-- Where the thread that constructs or destroys the client stands. -/
inductive Phase
  | absent
  | lockInit | fetchAdd | libInit | libVersion | unlockInit
  | constructing | threw | alive | destructing
  | lockCleanup | fetchSub | libCleanup | unlockCleanup | gone
  deriving DecidableEq, Repr

structure State (Client : Type u) where
  counter : UInt32
  libMutex : Option Client
  phase : Client → Phase
  /-- The calls into the library, in their order. -/
  calls : List (Event Client)
  /-- The clients whose constructor has been entered. -/
  constructors : Finset Client

inductive Action (Client : Type u)
  | construct (client : Client)
  /-- The next statement of a block under `libMutex`. -/
  | advance (client : Client)
  | instanceCall (client : Client)
  | constructed (client : Client)
  | throw (client : Client)
  | destruct (client : Client)
  | mosquittoDestroy (client : Client)
  deriving DecidableEq, Repr

variable [DecidableEq Client]

def State.go (s : State Client) (client : Client) (phase : Phase) : State Client :=
  { s with phase := Function.update s.phase client phase }

def lock (s : State Client) (client : Client) (phase : Phase) : Option (State Client) :=
  if s.libMutex = none then some { s.go client phase with libMutex := some client }
  else none

def unlock (s : State Client) (client : Client) (phase : Phase) : State Client :=
  { s.go client phase with libMutex := none }

def called (s : State Client) (event : Event Client) : State Client :=
  { s with calls := s.calls ++ [event] }

def advance (s : State Client) (client : Client) : Option (State Client) :=
  match s.phase client with
  | .lockInit => lock s client .fetchAdd
  | .fetchAdd =>
      let next := if s.counter = 0 then Phase.libInit else .unlockInit
      some { s.go client next with counter := s.counter + 1 }
  | .libInit => some (called (s.go client .libVersion) .opened)
  | .libVersion => some (called (s.go client .unlockInit) (.used client))
  | .unlockInit => some (unlock s client .constructing)
  | .lockCleanup => lock s client .fetchSub
  | .fetchSub =>
      let next := if s.counter = 1 then Phase.libCleanup else .unlockCleanup
      some { s.go client next with counter := s.counter - 1 }
  | .libCleanup => some (called (s.go client .unlockCleanup) .closed)
  | .unlockCleanup => some (unlock s client .gone)
  | _ => none

/-- The constructor, a command or the destructor may be running. -/
def Phase.callsInstance : Phase → Bool
  | .constructing | .alive | .destructing => true
  | _ => false

def step (s : State Client) : Action Client → Option (State Client)
  | .construct client =>
      if s.phase client = .absent then
        some { s.go client .lockInit with constructors := insert client s.constructors }
      else none
  | .advance client => advance s client
  | .instanceCall client =>
      if (s.phase client).callsInstance = true then some (called s (.used client)) else none
  | .constructed client =>
      if s.phase client = .constructing then some (s.go client .alive) else none
  | .throw client =>
      if s.phase client = .constructing then some (s.go client .threw) else none
  | .destruct client =>
      if s.phase client = .alive then some (s.go client .destructing) else none
  | .mosquittoDestroy client =>
      if s.phase client = .destructing then
        some (called (s.go client .lockCleanup) (.used client))
      else none

def initial : State Client where
  counter := 0
  libMutex := none
  phase := fun _ => .absent
  calls := []
  constructors := ∅

def system (Client : Type u) [DecidableEq Client] : System (State Client) (Action Client) where
  initial s := s = initial
  step := step

def Action.constructs : Action Client → Bool
  | .construct _ => true
  | _ => false

/-- Fewer than 2^32 constructors run. -/
def FewConstructors (s : State Client) (action : Action Client) : Prop :=
  action.constructs = true → s.constructors.card + 1 < 2 ^ 32

instance (s : State Client) (action : Action Client) :
    Decidable (FewConstructors s action) :=
  inferInstanceAs (Decidable (action.constructs = true → s.constructors.card + 1 < 2 ^ 32))

/-! What one step can do. -/

inductive Transition (s : State Client) : Action Client → State Client → Prop
  | construct {client : Client} (here : s.phase client = .absent) :
      Transition s (.construct client)
        { s.go client .lockInit with constructors := insert client s.constructors }
  | lockInit {client : Client} (here : s.phase client = .lockInit)
      (free : s.libMutex = none) :
      Transition s (.advance client)
        { s.go client .fetchAdd with libMutex := some client }
  | addFirst {client : Client} (here : s.phase client = .fetchAdd)
      (first : s.counter = 0) :
      Transition s (.advance client)
        { s.go client .libInit with counter := s.counter + 1 }
  | addFurther {client : Client} (here : s.phase client = .fetchAdd)
      (further : s.counter ≠ 0) :
      Transition s (.advance client)
        { s.go client .unlockInit with counter := s.counter + 1 }
  | libInit {client : Client} (here : s.phase client = .libInit) :
      Transition s (.advance client) (called (s.go client .libVersion) .opened)
  | libVersion {client : Client} (here : s.phase client = .libVersion) :
      Transition s (.advance client) (called (s.go client .unlockInit) (.used client))
  | unlockInit {client : Client} (here : s.phase client = .unlockInit) :
      Transition s (.advance client) (unlock s client .constructing)
  | lockCleanup {client : Client} (here : s.phase client = .lockCleanup)
      (free : s.libMutex = none) :
      Transition s (.advance client)
        { s.go client .fetchSub with libMutex := some client }
  | subLast {client : Client} (here : s.phase client = .fetchSub)
      (last : s.counter = 1) :
      Transition s (.advance client)
        { s.go client .libCleanup with counter := s.counter - 1 }
  | subFurther {client : Client} (here : s.phase client = .fetchSub)
      (further : s.counter ≠ 1) :
      Transition s (.advance client)
        { s.go client .unlockCleanup with counter := s.counter - 1 }
  | libCleanup {client : Client} (here : s.phase client = .libCleanup) :
      Transition s (.advance client) (called (s.go client .unlockCleanup) .closed)
  | unlockCleanup {client : Client} (here : s.phase client = .unlockCleanup) :
      Transition s (.advance client) (unlock s client .gone)
  | instanceCall {client : Client} (here : (s.phase client).callsInstance = true) :
      Transition s (.instanceCall client) (called s (.used client))
  | constructed {client : Client} (here : s.phase client = .constructing) :
      Transition s (.constructed client) (s.go client .alive)
  | throw {client : Client} (here : s.phase client = .constructing) :
      Transition s (.throw client) (s.go client .threw)
  | destruct {client : Client} (here : s.phase client = .alive) :
      Transition s (.destruct client) (s.go client .destructing)
  | mosquittoDestroy {client : Client} (here : s.phase client = .destructing) :
      Transition s (.mosquittoDestroy client)
        (called (s.go client .lockCleanup) (.used client))

theorem advance_transition {s after : State Client} {client : Client}
    (taken : advance s client = some after) :
    Transition s (.advance client) after := by
  rw [advance] at taken
  cases here : s.phase client <;> rw [here] at taken
  case lockInit =>
    rcases guarded_some taken with ⟨free, rfl⟩
    exact .lockInit here free
  case fetchAdd =>
    by_cases first : s.counter = 0
    · rw [if_pos first] at taken
      cases taken
      exact .addFirst here first
    · rw [if_neg first] at taken
      cases taken
      exact .addFurther here first
  case libInit =>
    cases taken
    exact .libInit here
  case libVersion =>
    cases taken
    exact .libVersion here
  case unlockInit =>
    cases taken
    exact .unlockInit here
  case lockCleanup =>
    rcases guarded_some taken with ⟨free, rfl⟩
    exact .lockCleanup here free
  case fetchSub =>
    by_cases last : s.counter = 1
    · rw [if_pos last] at taken
      cases taken
      exact .subLast here last
    · rw [if_neg last] at taken
      cases taken
      exact .subFurther here last
  case libCleanup =>
    cases taken
    exact .libCleanup here
  case unlockCleanup =>
    cases taken
    exact .unlockCleanup here
  all_goals cases taken

theorem step_transition {s after : State Client} {action : Action Client}
    (taken : step s action = some after) : Transition s action after := by
  cases action with
  | advance client => exact advance_transition taken
  | construct client =>
      rcases guarded_some taken with ⟨here, rfl⟩
      exact .construct here
  | instanceCall client =>
      rcases guarded_some taken with ⟨here, rfl⟩
      exact .instanceCall here
  | constructed client =>
      rcases guarded_some taken with ⟨here, rfl⟩
      exact .constructed here
  | throw client =>
      rcases guarded_some taken with ⟨here, rfl⟩
      exact .throw here
  | destruct client =>
      rcases guarded_some taken with ⟨here, rfl⟩
      exact .destruct here
  | mosquittoDestroy client =>
      rcases guarded_some taken with ⟨here, rfl⟩
      exact .mosquittoDestroy here

end IMqtt.Mosquitto.LibraryWindow
