import IMqtt.DispatchQueue.Shutdown
import IMqtt.Library.UsageWindow

/-!
# Deliveries stop with shutdown

The worker tests the exit flag under the mutex before it pops. A store that
comes behind this test lets one message through, the one the worker pops or has
popped, and behind the join there is no worker left.
-/

namespace IMqtt.DispatchQueue.Deliveries

open IMqtt.DispatchQueue.Model IMqtt.DispatchQueue.Transitions
open IMqtt.DispatchQueue.Locking IMqtt.DispatchQueue.ExitFlag
open IMqtt.DispatchQueue.Shutdown LabelledSteps

set_option autoImplicit false

universe u v

variable {Producer : Type u} {Message : Type v}

/-- The head of the queue at the last pop, the beginnings and ends of the
handler calls, and the messages of the calls that began when the exit flag had
been stored. -/
structure Calls (Message : Type v) where
  popped : Option Message := none
  handler : List (UsageWindow.Event Message) := []
  late : List Message := []
  deriving DecidableEq

def noteCalls (s : State Producer Message) :
    Choice Producer Message → Calls Message → Calls Message
  | .worker, calls =>
      match s.worker with
      | .pop => { calls with popped := s.messageDispatcherQueue.head? }
      | .call msg =>
          { calls with
            handler := calls.handler ++ [.opened]
            late := if stored s.destructor then calls.late ++ [msg] else calls.late }
      | .inHandler _ => { calls with handler := calls.handler ++ [.closed] }
      | _ => calls
  | _, calls => calls

def delivering (Producer : Type u) (Message : Type v) [DecidableEq Producer] :
    System (State Producer Message × Calls Message) (Choice Producer Message) :=
  recording (system Producer Message) {} noteCalls

def inHandler : WorkerPc Message → Bool
  | .inHandler _ => true
  | _ => false

/-- The worker is behind its test of the flag and before the handler call. -/
def committed : WorkerPc Message → Bool
  | .pop | .unlock _ | .call _ => true
  | _ => false

/-- The message of the handler call that comes next. -/
def carried : WorkerPc Message → Option Message
  | .unlock msg | .call msg => some msg
  | _ => none

/-- What the record says about the positions of the worker and the destructor. -/
structure CallsKept (worker : WorkerPc Message) (destructor : DestructorPc)
    (calls : Calls Message) : Prop where
  carries : ∀ msg, carried worker = some msg → calls.popped = some msg
  turns : UsageWindow.scan false calls.handler = some (inHandler worker)
  early : stored destructor = false → calls.late = []
  spent : committed worker = true → calls.late = []
  bounded : calls.late.length ≤ 1
  late : ∀ msg ∈ calls.late, calls.popped = some msg

section Kept

variable {worker after : WorkerPc Message} {destructor later : DestructorPc}
  {calls : Calls Message}

/-- The worker goes on and begins or ends no handler call. -/
theorem kept_worker (kept : CallsKept worker destructor calls)
    (carries : carried after = none ∨ carried after = carried worker)
    (inside : inHandler after = inHandler worker)
    (spent : committed after = true → calls.late = []) : CallsKept after destructor calls := by
  refine ⟨?_, ?_, kept.early, spent, kept.bounded, kept.late⟩
  · intro msg here
    rcases carries with nothing | same
    · rw [nothing] at here
      cases here
    · rw [same] at here
      exact kept.carries msg here
  · rw [inside]
    exact kept.turns

theorem kept_destructor (kept : CallsKept worker destructor calls)
    (early : stored later = false → stored destructor = false) :
    CallsKept worker later calls :=
  ⟨kept.carries, kept.turns, fun before => kept.early (early before), kept.spent,
    kept.bounded, kept.late⟩

theorem kept_pop (kept : CallsKept .pop destructor calls) (msg : Message) :
    CallsKept (.unlock msg) destructor { calls with popped := some msg } := by
  have nothing : calls.late = [] := kept.spent rfl
  refine ⟨fun _ here => here, kept.turns, kept.early, fun _ => nothing, kept.bounded, ?_⟩
  intro other member
  rw [nothing] at member
  cases member

theorem kept_begins {msg : Message} (kept : CallsKept (.call msg) destructor calls) :
    CallsKept (.inHandler msg) destructor
      { calls with
        handler := calls.handler ++ [.opened]
        late := if stored destructor then calls.late ++ [msg] else calls.late } := by
  have nothing : calls.late = [] := kept.spent rfl
  have taken : calls.popped = some msg := kept.carries msg rfl
  constructor
  · intro other here
    cases here
  · rw [UsageWindow.scan_last kept.turns]
    rfl
  · intro before
    simp only [before, Bool.false_eq_true, if_false]
    exact nothing
  · intro ahead
    cases ahead
  · rw [nothing]
    split <;> simp
  · intro other member
    rw [nothing] at member
    split at member
    · rw [List.nil_append, List.mem_singleton] at member
      rw [member]
      exact taken
    · cases member

theorem kept_ends {msg : Message} (kept : CallsKept (.inHandler msg) destructor calls) :
    CallsKept .relock destructor { calls with handler := calls.handler ++ [.closed] } := by
  refine ⟨?_, ?_, kept.early, ?_, kept.bounded, kept.late⟩
  · intro other here
    cases here
  · rw [UsageWindow.scan_last kept.turns]
    rfl
  · intro ahead
    cases ahead

end Kept

/-- The positions at which the worker's next step is noted. -/
def notes : WorkerPc Message → Bool
  | .pop | .call _ | .inHandler _ => true
  | _ => false

theorem note_calls_elsewhere {s : State Producer Message} (calls : Calls Message)
    (elsewhere : notes s.worker = false) : noteCalls s .worker calls = calls := by
  cases here : s.worker <;> simp_all [noteCalls, notes]

theorem kept_elsewhere (s : State Producer Message) {after : WorkerPc Message}
    {calls : Calls Message} (kept : CallsKept s.worker s.destructor calls)
    (elsewhere : notes s.worker = false)
    (carries : carried after = none ∨ carried after = carried s.worker)
    (inside : inHandler after = inHandler s.worker)
    (spent : committed after = true → calls.late = []) :
    CallsKept after s.destructor (noteCalls s .worker calls) := by
  rw [note_calls_elsewhere calls elsewhere]
  exact kept_worker kept carries inside spent

theorem kept_initialiser {s : State Producer Message} {member : Member} {rest : List Member}
    {calls : Calls Message} (building : Constructing s)
    (kept : CallsKept s.worker s.destructor calls) (next : s.uninitialised = member :: rest) :
    CallsKept (initialise member { s with uninitialised := rest }).worker
      (initialise member { s with uninitialised := rest }).destructor calls := by
  cases member
  case messageDispatcherThread =>
    have waiting := building.threadPending (by simp [next])
    rw [waiting] at kept
    exact kept_worker kept (.inl rfl) rfl fun ahead => by cases ahead
  all_goals exact kept

variable [DecidableEq Producer]

theorem calls_kept_step {s t : State Producer Message} {action : Choice Producer Message}
    {calls : Calls Message} (building : Constructing s) (flag : FlagWrites s)
    (kept : CallsKept s.worker s.destructor calls) (transition : Transition s action t) :
    CallsKept t.worker t.destructor (noteCalls s action calls) := by
  cases transition with
  | construct next => exact kept_initialiser building kept next
  | pop here front =>
      rw [noteCalls, here]
      rw [here] at kept
      simp only [front, List.head?_cons]
      exact kept_pop kept _
  | handOver here =>
      rw [noteCalls, here]
      rw [here] at kept
      exact kept_begins kept
  | handlerReturned here =>
      rw [noteCalls, here]
      rw [here] at kept
      exact kept_ends kept
  | ifTake here exit filled =>
      have unset : stored s.destructor = false := by
        rw [← Bool.not_eq_true]
        intro done
        rw [flag.ofStored done] at exit
        cases exit
      exact kept_elsewhere s kept (by rw [here]; rfl) (.inl rfl) (by rw [here]; rfl)
        fun _ => kept.early unset
  | unlock here =>
      exact kept_elsewhere s kept (by rw [here]; rfl) (.inr (by rw [here]; rfl))
        (by rw [here]; rfl) fun _ => kept.spent (by rw [here]; rfl)
  | @workerLogged site here =>
      cases site <;>
        exact kept_elsewhere s kept (by rw [here]; rfl) (.inl rfl) (by rw [here]; rfl)
          (by simp [committed, WorkerLog.next])
  | workerLog here | workerLock here | loopLeave here | loopBody here | waitReady here
  | waitFalse here | block here | relockWait here | ifSkip here | relock here
  | unlockExit here =>
      exact kept_elsewhere s kept (by rw [here]; rfl) (.inl rfl) (by rw [here]; rfl)
        (by simp [committed])
  | spurious here | notifyOneWakes _ here =>
      exact kept_worker kept (.inl rfl) (by rw [here]; rfl) (by simp [committed])
  | notifyAllWakes at_notify here =>
      have woken : CallsKept .relockWait s.destructor calls :=
        kept_worker kept (.inl rfl) (by rw [here]; rfl) (by simp [committed])
      exact kept_destructor woken (by simp [stored])
  | destructorStart here | storeExit here | notifyAllLost here | join here
  | destructorLock here | countNone here | countLost here | lostLog here
  | lostLogged here | destructorUnlock here =>
      exact kept_destructor kept (by rw [here]; simp [stored])
  | _ => exact kept

theorem reached_calls_kept {pair : State Producer Message × Calls Message}
    (reached : Reached (delivering Producer Message) pair) :
    CallsKept pair.1.worker pair.1.destructor pair.2 := by
  apply invariant_of_step (fun pair : State Producer Message × Calls Message =>
    CallsKept pair.1.worker pair.1.destructor pair.2) _ _ reached
  · intro pair start
    rcases pair with ⟨s, calls⟩
    rcases start with ⟨⟨logCb, priorExit, begins⟩, blank⟩
    have begun : s = initial logCb priorExit := begins
    have nothing : calls = {} := blank
    rw [begun, nothing]
    constructor
    · intro msg here
      cases here
    · rfl
    · intro _
      rfl
    · intro _
      rfl
    · exact Nat.zero_le 1
    · intro msg member
      cases member
  · intro pair action after reached kept _ taken
    rcases recording_some taken with ⟨ran, noted⟩
    have within := reached_of_recording reached
    rw [noted]
    exact calls_kept_step (reached_constructing within) (reached_flag_writes within) kept
      (step_transition ran)

theorem joined_step {s t : State Producer Message} {action : Choice Producer Message}
    (building : Constructing s) (ended : WorkerJoined s) (behind : joined s.destructor = true)
    (transition : Transition s action t) :
    joined t.destructor = true ∧ t.handed = s.handed := by
  have finished : s.worker = .finished := ended behind
  cases transition with
  | @construct member rest next =>
      have waiting := building.destructorWaits (by simp [next])
      rw [waiting] at behind
      cases behind
  | handOver here =>
      rw [finished] at here
      cases here
  | destructorStart here | storeExit here | notifyAllWakes here | notifyAllLost here =>
      rw [here] at behind
      cases behind
  | join | destructorLock | countNone | countLost | lostLog | lostLogged
  | destructorUnlock => exact ⟨rfl, rfl⟩
  | _ => exact ⟨behind, rfl⟩

/-- Behind the join nothing is handed over, whatever follows. -/
theorem joined_run {s t : State Producer Message} (labels : List (Choice Producer Message))
    (reached : Reached (system Producer Message) s) (behind : joined s.destructor = true)
    (ran : execute (system Producer Message) s labels = some t) :
    t.worker = .finished ∧ t.handed = s.handed := by
  have later : joined t.destructor = true ∧ t.handed = s.handed := by
    apply invariant_of_execute
      (fun state : State Producer Message =>
        joined state.destructor = true ∧ state.handed = s.handed)
      _ labels reached ⟨behind, rfl⟩ ran
    intro state action after within holds taken
    rcases joined_step (reached_constructing within) (reached_worker_joined within) holds.1
      (step_transition taken) with ⟨still, same⟩
    exact ⟨still, same.trans holds.2⟩
  have ended : WorkerJoined t := by
    apply invariant_of_execute WorkerJoined _ labels reached (reached_worker_joined reached) ran
    intro state action after within before taken
    exact worker_joined_step (reached_constructing within) before (step_transition taken)
  exact ⟨ended later.1, later.2⟩

/-- What a run may still deliver once the exit flag has been stored. -/
structure Stops (s : State Producer Message) (calls : Calls Message) : Prop where
  bounded : calls.late.length ≤ 1
  carries : ∀ msg ∈ calls.late, calls.popped = some msg
  turns : UsageWindow.marks calls.handler =
    UsageWindow.alternating true (UsageWindow.marks calls.handler).length
  joined : joined s.destructor = true →
    ∀ labels t, execute (system Producer Message) s labels = some t →
      inHandler t.worker = false ∧ t.handed = s.handed

theorem deliveries_stop (s : State Producer Message) (calls : Calls Message)
    (reached : Reached (delivering Producer Message) (s, calls)) : Stops s calls := by
  have kept : CallsKept s.worker s.destructor calls := reached_calls_kept reached
  refine ⟨kept.bounded, kept.late, UsageWindow.marks_alternate kept.turns, ?_⟩
  intro behind labels t ran
  have within : Reached (system Producer Message) s := reached_of_recording reached
  rcases joined_run labels within behind ran with ⟨finished, same⟩
  rw [finished]
  exact ⟨rfl, same⟩

theorem delivering_begins (logCb priorExit : Bool) :
    (delivering Producer Message).initial (initial logCb priorExit, {}) :=
  ⟨⟨logCb, priorExit, rfl⟩, rfl⟩

/-- The flag is stored between the pop and the handler call of the only
message. -/
def lateCallSchedule : List (Choice Nat Nat) :=
  List.replicate 7 .construct ++
    .enter (.producer 0) 5 :: List.replicate 5 (.call (.producer 0)) ++
    List.replicate 9 .worker ++ List.replicate 2 .destructor ++ List.replicate 8 .worker ++
    List.replicate 2 .destructor

theorem popped_message_is_delivered_late :
    ∃ pair, execute (delivering Nat Nat) (initial true false, {}) lateCallSchedule =
        some pair ∧
      pair.2.late = [5] ∧ Shutdown.joined pair.1.destructor = true ∧ Stops pair.1 pair.2 := by
  refine ⟨_, rfl, rfl, rfl, ?_⟩
  apply deliveries_stop
  exact reached_of_execute lateCallSchedule (.start (delivering_begins true false)) rfl

end IMqtt.DispatchQueue.Deliveries
