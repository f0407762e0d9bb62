import IMqtt.DispatchQueue.ExitFlag
import IMqtt.DispatchQueue.Fifo
import IMqtt.Library.Recording

/-!
# What the destructor counts

After the join nobody pops, so what the destructor counts under the mutex is
what was pushed and not handed over. `OnMqttMessage` tests the exit flag before
it takes the mutex: a call that saw `false` may push behind the count.
-/

namespace IMqtt.DispatchQueue.Shutdown

open IMqtt.DispatchQueue.Model IMqtt.DispatchQueue.Transitions
open IMqtt.DispatchQueue.Locking IMqtt.DispatchQueue.Fifo
open LabelledSteps FifoChannel

set_option autoImplicit false

universe u v

variable {Producer : Type u} {Message : Type v}

/-- The destructor is behind its call of `join`. -/
def joined : DestructorPc → Bool
  | .notStarted | .storeExit | .notifyAll | .join => false
  | _ => true

/-- The destructor is behind its call of `size`. -/
def counted : DestructorPc → Bool
  | .log _ | .inLog _ | .unlock | .finished => true
  | _ => false

/-- The destructor is behind the statement that logs the number. -/
def told : DestructorPc → Bool
  | .inLog _ | .unlock | .finished => true
  | _ => false

/-- What the destructor's call of `size` returned, and how many messages were
pushed behind it. -/
structure Count where
  size : Nat := 0
  late : Nat := 0
  deriving DecidableEq, Repr

def noteCount (s : State Producer Message) : Choice Producer Message → Count → Count
  | .destructor, count =>
      match s.destructor with
      | .count => { count with size := s.messageDispatcherQueue.length }
      | _ => count
  | .call caller, count =>
      match s.calls caller with
      | .push _ => if counted s.destructor then { count with late := count.late + 1 } else count
      | _ => count
  | _, count => count

def counting (Producer : Type u) (Message : Type v) [DecidableEq Producer] :
    System (State Producer Message × Count) (Choice Producer Message) :=
  recording (system Producer Message) {} noteCount

def lostNumber : QueueLog → Option Nat
  | .lost num => some num
  | _ => none

/-- The number in the line on lost messages, zero when there is none. -/
def loggedNumber (logged : List QueueLog) : Nat :=
  (logged.filterMap lostNumber).head?.getD 0

/-- The queue holds what was counted and what came later, and the log callback
was told the count. -/
structure CountKept (logCb : Bool) (logged : List QueueLog) (destructor : DestructorPc)
    (queue : List Message) (count : Count) : Prop where
  uncounted : counted destructor = false → count = {}
  logging : ∀ num, destructor = .log num → num = count.size ∧ num ≠ 0
  length : counted destructor = true → queue.length = count.size + count.late
  lines : logged.filterMap lostNumber =
    if logCb = true ∧ told destructor = true ∧ count.size ≠ 0 then [count.size] else []

section Kept

variable {logCb : Bool} {logged : List QueueLog} {destructor after : DestructorPc}
  {queue : List Message} {count : Count}

theorem untold_of_uncounted (before : counted destructor = false) : told destructor = false := by
  cases destructor <;> first | rfl | cases before

theorem kept_uncounted {later : List Message}
    (kept : CountKept logCb logged destructor queue count)
    (before : counted destructor = false) (still : counted after = false) :
    CountKept logCb logged after later count := by
  have lines := kept.lines
  constructor
  · intro _
    exact kept.uncounted before
  · intro num here
    rw [here] at still
    cases still
  · intro done
    rw [still] at done
    cases done
  · rw [lines, untold_of_uncounted before, untold_of_uncounted still]

/-- The destructor goes on behind its `log` call. -/
theorem kept_told (kept : CountKept logCb logged destructor queue count)
    (before : counted destructor = true) (spoken : told destructor = true)
    (still : told after = true) : CountKept logCb logged after queue count := by
  constructor
  · intro uncounted
    have untold := untold_of_uncounted uncounted
    rw [still] at untold
    cases untold
  · intro num here
    rw [here] at still
    cases still
  · intro _
    exact kept.length before
  · rw [kept.lines, spoken, still]

theorem kept_count_none (kept : CountKept logCb logged .count queue count)
    (empty : queue = []) :
    CountKept logCb logged .unlock queue { count with size := queue.length } := by
  have nothing : count = {} := kept.uncounted rfl
  have lines := kept.lines
  constructor
  · intro uncounted
    cases uncounted
  · intro num here
    cases here
  · intro _
    rw [nothing]
    rfl
  · rw [lines, empty]
    simp [told]

theorem kept_count_lost (kept : CountKept logCb logged .count queue count)
    (filled : queue ≠ []) :
    CountKept logCb logged (.log queue.length) queue { count with size := queue.length } := by
  have nothing : count = {} := kept.uncounted rfl
  have lines := kept.lines
  constructor
  · intro uncounted
    cases uncounted
  · intro num here
    cases here
    exact ⟨rfl, fun empty => filled (List.length_eq_zero_iff.mp empty)⟩
  · intro _
    rw [nothing]
    rfl
  · rw [lines]
    simp [told]

theorem kept_lost_log {num : Nat} (kept : CountKept logCb logged (.log num) queue count) :
    CountKept logCb (if logCb then logged ++ [.lost num] else logged) (.inLog num) queue
      count := by
  rcases kept.logging num rfl with ⟨number, some_lost⟩
  have silent : logged.filterMap lostNumber = [] := by
    rw [kept.lines]
    simp [told]
  constructor
  · intro uncounted
    cases uncounted
  · intro other here
    cases here
  · intro _
    exact kept.length rfl
  · rw [← number]
    cases logCb with
    | false => simpa using silent
    | true => simp [List.filterMap_append, silent, lostNumber, told, some_lost]

theorem kept_line {line : QueueLog} (kept : CountKept logCb logged destructor queue count)
    (other : lostNumber line = none) :
    CountKept logCb (if logCb then logged ++ [line] else logged) destructor queue count := by
  refine ⟨kept.uncounted, kept.logging, kept.length, ?_⟩
  rw [← kept.lines]
  cases logCb with
  | false => rfl
  | true => simp [List.filterMap_append, other]

theorem kept_push {msg : Message} (kept : CountKept logCb logged destructor queue count) :
    CountKept logCb logged destructor (queue ++ [msg])
      (if counted destructor then { count with late := count.late + 1 } else count) := by
  cases done : counted destructor with
  | false => exact kept_uncounted kept done done
  | true =>
      constructor
      · intro uncounted
        rw [done] at uncounted
        cases uncounted
      · exact kept.logging
      · intro _
        rw [List.length_append, kept.length done]
        simp only [List.length_singleton, if_true]
        omega
      · exact kept.lines

end Kept

variable [DecidableEq Producer]

theorem joined_of_counted {destructor : DestructorPc} (done : counted destructor = true) :
    joined destructor = true := by
  cases destructor <;> first | rfl | cases done

/-- The destructor is behind its join only once the worker has ended. -/
def WorkerJoined (s : State Producer Message) : Prop :=
  joined s.destructor = true → s.worker = .finished

theorem worker_joined_step {s t : State Producer Message} {action : Choice Producer Message}
    (building : Constructing s) (before : WorkerJoined s)
    (transition : Transition s action t) : WorkerJoined t := by
  cases transition with
  | @construct member rest next =>
      have waiting := building.destructorWaits (by simp [next])
      intro done
      have same : (initialise member { s with uninitialised := rest }).destructor =
          s.destructor := by cases member <;> rfl
      rw [same, waiting] at done
      cases done
  | join here ended => exact fun _ => ended
  | unlockExit here => exact fun _ => rfl
  | destructorLock here | countNone here | countLost here | lostLog here
  | lostLogged here | destructorUnlock here =>
      exact fun _ => before (by rw [here]; rfl)
  | destructorStart _ _ | storeExit _ | notifyAllWakes _ _ | notifyAllLost _ _ =>
      intro done
      cases done
  | workerLog here | workerLogged here | workerLock here | loopLeave here | loopBody here
  | waitReady here | waitFalse here | block here | relockWait here | ifTake here
  | ifSkip here | pop here | unlock here | handOver here | handlerReturned here
  | relock here | spurious here | notifyOneWakes _ here =>
      intro done
      have ended := before done
      rw [here] at ended
      cases ended
  | _ => exact before

theorem reached_worker_joined {s : State Producer Message}
    (reached : Reached (system Producer Message) s) : WorkerJoined s := by
  apply invariant_of_step WorkerJoined _ _ reached
  · intro state start
    rcases start with ⟨logCb, priorExit, rfl⟩
    intro done
    cases done
  · intro s action t reached before _ taken
    exact worker_joined_step (reached_constructing reached) before (step_transition taken)

def CountKeptIn (s : State Producer Message) (count : Count) : Prop :=
  CountKept s.logCb s.logged s.destructor s.messageDispatcherQueue count

theorem count_kept_step {s t : State Producer Message} {action : Choice Producer Message}
    {count : Count} (building : Constructing s) (ended : WorkerJoined s)
    (before : CountKeptIn s count) (transition : Transition s action t) :
    CountKeptIn t (noteCount s action count) := by
  cases transition with
  | @construct member rest next =>
      have waiting := building.destructorWaits (by simp [next])
      have uncounted : counted s.destructor = false := by rw [waiting]; rfl
      cases member <;> exact kept_uncounted before uncounted uncounted
  | @workerLog site here =>
      have line : lostNumber (site.line s) = none := by cases site <;> rfl
      exact kept_line before line
  | pop here front =>
      have uncounted : counted s.destructor = false := by
        cases done : counted s.destructor with
        | false => rfl
        | true =>
            have finished := ended (joined_of_counted done)
            rw [here] at finished
            cases finished
      exact kept_uncounted before uncounted uncounted
  | @push caller msg here =>
      have noted : noteCount s (.call caller) count =
          if counted s.destructor then { count with late := count.late + 1 } else count := by
        rw [noteCount, here]
      rw [noted]
      exact kept_push before
  | exitSeen here | exitUnseen here | callLock here | callUnlock here
  | notifyOneWakes here | notifyOneLost here =>
      rw [noteCount, here]
      exact before
  | destructorStart here | storeExit here | notifyAllWakes here | notifyAllLost here
  | join here | destructorLock here =>
      rw [noteCount, here]
      exact kept_uncounted before (by rw [here]; rfl) rfl
  | countNone here empty =>
      rw [noteCount, here]
      unfold CountKeptIn at before
      rw [here] at before
      exact kept_count_none before empty
  | countLost here filled =>
      rw [noteCount, here]
      unfold CountKeptIn at before
      rw [here] at before
      exact kept_count_lost before filled
  | lostLog here =>
      rw [noteCount, here]
      unfold CountKeptIn at before
      rw [here] at before
      exact kept_lost_log before
  | lostLogged here | destructorUnlock here =>
      rw [noteCount, here]
      exact kept_told before (by rw [here]; rfl) (by rw [here]; rfl) rfl
  | _ => exact before

theorem reached_count_kept {pair : State Producer Message × Count}
    (reached : Reached (counting Producer Message) pair) : CountKeptIn pair.1 pair.2 := by
  apply invariant_of_step
    (fun pair : State Producer Message × Count => CountKeptIn pair.1 pair.2) _ _ reached
  · intro pair start
    rcases pair with ⟨s, count⟩
    rcases start with ⟨⟨logCb, priorExit, begins⟩, blank⟩
    have none_noted : count = {} := blank
    have begun : s = initial logCb priorExit := begins
    rw [none_noted, begun]
    constructor
    · intro _
      rfl
    · intro num here
      cases here
    · intro done
      cases done
    · simp [initial, told]
  · intro pair action after reached before _ taken
    rcases recording_some taken with ⟨ran, noted⟩
    have within := reached_of_recording reached
    rw [noted]
    exact count_kept_step (reached_constructing within) (reached_worker_joined within) before
      (step_transition ran)

/-- A caller's messages are those it pushed, those whose call saw the exit flag,
and the one of the call it is making. -/
def CallsSplit (s : State Producer Message) : Prop :=
  ∀ caller, (messagesOf caller s.entered).Perm
    (messagesOf caller s.pushed ++ (messagesOf caller s.refused ++ unpushed (s.calls caller)))

theorem calls_split_move {s t : State Producer Message} {caller : Caller Producer}
    {pc : CallPc Message} (before : CallsSplit s)
    (same : unpushed pc = unpushed (s.calls caller))
    (calls : t.calls = Function.update s.calls caller pc) (entered : t.entered = s.entered)
    (pushed : t.pushed = s.pushed) (refused : t.refused = s.refused) : CallsSplit t := by
  intro other
  rw [calls, entered, pushed, refused]
  by_cases own : other = caller
  · rw [own, Function.update_self, same]
    exact before caller
  · rw [Function.update_of_ne own]
    exact before other

theorem calls_split_step {s t : State Producer Message} {action : Choice Producer Message}
    (before : CallsSplit s) (transition : Transition s action t) : CallsSplit t := by
  cases transition with
  | @construct member rest next => cases member <;> exact before
  | @enter caller msg here =>
      intro other
      have prior := before other
      by_cases own : other = caller
      · subst own
        simp only [here, unpushed, List.append_nil] at prior
        simpa [unpushed] using prior.append_right [msg]
      · simpa [own, messages_of_other, Ne.symm own] using prior
  | @exitSeen caller msg here =>
      intro other
      have prior := before other
      by_cases own : other = caller
      · subst own
        simpa [here, unpushed] using prior
      · simpa [own, messages_of_other, Ne.symm own] using prior
  | @push caller msg here =>
      intro other
      have prior := before other
      by_cases own : other = caller
      · subst own
        simp only [here, unpushed] at prior
        -- the message moves in front of the refused ones
        have moved : (messagesOf other s.refused ++ [msg]).Perm
            ([msg] ++ messagesOf other s.refused) := List.perm_append_comm
        simpa [unpushed] using prior.trans (moved.append_left _)
      · simpa [own, messages_of_other, Ne.symm own] using prior
  | exitUnseen here | callLock here | callUnlock here | notifyOneWakes here
  | notifyOneLost here =>
      exact calls_split_move before (by rw [here]; rfl) rfl rfl rfl rfl
  | _ => exact before

theorem reached_calls_split {s : State Producer Message}
    (reached : Reached (system Producer Message) s) : CallsSplit s := by
  apply invariant_of_step CallsSplit _ _ reached
  · intro state start
    rcases start with ⟨logCb, priorExit, rfl⟩
    intro caller
    exact List.Perm.refl _
  · intro s action t _ before _ taken
    exact calls_split_step before (step_transition taken)

def CallPc.pushes : CallPc Message → Bool
  | .push _ => true
  | _ => false

/-- No call pushes behind the destructor's count, and what the destructor counts
it can tell to a log callback. -/
def Accountable (s : State Producer Message) : Choice Producer Message → Prop
  | .call caller => CallPc.pushes (s.calls caller) = true → counted s.destructor = false
  | .destructor => s.destructor = .count → s.logCb = true ∨ s.messageDispatcherQueue.length = 0
  | _ => True

instance (s : State Producer Message) : ∀ action, Decidable (Accountable s action)
  | .call caller => inferInstanceAs
      (Decidable (CallPc.pushes (s.calls caller) = true → counted s.destructor = false))
  | .destructor => inferInstanceAs (Decidable (s.destructor = .count →
      s.logCb = true ∨ s.messageDispatcherQueue.length = 0))
  | .construct | .worker | .spuriousWakeup | .enter _ _ => .isTrue trivial

/-- Nothing came late, and the number could be told. -/
def Tellable (s : State Producer Message) (count : Count) : Prop :=
  count.late = 0 ∧ (s.logCb = true ∨ count.size = 0)

theorem tellable_step {s t : State Producer Message} {action : Choice Producer Message}
    {count : Count} (allowed : Accountable s action) (before : Tellable s count)
    (transition : Transition s action t) : Tellable t (noteCount s action count) := by
  cases transition with
  | @construct member rest next => cases member <;> exact before
  | @push caller msg here =>
      have uncounted : counted s.destructor = false := allowed (by rw [here]; rfl)
      rw [noteCount, here]
      simp only [uncounted, Bool.false_eq_true, if_false]
      exact before
  | countNone here _ | countLost here _ =>
      rw [noteCount, here]
      exact ⟨before.1, allowed here⟩
  | exitSeen here | exitUnseen here | callLock here | callUnlock here
  | notifyOneWakes here | notifyOneLost here | destructorStart here | storeExit here
  | notifyAllWakes here | notifyAllLost here | join here | destructorLock here
  | lostLog here | lostLogged here | destructorUnlock here =>
      rw [noteCount, here]
      exact before
  | _ => exact before

/-- The destructor and every call have finished. -/
def Final (s : State Producer Message) : Prop :=
  s.destructor = .finished ∧ ∀ caller, s.calls caller = .idle

/-- Every pushed message was handed over or is one of those in the number that
was logged, and every other message's call saw the exit flag. -/
structure Accounted (s : State Producer Message) : Prop where
  messages : ∃ left, s.pushed.map Prod.snd = s.handed ++ left ∧
    left.length = loggedNumber s.logged
  number : loggedNumber s.logged = s.pushed.length - s.handed.length
  lines : s.logged.filterMap lostNumber =
    if loggedNumber s.logged = 0 then [] else [loggedNumber s.logged]
  calls : ∀ caller, (messagesOf caller s.entered).Perm
    (messagesOf caller s.pushed ++ messagesOf caller s.refused)

section Final

variable {s : State Producer Message} {count : Count}
  (reached : Reached (counting Producer Message) (s, count)) (final : Final s)

include reached final

theorem left_behind :
    s.pushed.map Prod.snd = s.handed ++ s.messageDispatcherQueue ∧
      s.messageDispatcherQueue.length = count.size + count.late := by
  have within : Reached (system Producer Message) s := reached_of_recording reached
  have ended : s.worker = .finished :=
    reached_worker_joined within (by rw [final.1]; rfl)
  have conserved := reached_conserved within
  have kept : CountKeptIn s count := reached_count_kept reached
  constructor
  · unfold Conserved at conserved
    simpa [ended, popped] using conserved
  · exact kept.length (by rw [final.1]; rfl)

theorem final_lines :
    s.logged.filterMap lostNumber =
      if s.logCb = true ∧ count.size ≠ 0 then [count.size] else [] := by
  have kept : CountKeptIn s count := reached_count_kept reached
  have lines := kept.lines
  rw [final.1] at lines
  simpa [told] using lines

/-- Without a log callback nothing is logged, whatever was counted. -/
theorem final_number :
    loggedNumber s.logged = if s.logCb = true then count.size else 0 := by
  rw [loggedNumber, final_lines reached final]
  by_cases listens : s.logCb = true
  · by_cases nothing : count.size = 0 <;> simp [listens, nothing]
  · simp [listens]

theorem accounted_iff_tellable : Accounted s ↔ Tellable s count := by
  rcases left_behind reached final with ⟨conserved, length⟩
  have number := final_number reached final
  have lengths : s.pushed.length = s.handed.length + (count.size + count.late) := by
    rw [← length, ← List.length_append, ← conserved, List.length_map]
  constructor
  · intro accounted
    have told := accounted.number
    by_cases listens : s.logCb = true
    · rw [if_pos listens] at number
      exact ⟨by omega, .inl listens⟩
    · rw [if_neg listens] at number
      exact ⟨by omega, .inr (by omega)⟩
  · rintro ⟨none_late, tellable⟩
    have whole : loggedNumber s.logged = count.size := by
      rw [number]
      rcases tellable with listens | nothing
      · rw [if_pos listens]
      · rw [nothing, ite_self]
    constructor
    · exact ⟨s.messageDispatcherQueue, conserved, by rw [length, none_late, whole]; rfl⟩
    · omega
    · rw [whole, final_lines reached final]
      rcases tellable with listens | nothing
      · by_cases nothing : count.size = 0 <;> simp [listens, nothing]
      · simp [nothing]
    · intro caller
      have split := reached_calls_split (reached_of_recording reached) caller
      simpa [final.2 caller, unpushed] using split

end Final

/-- In a run without a push behind the count, and with a log callback if
anything is left to count, every accepted message is accounted for; a final
state of any other run has a wrong number. -/
theorem shutdown_accounts_for_every_message :
    (∀ s : State Producer Message, ReachedUnder (system Producer Message) Accountable s →
      Final s → Accounted s) ∧
    ∀ (s : State Producer Message) count, Reached (counting Producer Message) (s, count) →
      Final s → (Accounted s ↔ count.late = 0 ∧ (s.logCb = true ∨ count.size = 0)) := by
  constructor
  · intro s reached final
    have noted : ∃ count, ReachedUnder (counting Producer Message)
        (fun pair => Accountable pair.1) (s, count) := recording_of_reached reached
    rcases noted with ⟨count, recorded⟩
    have tellable : Tellable s count := by
      apply invariant_of_step
        (fun pair : State Producer Message × Count => Tellable pair.1 pair.2) _ _ recorded
      · intro pair start
        rw [start.2]
        exact ⟨rfl, .inr rfl⟩
      · intro pair action after _ before allowed taken
        rcases recording_some taken with ⟨ran, noted⟩
        rw [noted]
        exact tellable_step allowed before (step_transition ran)
    exact (accounted_iff_tellable (reached_of_reached_under recorded) final).mpr tellable
  · intro s count reached final
    exact accounted_iff_tellable reached final

/-- Two messages are pushed, one of them is handed over. -/
def lostMessageSchedule : List (Choice Nat Nat) :=
  List.replicate 7 .construct ++
    .enter (.producer 0) 5 :: List.replicate 5 (.call (.producer 0)) ++
    .enter (.producer 0) 6 :: List.replicate 5 (.call (.producer 0)) ++
    List.replicate 11 .worker ++ List.replicate 3 .destructor ++ List.replicate 6 .worker ++
    List.replicate 6 .destructor

theorem lost_message_is_accounted_for :
    ∃ s, execute (system Nat Nat) (initial true false) lostMessageSchedule = some s ∧
      loggedNumber s.logged = 1 ∧ s.handed = [5] ∧ Accounted s := by
  refine ⟨_, rfl, rfl, rfl, ?_⟩
  apply shutdown_accounts_for_every_message.1
  · exact reached_under_of_execute lostMessageSchedule (.start ⟨true, false, rfl⟩)
      (by decide) rfl
  · refine ⟨rfl, ?_⟩
    intro caller
    rcases caller with ⟨_ | id⟩ | _ | _ <;> rfl

/-- The producer has seen the flag unset and pushes when the destructor has
counted. -/
def lateMessageSchedule : List (Choice Nat Nat) :=
  List.replicate 7 .construct ++
    .enter (.producer 0) 5 :: .call (.producer 0) :: List.replicate 3 .destructor ++
    List.replicate 7 .worker ++ List.replicate 4 .destructor ++
    List.replicate 4 (.call (.producer 0))

theorem late_message_is_not_accounted_for :
    ∃ s, execute (system Nat Nat) (initial true false) lateMessageSchedule = some s ∧
      Final s ∧ s.pushed.map Prod.snd = [5] ∧ s.handed = [] ∧
      s.refused = [] ∧ s.logged.filterMap lostNumber = [] ∧ ¬ Accounted s := by
  refine ⟨_, rfl, ⟨rfl, ?_⟩, rfl, rfl, rfl, rfl, ?_⟩
  · intro caller
    rcases caller with ⟨_ | id⟩ | _ | _ <;> rfl
  · intro accounted
    exact absurd accounted.number (by decide)

end IMqtt.DispatchQueue.Shutdown
