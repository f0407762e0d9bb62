import IMqtt.DispatchQueue.Fifo
import IMqtt.Library.Linearization
import IMqtt.Library.Recording

/-!
# Calls of `OnMqttMessage` that overlap

The calls are numbered as they begin. A call takes effect with its push, which
it makes under the mutex between its beginning and its return, unless it saw the
exit flag and is refused. So the messages are queued and handed over in an order
that no two callers could contradict, on whatever threads they call.
-/

namespace IMqtt.DispatchQueue.CallHistory

open IMqtt.DispatchQueue.Model IMqtt.DispatchQueue.Transitions
open IMqtt.DispatchQueue.Locking IMqtt.DispatchQueue.Fifo
open LabelledSteps Linearization

set_option autoImplicit false

universe u v

variable {Producer : Type u} {Message : Type v}

/-- The number of the call that a thread makes or has made last, and what has
become of the calls. -/
structure History (Producer : Type u) where
  number : Caller Producer → Nat := fun _ => 0
  trace : List (Event Nat) := []

def History.write (history : History Producer) (event : Event Nat) : History Producer :=
  { history with trace := history.trace ++ [event] }

variable [DecidableEq Producer]

def History.start (history : History Producer) (caller : Caller Producer) (number : Nat) :
    History Producer :=
  { number := Function.update history.number caller number
    trace := history.trace ++ [.invoked number] }

@[simp]
theorem start_number_own (history : History Producer) (caller : Caller Producer)
    (number : Nat) : (history.start caller number).number caller = number :=
  Function.update_self ..

theorem start_number_other (history : History Producer) {caller other : Caller Producer}
    (number : Nat) (different : other ≠ caller) :
    (history.start caller number).number other = history.number other :=
  Function.update_of_ne different ..

@[simp]
theorem mem_start (history : History Producer) (caller : Caller Producer) (number : Nat)
    (event : Event Nat) :
    event ∈ (history.start caller number).trace ↔
      event ∈ history.trace ∨ event = .invoked number := by
  simp [History.start]

def noteHistory (s : State Producer Message) :
    Choice Producer Message → History Producer → History Producer
  | .enter caller _, history => history.start caller s.entered.length
  | .call caller, history =>
      match s.calls caller with
      | .exitTest _ =>
          if s.messageDispatcherExit then history.write (.refused (history.number caller))
          else history
      | .push _ => history.write (.effected (history.number caller))
      | .notifyOne => history.write (.responded (history.number caller))
      | _ => history
  | _, history => history

def numbering (Producer : Type u) (Message : Type v) [DecidableEq Producer] :
    System (State Producer Message × History Producer) (Choice Producer Message) :=
  recording (system Producer Message) {} noteHistory

/-- What the history says about the calls that are being made. -/
structure Numbered (s : State Producer Message) (history : History Producer) : Prop where
  wellFormed : WellFormed history.trace
  old : ∀ event ∈ history.trace, event.operation < s.entered.length
  running : ∀ caller, s.calls caller ≠ .idle →
    .invoked (history.number caller) ∈ history.trace ∧
      ¬ Returned history.trace (history.number caller)
  owned : ∀ caller, ∀ msg ∈ unpushed (s.calls caller),
    s.entered[history.number caller]? = some (caller, msg) ∧
      .effected (history.number caller) ∉ history.trace
  took : ∀ caller, s.calls caller ≠ .idle → unpushed (s.calls caller) = [] →
    .effected (history.number caller) ∈ history.trace
  settled : ∀ number < s.entered.length,
    (∃ caller, s.calls caller ≠ .idle ∧ history.number caller = number) ∨
      Returned history.trace number
  distinct : ∀ one other, s.calls one ≠ .idle → s.calls other ≠ .idle →
    history.number one = history.number other → one = other
  content : (effects history.trace).map (fun number => s.entered[number]?) =
    s.pushed.map some
  declined : (refusals history.trace).map (fun number => s.entered[number]?) =
    s.refused.map some

section Steps

variable {s t : State Producer Message} {history : History Producer} {caller : Caller Producer}
  {pc : CallPc Message} {event : Event Nat}

omit [DecidableEq Producer] in
theorem returned_write {number : Nat} :
    Returned (history.write event).trace number ↔ Returned history.trace number ∨
      event = .responded number ∨ event = .refused number := by
  simp only [Returned, History.write, List.mem_append, List.mem_singleton]
  constructor
  · rintro ((inside | last) | (inside | last))
    · exact .inl (.inl inside)
    · exact .inr (.inl last.symm)
    · exact .inl (.inr inside)
    · exact .inr (.inr last.symm)
  · rintro ((inside | inside) | (last | last))
    · exact .inl (.inl inside)
    · exact .inr (.inl inside)
    · exact .inl (.inr last.symm)
    · exact .inr (.inr last.symm)

omit [DecidableEq Producer] in
theorem numbered_frame (before : Numbered s history) (calls : t.calls = s.calls)
    (entered : t.entered = s.entered) (pushed : t.pushed = s.pushed)
    (refused : t.refused = s.refused) : Numbered t history := by
  constructor
  · exact before.wellFormed
  · rw [entered]
    exact before.old
  · rw [calls]
    exact before.running
  · rw [calls, entered]
    exact before.owned
  · rw [calls]
    exact before.took
  · rw [calls, entered]
    exact before.settled
  · rw [calls]
    exact before.distinct
  · rw [entered, pushed]
    exact before.content
  · rw [entered, refused]
    exact before.declined

omit [DecidableEq Producer] in
theorem busy_of_unpushed {msg : Message} (member : msg ∈ unpushed pc) : pc ≠ .idle := by
  intro idle
  rw [idle] at member
  cases member

theorem busy_of_update {other : Caller Producer}
    (calling : s.calls caller ≠ .idle)
    (busy : Function.update s.calls caller pc other ≠ .idle) : s.calls other ≠ .idle := by
  by_cases own : other = caller
  · rw [own]
    exact calling
  · rw [Function.update_of_ne own] at busy
    exact busy

theorem update_busy {other : Caller Producer} (still : pc ≠ .idle)
    (busy : s.calls other ≠ .idle) : Function.update s.calls caller pc other ≠ .idle := by
  by_cases own : other = caller
  · rw [own, Function.update_self]
    exact still
  · rw [Function.update_of_ne own]
    exact busy

/-- A call goes on and the history has nothing to note. -/
theorem numbered_move (before : Numbered s history) (calling : s.calls caller ≠ .idle)
    (still : pc ≠ .idle) (same : unpushed pc = unpushed (s.calls caller))
    (calls : t.calls = Function.update s.calls caller pc) (entered : t.entered = s.entered)
    (pushed : t.pushed = s.pushed) (refused : t.refused = s.refused) : Numbered t history := by
  have messages : ∀ other, unpushed (t.calls other) = unpushed (s.calls other) := by
    intro other
    rw [calls]
    by_cases own : other = caller
    · rw [own, Function.update_self, same]
    · rw [Function.update_of_ne own]
  have busy_before : ∀ other, t.calls other ≠ .idle → s.calls other ≠ .idle := by
    intro other busy
    rw [calls] at busy
    exact busy_of_update calling busy
  constructor
  · exact before.wellFormed
  · rw [entered]
    exact before.old
  · intro other busy
    exact before.running other (busy_before other busy)
  · intro other msg member
    rw [messages other] at member
    rw [entered]
    exact before.owned other msg member
  · intro other busy nothing
    rw [messages other] at nothing
    exact before.took other (busy_before other busy) nothing
  · intro number begun
    rw [entered] at begun
    obtain ⟨other, busy, own⟩ | returned := before.settled number begun
    · left
      refine ⟨other, ?_, own⟩
      rw [calls]
      exact update_busy still busy
    · exact .inr returned
  · intro one other first second
    exact before.distinct one other (busy_before one first) (busy_before other second)
  · rw [entered, pushed]
    exact before.content
  · rw [entered, refused]
    exact before.declined

/-- A call returns, with its message pushed or refused. -/
theorem numbered_return (before : Numbered s history) (calling : s.calls caller ≠ .idle)
    (returns : event = .responded (history.number caller) ∨
      event = .refused (history.number caller))
    (formed : WellFormed (history.write event).trace)
    (calls : t.calls = Function.update s.calls caller .idle) (entered : t.entered = s.entered)
    (content : (effects (history.write event).trace).map (fun number => s.entered[number]?) =
      t.pushed.map some)
    (declined : (refusals (history.write event).trace).map (fun number => s.entered[number]?) =
      t.refused.map some) :
    Numbered t (history.write event) := by
  have here := before.running caller calling
  have operation : event.operation = history.number caller := by
    obtain rfl | rfl := returns <;> rfl
  have kept : ∀ number, .effected number ∈ (history.write event).trace ↔
      .effected number ∈ history.trace := by
    intro number
    obtain rfl | rfl := returns <;> simp [History.write]
  have apart : ∀ other, t.calls other ≠ .idle →
      t.calls other = s.calls other ∧ other ≠ caller ∧ s.calls other ≠ .idle := by
    intro other busy
    rw [calls] at busy ⊢
    have different : other ≠ caller := by
      intro own
      rw [own, Function.update_self] at busy
      exact busy rfl
    rw [Function.update_of_ne different] at busy ⊢
    exact ⟨rfl, different, busy⟩
  constructor
  · exact formed
  · intro event' member
    rw [entered]
    simp only [History.write, List.mem_append, List.mem_singleton] at member
    obtain inside | last := member
    · exact before.old event' inside
    · rw [last, operation]
      exact before.old (.invoked (history.number caller)) here.1
  · intro other busy
    obtain ⟨-, different, busy⟩ := apart other busy
    have running := before.running other busy
    have distinct : history.number caller ≠ history.number other := fun same =>
      different (before.distinct other caller busy calling same.symm)
    refine ⟨List.mem_append_left _ running.1, ?_⟩
    rw [returned_write]
    rintro (inside | same | same)
    · exact running.2 inside
    · exact distinct (operation.symm.trans (congrArg Event.operation same))
    · exact distinct (operation.symm.trans (congrArg Event.operation same))
  · intro other msg member
    rw [(apart other (busy_of_unpushed member)).1] at member
    rw [entered, kept]
    exact before.owned other msg member
  · intro other busy nothing
    obtain ⟨same, -, busy⟩ := apart other busy
    rw [same] at nothing
    rw [kept]
    exact before.took other busy nothing
  · intro number begun
    rw [entered] at begun
    rw [returned_write]
    obtain ⟨other, busy, own⟩ | returned := before.settled number begun
    · by_cases same : other = caller
      · rw [same] at own
        rw [← own]
        exact .inr (.inr returns)
      · left
        refine ⟨other, ?_, own⟩
        rw [calls, Function.update_of_ne same]
        exact busy
    · exact .inr (.inl returned)
  · intro one other first second
    exact before.distinct one other (apart one first).2.2 (apart other second).2.2
  · rw [entered]
    exact content
  · rw [entered]
    exact declined

/-- A call pushes its message. -/
theorem numbered_push {msg : Message} (before : Numbered s history)
    (here : s.calls caller = .push msg)
    (calls : t.calls = Function.update s.calls caller .unlock) (entered : t.entered = s.entered)
    (pushed : t.pushed = s.pushed ++ [(caller, msg)]) (refused : t.refused = s.refused) :
    Numbered t (history.write (.effected (history.number caller))) := by
  have calling : s.calls caller ≠ .idle := by rw [here]; simp
  have running := before.running caller calling
  have owned := before.owned caller msg (by rw [here]; simp [unpushed])
  have returned : ∀ number,
      Returned (history.write (.effected (history.number caller))).trace number ↔
        Returned history.trace number := by
    intro number
    rw [returned_write]
    simp
  constructor
  · exact .effect before.wellFormed running.1 owned.2 running.2
  · intro event member
    rw [entered]
    simp only [History.write, List.mem_append, List.mem_singleton] at member
    obtain inside | last := member
    · exact before.old event inside
    · rw [last]
      exact before.old (.invoked (history.number caller)) running.1
  · intro other busy
    rw [calls] at busy
    rw [returned]
    have still := before.running other (busy_of_update calling busy)
    exact ⟨List.mem_append_left _ still.1, still.2⟩
  · intro other msg' member
    rw [calls] at member
    have different : other ≠ caller := by
      intro own
      rw [own, Function.update_self] at member
      cases member
    rw [Function.update_of_ne different] at member
    have busy := busy_of_unpushed member
    have still := before.owned other msg' member
    rw [entered]
    refine ⟨still.1, ?_⟩
    simp only [History.write, List.mem_append, List.mem_singleton, Event.effected.injEq]
    rintro (inside | same)
    · exact still.2 inside
    · exact different (before.distinct other caller busy calling same)
  · intro other busy nothing
    by_cases own : other = caller
    · rw [own]
      exact List.mem_append_right _ (List.mem_singleton_self _)
    · rw [calls, Function.update_of_ne own] at busy nothing
      exact List.mem_append_left _ (before.took other busy nothing)
  · intro number begun
    rw [entered] at begun
    rw [returned]
    obtain ⟨other, busy, own⟩ | settled := before.settled number begun
    · left
      refine ⟨other, ?_, own⟩
      rw [calls]
      exact update_busy (by simp) busy
    · exact .inr settled
  · intro one other first second
    rw [calls] at first second
    exact before.distinct one other (busy_of_update calling first)
      (busy_of_update calling second)
  · rw [entered, pushed, History.write, effects_effected, List.map_append, List.map_append,
      before.content, List.map_singleton, List.map_singleton, owned.1]
  · rw [entered, refused, History.write, refusals_effected]
    exact before.declined

/-- A call begins under the next number. -/
theorem numbered_enter {msg : Message} (before : Numbered s history)
    (calls : t.calls = Function.update s.calls caller (.exitTest msg))
    (entered : t.entered = s.entered ++ [(caller, msg)]) (pushed : t.pushed = s.pushed)
    (refused : t.refused = s.refused) (idle : s.calls caller = .idle) :
    Numbered t (history.start caller s.entered.length) := by
  have unused : ∀ event ∈ history.trace, event.operation ≠ s.entered.length :=
    fun event member => Nat.ne_of_lt (before.old event member)
  have other_busy : ∀ other, other ≠ caller → t.calls other ≠ .idle → s.calls other ≠ .idle := by
    intro other different busy
    rw [calls, Function.update_of_ne different] at busy
    exact busy
  have older : ∀ other, s.calls other ≠ .idle → history.number other < s.entered.length :=
    fun other busy => before.old _ (before.running other busy).1
  have returned : ∀ number, Returned (history.start caller s.entered.length).trace number ↔
      Returned history.trace number := by
    intro number
    simp [Returned]
  constructor
  · exact .invoke before.wellFormed unused
  · intro event member
    rw [entered, List.length_append, List.length_singleton]
    rw [mem_start] at member
    obtain inside | last := member
    · exact Nat.lt_succ_of_lt (before.old event inside)
    · rw [last]
      exact Nat.lt_succ_self _
  · intro other busy
    by_cases own : other = caller
    · rw [own, start_number_own, returned]
      refine ⟨by simp, ?_⟩
      rintro (inside | inside) <;> exact unused _ inside rfl
    · have still := before.running other (other_busy other own busy)
      rw [start_number_other history _ own, returned]
      exact ⟨(mem_start ..).mpr (.inl still.1), still.2⟩
  · intro other msg' member
    rw [calls] at member
    by_cases own : other = caller
    · rw [own, Function.update_self] at member
      have same : msg' = msg := by simpa [unpushed] using member
      rw [own, same, start_number_own, entered]
      refine ⟨by simp, ?_⟩
      rw [mem_start]
      rintro (inside | same)
      · exact unused _ inside rfl
      · cases same
    · rw [Function.update_of_ne own] at member
      have still := before.owned other msg' member
      have inside := (List.getElem?_eq_some_iff.mp still.1).1
      rw [start_number_other history _ own, entered, List.getElem?_append_left inside]
      simp [still]
  · intro other busy nothing
    by_cases own : other = caller
    · rw [calls, own, Function.update_self] at nothing
      cases nothing
    · have still := other_busy other own busy
      rw [calls, Function.update_of_ne own] at nothing
      rw [start_number_other history _ own, mem_start]
      exact .inl (before.took other still nothing)
  · intro number begun
    rw [entered, List.length_append, List.length_singleton, Nat.lt_succ_iff_lt_or_eq] at begun
    rw [returned]
    obtain earlier | last := begun
    · obtain ⟨other, busy, own⟩ | settled := before.settled number earlier
      · left
        have different : other ≠ caller := fun same => busy (same ▸ idle)
        refine ⟨other, ?_, ?_⟩
        · rw [calls, Function.update_of_ne different]
          exact busy
        · rw [start_number_other history _ different]
          exact own
      · exact .inr settled
    · left
      refine ⟨caller, ?_, ?_⟩
      · rw [calls, Function.update_self]
        simp
      · rw [start_number_own, last]
  · intro one other first second same
    by_cases own : one = caller
    · by_cases own' : other = caller
      · rw [own, own']
      · have lower := older other (other_busy other own' second)
        rw [own, start_number_own, start_number_other history _ own'] at same
        omega
    · have lower := older one (other_busy one own first)
      by_cases own' : other = caller
      · rw [own', start_number_own, start_number_other history _ own] at same
        omega
      · rw [start_number_other history _ own, start_number_other history _ own'] at same
        exact before.distinct one other (other_busy one own first)
          (other_busy other own' second) same
  · rw [entered, pushed, History.start, effects_invoked, ← before.content]
    apply List.map_congr_left
    intro number member
    exact List.getElem?_append_left (before.old _ (mem_effects.mp member))
  · rw [entered, refused, History.start, refusals_invoked, ← before.declined]
    apply List.map_congr_left
    intro number member
    exact List.getElem?_append_left (before.old _ (mem_refusals.mp member))

end Steps

theorem numbered_step {s t : State Producer Message} {action : Choice Producer Message}
    {history : History Producer} (before : Numbered s history)
    (transition : Transition s action t) : Numbered t (noteHistory s action history) := by
  cases transition with
  | @construct member rest next => cases member <;> exact numbered_frame before rfl rfl rfl rfl
  | enter here may => exact numbered_enter before rfl rfl rfl rfl here
  | @exitSeen caller msg here exit =>
      have calling : s.calls caller ≠ .idle := by rw [here]; simp
      have running := before.running caller calling
      have owned := before.owned caller msg (by rw [here]; simp [unpushed])
      rw [noteHistory, here]
      simp only [exit, if_true]
      refine numbered_return before calling (.inr rfl) ?_ rfl rfl ?_ ?_
      · exact .refuse before.wellFormed running.1 owned.2 running.2
      · rw [History.write, effects_refused]
        exact before.content
      · rw [History.write, refusals_refused, List.map_append, List.map_singleton, owned.1,
          before.declined, ← List.map_singleton, ← List.map_append]
  | exitUnseen here exit =>
      rw [noteHistory, here]
      simp only [exit, Bool.false_eq_true, if_false]
      exact numbered_move before (by rw [here]; simp) (by simp) (by simp [here, unpushed])
        rfl rfl rfl rfl
  | callLock here | callUnlock here =>
      rw [noteHistory, here]
      exact numbered_move before (by rw [here]; simp) (by simp) (by simp [here, unpushed])
        rfl rfl rfl rfl
  | push here =>
      rw [noteHistory, here]
      exact numbered_push before here rfl rfl rfl rfl
  | @notifyOneWakes caller here _ | @notifyOneLost caller here _ =>
      have calling : s.calls caller ≠ .idle := by rw [here]; simp
      have took := before.took caller calling (by rw [here]; rfl)
      rw [noteHistory, here]
      refine numbered_return before calling (.inl rfl) ?_ rfl rfl ?_ ?_
      · exact .respond before.wellFormed took (before.running caller calling).2
      · rw [History.write, effects_responded]
        exact before.content
      · rw [History.write, refusals_responded]
        exact before.declined
  | _ => exact numbered_frame before rfl rfl rfl rfl

theorem reached_numbered {pair : State Producer Message × History Producer}
    (reached : Reached (numbering Producer Message) pair) : Numbered pair.1 pair.2 := by
  refine invariant_of_step (fun pair : State Producer Message × History Producer =>
    Numbered pair.1 pair.2) ?_ ?_ reached
  · rintro ⟨s, history⟩ ⟨⟨logCb, priorExit, begun⟩, blank⟩
    simp only at begun blank
    rw [begun, blank]
    constructor
    · exact .nil
    · intro event member
      cases member
    · intro caller busy
      exact absurd rfl busy
    · intro caller msg member
      cases member
    · intro caller busy
      exact absurd rfl busy
    · intro number begun
      cases begun
    · intro one other busy
      exact absurd rfl busy
    · rfl
    · rfl
  · intro pair action after _ before _ taken
    obtain ⟨ran, noted⟩ := recording_some taken
    rw [noted]
    exact numbered_step before (step_transition ran)

/-- The calls of which the messages have been handed over. -/
def handedCalls (s : State Producer Message) (history : History Producer) : List Nat :=
  (effects history.trace).take s.handed.length

/-- The queue works as if every call took effect at once, at a moment between its
beginning and its return, or saw the exit flag. -/
structure Linearized (s : State Producer Message) (history : History Producer) : Prop where
  wellFormed : WellFormed history.trace
  settled : ∀ number < s.entered.length,
    (∃ caller, s.calls caller ≠ .idle ∧ history.number caller = number) ∨
      (.responded number ∈ history.trace ∧ number ∈ effects history.trace) ∨
      (.refused number ∈ history.trace ∧ number ∉ effects history.trace)
  refused : (refusals history.trace).map (fun number => s.entered[number]?) =
    s.refused.map some
  once : (effects history.trace).Nodup
  pushes : (effects history.trace).map (fun number => s.entered[number]?) = s.pushed.map some
  pushOrder : ∀ earlier later, Precedes history.trace earlier later →
    earlier ∈ effects history.trace → later ∈ effects history.trace →
    [earlier, later].Sublist (effects history.trace)
  handed : (handedCalls s history).map
    (fun number => (s.entered[number]?).map Prod.snd) = s.handed.map some
  handedOrder : ∀ earlier later, Precedes history.trace earlier later →
    earlier ∈ effects history.trace → later ∈ handedCalls s history →
    [earlier, later].Sublist (handedCalls s history)

/-- Every call that has returned has pushed its message or saw the exit flag, and
a call that had returned before another one began is served first, whoever made
the two calls and whatever the threads did. -/
theorem calls_linearize (s : State Producer Message) (history : History Producer)
    (reached : Reached (numbering Producer Message) (s, history)) : Linearized s history := by
  have numbered : Numbered s history := reached_numbered reached
  have once := effects_nodup numbered.wellFormed
  have conserved := reached_conserved (reached_of_recording reached)
  have begins : handedCalls s history <+: effects history.trace := List.take_prefix _ _
  constructor
  · exact numbered.wellFormed
  · intro number begun
    obtain running | responded | refused := numbered.settled number begun
    · exact .inl running
    · exact .inr (.inl ⟨responded, responded_took numbered.wellFormed responded⟩)
    · exact .inr (.inr ⟨refused, refused_idle numbered.wellFormed refused⟩)
  · exact numbered.declined
  · exact once
  · exact numbered.content
  · intro earlier later precedes first second
    exact effects_extend_precedence numbered.wellFormed precedes first second
  · have messages := congrArg (List.map (Option.map Prod.snd)) numbered.content
    rw [List.map_map, List.map_map] at messages
    have cut := congrArg (List.take s.handed.length) messages
    rw [← List.map_take, ← List.map_take] at cut
    have messages_handed : (s.pushed.take s.handed.length).map Prod.snd = s.handed :=
      delivered_messages conserved
    have whole := congrArg (List.map some) messages_handed
    rw [List.map_map] at whole
    exact cut.trans whole
  · intro earlier later precedes first second
    exact pair_in_prefix once begins
      (effects_extend_precedence numbered.wellFormed precedes first (begins.subset second)) second

theorem numbering_begins (logCb priorExit : Bool) :
    (numbering Producer Message).initial (initial logCb priorExit, {}) :=
  ⟨⟨logCb, priorExit, rfl⟩, rfl⟩

/-- The first call overlaps the two others, which follow each other. A fourth one
comes when the destructor has begun. -/
def overlappingCallsSchedule : List (Choice Nat Nat) :=
  List.replicate 7 .construct ++
    .enter (.producer 0) 5 :: .enter (.producer 1) 6 :: List.replicate 5 (.call (.producer 1)) ++
    .enter (.producer 2) 7 :: List.replicate 5 (.call (.producer 0)) ++
    List.replicate 5 (.call (.producer 2)) ++ List.replicate 31 .worker ++
    List.replicate 2 .destructor ++ [.enter (.producer 0) 8, .call (.producer 0)]

theorem overlapping_calls_linearize :
    ∃ s history, execute (numbering Nat Nat) (initial true false, {}) overlappingCallsSchedule =
        some (s, history) ∧
      s.handed = [6, 5, 7] ∧ effects history.trace = [1, 0, 2] ∧
      refusals history.trace = [3] ∧ Precedes history.trace 1 2 ∧ Linearized s history := by
  refine ⟨_, _, rfl, rfl, rfl, rfl, ⟨[.invoked 0, .invoked 1, .effected 1, .responded 1],
    [.invoked 2, .effected 0, .responded 0, .effected 2, .responded 2, .invoked 3, .refused 3],
    rfl, by simp [Returned], by simp⟩, ?_⟩
  apply calls_linearize
  exact reached_of_execute overlappingCallsSchedule (.start (numbering_begins true false)) rfl

end IMqtt.DispatchQueue.CallHistory
