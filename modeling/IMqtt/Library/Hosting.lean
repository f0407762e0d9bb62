import IMqtt.Library.Ranking

/-!
# Systems that host another one

The outer system keeps the state of an inner one beside data of its own, and
each of its steps is a step of the inner one. What the runs of the inner system
have, and what ranks them, the outer system has as well.
-/

namespace LabelledSteps

set_option autoImplicit false

universe u v w x

variable {State : Type u} {Label : Type v} {Part : Type w} {Choice : Type x}

structure Hosting (outer : System State Label) (inner : System Part Choice) where
  part : State → Part
  choice : Label → Choice
  initial : ∀ state, outer.initial state → inner.initial (part state)
  step : ∀ state label after, outer.step state label = some after →
    inner.step (part state) (choice label) = some (part after)

namespace Hosting

variable {outer : System State Label} {inner : System Part Choice}
  (hosting : Hosting outer inner)

theorem reached_part {allowed : State → Label → Prop} {permitted : Part → Choice → Prop}
    (permits : ∀ state label, allowed state label →
      permitted (hosting.part state) (hosting.choice label))
    {state : State} (reached : ReachedUnder outer allowed state) :
    ReachedUnder inner permitted (hosting.part state) := by
  induction reached with
  | start initial => exact .start (hosting.initial _ initial)
  | next _ allows taken ih => exact .next ih (permits _ _ allows) (hosting.step _ _ _ taken)

def ranking (ranked : Ranking inner) : Ranking outer where
  rank state := ranked.rank (hosting.part state)
  paid label := ranked.paid (hosting.choice label)
  lowers state label after reached taken :=
    ranked.lowers _ _ _ (hosting.reached_part (fun _ _ => id) reached)
      (hosting.step state label after taken)

end Hosting

end LabelledSteps
