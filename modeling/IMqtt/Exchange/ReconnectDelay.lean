import Mathlib.Algebra.Ring.Nat
import IMqtt.Mosquitto.Settings
import IMqtt.Paho.ConnectOptions

/-!
# The reconnect delays that reach the libraries

Both constructors refuse bounds that no number can be drawn between. The
minimum, the drawn number and the maximum are not compared with each other, and
the sum of the first two is an `int`.
-/

namespace IMqtt.Exchange.ReconnectDelay

open IMqtt.Client

set_option autoImplicit false

def Drawn (params : InitializeParameters) (draw : Int32) : Prop :=
  params.reconnectDelayMinLower ≤ draw ∧ draw ≤ params.reconnectDelayMinUpper

instance (params : InitializeParameters) (draw : Int32) : Decidable (Drawn params draw) :=
  inferInstanceAs (Decidable
    (params.reconnectDelayMinLower ≤ draw ∧ draw ≤ params.reconnectDelayMinUpper))

/-- The sum of two `int` values is one. -/
def SumFits (left right : Int32) : Prop :=
  -2147483648 ≤ left.toInt + right.toInt ∧ left.toInt + right.toInt ≤ 2147483647

instance (left right : Int32) : Decidable (SumFits left right) :=
  inferInstanceAs (Decidable (-2147483648 ≤ left.toInt + right.toInt ∧
    left.toInt + right.toInt ≤ 2147483647))

def InOrder (delay delayMax : Int32) : Prop := 0 ≤ delay ∧ delay ≤ delayMax

/-- What libmosquitto is given, for every draw and however the construction
ends. -/
def MosquittoInRange (Handle : Type) [DecidableEq Handle] (withTls : Bool)
    (params : InitializeParameters) : Prop :=
  ∀ (results : Mosquitto.Construct.Results Handle)
    (before : Mosquitto.Construct.World Handle), Drawn params results.draw →
      SumFits params.reconnectDelayMin results.draw ∧
      ∀ delay delayMax, .reconnectDelay delay delayMax ∈
        Mosquitto.Settings.settingsSince before (Throwing.outcome
          (Mosquitto.Construct.construct withTls params results) before).2 →
        InOrder delay delayMax

def PahoInRange (withTls : Bool) (params : InitializeParameters) : Prop :=
  ∀ draw, Drawn params draw → SumFits params.reconnectDelayMin draw ∧
    InOrder (Paho.ConnectOptions.connectOptions withTls params draw).minRetryInterval
      (Paho.ConnectOptions.connectOptions withTls params draw).maxRetryInterval

/-- The least sum is not negative and the greatest not above the maximum. -/
structure Bounded (params : InitializeParameters) : Prop where
  lower : 0 ≤ params.reconnectDelayMin.toInt + params.reconnectDelayMinLower.toInt
  upper : params.reconnectDelayMin.toInt + params.reconnectDelayMinUpper.toInt ≤
    params.reconnectDelayMax.toInt

theorem sum_to_int {left right : Int32} (fits : SumFits left right) :
    (left + right).toInt = left.toInt + right.toInt := by
  rcases fits with ⟨least, greatest⟩
  rw [Int32.toInt_add]
  apply Int.bmod_eq_of_le <;> omega

theorem in_order_iff {left right delayMax : Int32} (fits : SumFits left right) :
    InOrder (left + right) delayMax ↔
      0 ≤ left.toInt + right.toInt ∧ left.toInt + right.toInt ≤ delayMax.toInt := by
  rw [InOrder, Int32.le_iff_toInt_le, Int32.le_iff_toInt_le, sum_to_int fits,
    Int32.toInt_zero]

/-- In range for every draw. -/
def SumsInRange (params : InitializeParameters) : Prop :=
  ∀ draw, Drawn params draw → SumFits params.reconnectDelayMin draw ∧
    InOrder (params.reconnectDelayMin + draw) params.reconnectDelayMax

theorem sums_in_range_iff {params : InitializeParameters}
    (accepted : ¬ reconnectDelayRefused params) : SumsInRange params ↔ Bounded params := by
  have ordered : params.reconnectDelayMinLower ≤ params.reconnectDelayMinUpper := by
    apply Int32.not_lt.mp
    intro reversed
    exact accepted (.inr (.inr reversed))
  have positive : 0 ≤ params.reconnectDelayMinLower.toInt := by
    rw [← Int32.toInt_zero, ← Int32.le_iff_toInt_le]
    apply Int32.not_lt.mp
    intro negative
    exact accepted (.inl negative)
  constructor
  · intro ranged
    rcases ranged params.reconnectDelayMinLower ⟨Int32.le_refl _, ordered⟩ with
      ⟨fits, least⟩
    rcases ranged params.reconnectDelayMinUpper ⟨ordered, Int32.le_refl _⟩ with
      ⟨fitsToo, greatest⟩
    rw [in_order_iff fits] at least
    rw [in_order_iff fitsToo] at greatest
    exact ⟨least.1, greatest.2⟩
  · intro bounded draw drawn
    have above := Int32.le_iff_toInt_le.mp drawn.1
    have below := Int32.le_iff_toInt_le.mp drawn.2
    have lower := bounded.lower
    have upper := bounded.upper
    have largest := Int32.toInt_lt params.reconnectDelayMax
    have fits : SumFits params.reconnectDelayMin draw := by
      constructor <;> omega
    refine ⟨fits, (in_order_iff fits).mpr ?_⟩
    constructor <;> omega

section Mosquitto

open Mosquitto.Construct Mosquitto.Settings

theorem delay_of_construct_settings {withTls : Bool} {params : InitializeParameters}
    {draw delay delayMax : Int32}
    (listed : .reconnectDelay delay delayMax ∈ constructSettings withTls params draw) :
    delay = params.reconnectDelayMin + draw ∧ delayMax = params.reconnectDelayMax := by
  rw [constructSettings, List.mem_append, List.mem_cons] at listed
  rcases listed with login | same | files
  · rw [credentialSettings] at login
    split at login <;> simp at login
  · cases same
    exact ⟨rfl, rfl⟩
  · rw [tlsSettings] at files
    split at files <;> simp at files

variable (Handle : Type) [DecidableEq Handle]

theorem mosquitto_in_range_iff (withTls : Bool) {params : InitializeParameters}
    (accepted : ¬ reconnectDelayRefused params) :
    MosquittoInRange Handle withTls params ↔ SumsInRange params := by
  constructor
  · intro ranged draw drawn
    rcases ranged (smooth draw) secondClient drawn with ⟨fits, handed⟩
    refine ⟨fits, handed _ _ ?_⟩
    rw [(settings_since_construct withTls params _ _).2
      (smooth_returns withTls accepted draw)]
    exact List.mem_append_right _ List.mem_cons_self
  · intro ranged results before drawn
    rcases ranged results.draw drawn with ⟨fits, ordered⟩
    refine ⟨fits, ?_⟩
    intro delay delayMax handed
    have part := (settings_since_construct withTls params results before).1
    rcases delay_of_construct_settings (part.subset handed) with ⟨same, greatest⟩
    rw [same, greatest]
    exact ordered

end Mosquitto

/-- What the constructors would have to check. -/
theorem delays_in_range_iff (Handle : Type) [DecidableEq Handle] (withTls : Bool)
    {params : InitializeParameters} (accepted : ¬ reconnectDelayRefused params) :
    (MosquittoInRange Handle withTls params ↔ Bounded params) ∧
      (PahoInRange withTls params ↔ Bounded params) := by
  have sums := sums_in_range_iff accepted
  exact ⟨(mosquitto_in_range_iff Handle withTls accepted).trans sums, sums⟩

/-- The drawn number is between 1 and 5. -/
def jittered : InitializeParameters :=
  { reconnectDelayMinLower := 1, reconnectDelayMinUpper := 5 }

theorem jittered_delays_in_range :
    MosquittoInRange Nat true jittered ∧ PahoInRange true jittered ∧ Drawn jittered 3 := by
  have accepted : ¬ reconnectDelayRefused jittered := by decide
  have bounded : Bounded jittered := by constructor <;> decide
  rcases delays_in_range_iff Nat true accepted with ⟨mosquitto, paho⟩
  exact ⟨mosquitto.mpr bounded, paho.mpr bounded, by decide⟩

/-- Delays that both constructors accept: a minimum above the maximum, and a
sum that is no `int`. -/
def minimumAboveMaximum : InitializeParameters := { reconnectDelayMin := 40 }

def unboundedMinimum : InitializeParameters :=
  { reconnectDelayMin := 2147483647, reconnectDelayMinLower := 1, reconnectDelayMinUpper := 1 }

theorem accepted_delays_out_of_range :
    ¬ reconnectDelayRefused minimumAboveMaximum ∧ Drawn minimumAboveMaximum 0 ∧
      ¬ MosquittoInRange Nat true minimumAboveMaximum ∧
      ¬ PahoInRange true minimumAboveMaximum ∧
      ¬ reconnectDelayRefused unboundedMinimum ∧ Drawn unboundedMinimum 1 ∧
      ¬ SumFits unboundedMinimum.reconnectDelayMin 1 := by
  have accepted : ¬ reconnectDelayRefused minimumAboveMaximum := by decide
  have unordered : ¬ SumsInRange minimumAboveMaximum := by
    intro ranged
    have ordered := (ranged 0 (by decide)).2
    exact absurd ordered.2 (by decide)
  refine ⟨accepted, by decide, ?_, unordered, by decide, by decide, by decide⟩
  rw [mosquitto_in_range_iff Nat true accepted]
  exact unordered

end IMqtt.Exchange.ReconnectDelay
