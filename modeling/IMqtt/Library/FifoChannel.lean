import IMqtt.Library.LabelledSteps
import Mathlib.Data.List.Infix

/-!
# Lossless first-in first-out channel

The specification of a queue between several senders and one receiver: what
was sent, in sending order, and what was delivered so far. Nothing is said
about buffers, locks or threads.
-/

namespace FifoChannel

open LabelledSteps

set_option autoImplicit false

universe u v

structure Channel (Item : Type u) where
  sent : List Item
  delivered : List Item

inductive Event (Item : Type u)
  | send (item : Item)
  | deliver

variable {Item : Type u}

/-- The next item to deliver is the first one that was not delivered yet. -/
def step (channel : Channel Item) : Event Item → Option (Channel Item)
  | .send item => some { channel with sent := channel.sent ++ [item] }
  | .deliver =>
      match channel.sent[channel.delivered.length]? with
      | some item =>
          some { channel with delivered := channel.delivered ++ [item] }
      | none => none

def system (Item : Type u) : System (Channel Item) (Event Item) where
  initial channel := channel = ⟨[], []⟩
  step := step

theorem prefix_append_next {delivered sent : List Item} {item : Item}
    (before : delivered <+: sent)
    (next : sent[delivered.length]? = some item) :
    delivered ++ [item] <+: sent := by
  obtain ⟨waiting, rfl⟩ := before
  rw [List.getElem?_append_right (Nat.le_refl _), Nat.sub_self] at next
  cases waiting with
  | nil => simp at next
  | cons head rest =>
      have same : head = item := by simpa using next
      exact ⟨rest, by simp [same]⟩

theorem step_preserves_prefix {channel after : Channel Item}
    {event : Event Item} (before : channel.delivered <+: channel.sent)
    (taken : step channel event = some after) :
    after.delivered <+: after.sent := by
  cases event with
  | send item =>
      simp only [step, Option.some.injEq] at taken
      subst taken
      exact before.trans (List.prefix_append _ _)
  | deliver =>
      simp only [step] at taken
      split at taken
      next item next =>
        simp only [Option.some.injEq] at taken
        subst taken
        exact prefix_append_next before next
      next => simp at taken

/-- In every run the deliveries are an initial part of what was sent: nothing
is delivered twice, left out or overtaken. -/
theorem delivered_prefix_sent {channel : Channel Item}
    (reached : Reached (system Item) channel) :
    channel.delivered <+: channel.sent := by
  refine invariant_of_step
    (fun channel : Channel Item => channel.delivered <+: channel.sent)
    ?_ ?_ reached
  · rintro _ rfl
    exact List.nil_prefix
  · intro channel event after _ before _ taken
    exact step_preserves_prefix before taken

section Origins

variable {Origin : Type u} {Message : Type v} [DecidableEq Origin]

/-- The messages of one origin, in the order of the list. -/
def messagesOf (origin : Origin) (items : List (Origin × Message)) :
    List Message :=
  (items.filter fun item => item.1 = origin).map Prod.snd

@[simp]
theorem messages_of_nil (origin : Origin) :
    messagesOf origin ([] : List (Origin × Message)) = [] := rfl

@[simp]
theorem messages_of_append (origin : Origin)
    (front back : List (Origin × Message)) :
    messagesOf origin (front ++ back) =
      messagesOf origin front ++ messagesOf origin back := by
  simp [messagesOf]

@[simp]
theorem messages_of_own (origin : Origin) (message : Message) :
    messagesOf origin [(origin, message)] = [message] := by
  simp [messagesOf]

theorem messages_of_other {origin other : Origin} (message : Message)
    (different : other ≠ origin) :
    messagesOf origin [(other, message)] = [] := by
  simp [messagesOf, different]

/-- A lossless channel cannot reorder one origin's messages either. -/
theorem origin_order_kept {delivered sent called : List (Origin × Message)}
    (origin : Origin) (lossless : delivered <+: sent)
    (inOrder : (messagesOf origin sent).Sublist (messagesOf origin called)) :
    (messagesOf origin delivered).Sublist (messagesOf origin called) :=
  ((lossless.sublist.filter _).map _).trans inOrder

end Origins

end FifoChannel
