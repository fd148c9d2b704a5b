import Mathlib.Data.List.Basic

/-!
# A line that loses messages

What has been sent is on the line in its order. A message that arrives is taken from the line,
and those before it are lost (`arrives`). So whatever has arrived is a sublist of what has
been sent and is no longer on the line (`Delivered`).
-/

set_option autoImplicit false

namespace IsdnRas

universe u

variable {α : Type u}

/-- What is left on the line after some messages have arrived. `none` when a message was not
on the line. -/
def arrives [DecidableEq α] : (line arrived : List α) → Option (List α)
  | line, [] => some line
  | [], _ :: _ => none
  | sent :: line, message :: rest =>
      if sent = message then arrives line rest else arrives line (message :: rest)

/-- The first message that arrives is on the line, behind some that are lost. -/
theorem arrives_cons [DecidableEq α] {line left rest : List α} {message : α}
    (took : arrives line (message :: rest) = some left) :
    ∃ lost line', line = lost ++ message :: line' ∧ arrives line' rest = some left := by
  induction line with
  | nil => cases took
  | cons sent line ih =>
      rw [arrives] at took
      split at took
      case isTrue same => exact ⟨[], line, by rw [same]; rfl, took⟩
      case isFalse =>
          obtain ⟨lost, line', rfl, later⟩ := ih took
          exact ⟨sent :: lost, line', rfl, later⟩

/-- Of the messages sent, these have arrived and these are on the line. -/
def Delivered (sent arrived line : List α) : Prop :=
  ∃ past, sent = past ++ line ∧ arrived.Sublist past

namespace Delivered

variable {sent arrived line : List α}

theorem start : Delivered ([] : List α) [] [] := ⟨[], rfl, .slnil⟩

theorem send (delivered : Delivered sent arrived line) (more : List α) :
    Delivered (sent ++ more) arrived (line ++ more) := by
  obtain ⟨past, rfl, within⟩ := delivered
  exact ⟨past, List.append_assoc .., within⟩

theorem arrive [DecidableEq α] (messages : List α) : ∀ {arrived line left : List α},
    Delivered sent arrived line → arrives line messages = some left →
      Delivered sent (arrived ++ messages) left := by
  induction messages with
  | nil =>
      intro arrived line left delivered took
      cases line <;> cases took <;> simpa using delivered
  | cons message rest ih =>
      intro arrived line left ⟨past, same, within⟩ took
      obtain ⟨lost, line', rfl, later⟩ := arrives_cons took
      have here : Delivered sent (arrived ++ [message]) line' := by
        refine ⟨past ++ (lost ++ [message]), by simp [same], within.append ?_⟩
        exact List.sublist_append_right lost [message]
      simpa using ih here later

/-- **What has arrived was sent, in this order.** -/
theorem sublist (delivered : Delivered sent arrived line) : arrived.Sublist sent := by
  obtain ⟨past, rfl, within⟩ := delivered
  exact within.trans (List.sublist_append_left past line)

end Delivered

end IsdnRas
