import Mathlib

/-!
# Histories in which every event follows from what was before it

A history is a list of events, latest first. `follows` says which events a history may go
on with; `Chronicle` is a history all of whose events obey it. An invariant about what
happened in a system is then a fact about such lists, and needs no step of the system.
-/
namespace AutomationTool

universe u

variable {ε : Type u} {follows : List ε → ε → Prop}

def Chronicle (follows : List ε → ε → Prop) : List ε → Prop
  | [] => True
  | e :: history => follows history e ∧ Chronicle follows history

namespace Chronicle

theorem drop {later history : List ε} (h : Chronicle follows (later ++ history)) :
    Chronicle follows history := by
  induction later with
  | nil => exact h
  | cons e later ih => exact ih h.2

/-- An event of the history, by what was before it. -/
theorem of_split {later earlier : List ε} {e : ε} (h : Chronicle follows (later ++ e :: earlier)) :
    follows earlier e ∧ Chronicle follows earlier := h.drop

theorem of_mem {history : List ε} {e : ε} (h : Chronicle follows history) (he : e ∈ history) :
    ∃ earlier, earlier <:+ history ∧ follows earlier e := by
  obtain ⟨later, earlier, rfl⟩ := List.append_of_mem he
  exact ⟨earlier, ⟨later ++ [e], by simp⟩, h.of_split.1⟩

end Chronicle
end AutomationTool
