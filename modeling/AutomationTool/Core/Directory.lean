import Mathlib

/-!
# Directories

What the names of a directory stand for. A file that is written is a file of its own; a symbolic
link is seen as what it leads to, unless it is asked for itself.

* `removeAll_apply`: what is left after names were removed, some of which resist.
-/
namespace AutomationTool

inductive FileEntry (β : Type) where
  | file (content : β)
  | folder
  /-- A symbolic link, and whether it leads to anything. -/
  | link (leads : Bool)
  deriving DecidableEq

abbrev FileTree (α β : Type) := α → Option (FileEntry β)

namespace FileTree

variable {α β : Type} [DecidableEq α]

/-- `os.path.exists`. -/
def there : Option (FileEntry β) → Bool
  | none => false
  | some (.link leads) => leads
  | some _ => true

def isFolder : Option (FileEntry β) → Bool
  | some .folder => true
  | _ => false

def isFile : Option (FileEntry β) → Bool
  | some (.file _) => true
  | _ => false

def put (name : α) (content : β) (d : FileTree α β) : FileTree α β :=
  Function.update d name (some (.file content))

def drop (name : α) (d : FileTree α β) : FileTree α β := Function.update d name none

/-- `unlink(missing_ok=True)`; the removal of some names fails. -/
def remove (stuck : α → Bool) (name : α) (d : FileTree α β) : FileTree α β :=
  if stuck name || isFolder (d name) then d else drop name d

def removeAll (stuck : α → Bool) (names : List α) (d : FileTree α β) : FileTree α β :=
  names.foldl (fun d name => remove stuck name d) d

@[simp] theorem put_self (name : α) (content : β) (d : FileTree α β) :
    put name content d name = some (.file content) := Function.update_self ..

theorem put_ne {name other : α} (h : other ≠ name) (content : β) (d : FileTree α β) :
    put name content d other = d other := Function.update_of_ne h ..

@[simp] theorem drop_self (name : α) (d : FileTree α β) : drop name d name = none :=
  Function.update_self ..

theorem drop_ne {name other : α} (h : other ≠ name) (d : FileTree α β) :
    drop name d other = d other := Function.update_of_ne h ..

/-- A file made under a free name and dropped again. -/
theorem drop_put {name : α} {d : FileTree α β} (h : d name = none) (content : β) :
    drop name (put name content d) = d := by
  rw [drop, put, Function.update_idem, ← h, Function.update_eq_self]

theorem drop_of_none {name : α} {d : FileTree α β} (h : d name = none) : drop name d = d := by
  rw [drop, ← h, Function.update_eq_self]

theorem remove_put {stuck : α → Bool} {name : α} {d : FileTree α β} (hname : d name = none)
    (content : β) :
    remove stuck name (put name content d) = if stuck name then put name content d else d := by
  by_cases hstuck : stuck name = true
  · rw [remove, if_pos (by rw [hstuck, Bool.true_or]), if_pos hstuck]
  · have hno := eq_false_of_ne_true hstuck
    rw [remove, put_self, hno, if_neg Bool.false_ne_true, drop_put hname]
    rfl

theorem put_comm {name other : α} (h : name ≠ other) (content content' : β) (d : FileTree α β) :
    put name content (put other content' d) = put other content' (put name content d) :=
  (Function.update_comm h ..).symm

theorem remove_apply (stuck : α → Bool) (name other : α) (d : FileTree α β) :
    remove stuck name d other =
      if other = name ∧ stuck name = false ∧ isFolder (d name) = false then none else d other := by
  by_cases hkept : (stuck name || isFolder (d name)) = true
  · rw [remove, if_pos hkept, if_neg fun h => ?_]
    rw [h.2.1, h.2.2] at hkept
    exact nomatch hkept
  · rw [remove, if_neg hkept]
    obtain ⟨hstuck, hfolder⟩ := Bool.or_eq_false_iff.1 (eq_false_of_ne_true hkept)
    by_cases hname : other = name
    · subst hname
      rw [if_pos ⟨rfl, hstuck, hfolder⟩, drop_self]
    · rw [if_neg fun h => hname h.1, drop_ne hname]

theorem removeAll_apply (stuck : α → Bool) (names : List α) (d : FileTree α β) (other : α) :
    removeAll stuck names d other =
      if other ∈ names ∧ stuck other = false ∧ isFolder (d other) = false then none else d other := by
  induction names generalizing d with
  | nil => simp [removeAll]
  | cons name names ih =>
    rw [show removeAll stuck (name :: names) d = removeAll stuck names (remove stuck name d) from
      rfl, ih, remove_apply]
    by_cases hname : other = name
    · subst hname
      by_cases hgone : stuck other = false ∧ isFolder (d other) = false
      · simp [hgone]
      · simp only [hgone, and_false, if_false]
    · simp [hname]

/-- A file under another name plays no part in a removal. -/
theorem removeAll_put {stuck : α → Bool} {names : List α} {name : α} (h : name ∉ names)
    (content : β) (d : FileTree α β) :
    removeAll stuck names (put name content d) = put name content (removeAll stuck names d) := by
  funext other
  rw [removeAll_apply]
  by_cases hname : other = name
  · subst hname
    rw [put_self, put_self, if_neg fun hgone => h hgone.1]
  · rw [put_ne hname, put_ne hname, removeAll_apply]

end FileTree

end AutomationTool
