import AutomationTool.Core.Directory

/-!
# The authoring workspace

A private folder that is written through contained, portable paths only. A workspace remembers
which files were there when it was opened; every other file it is asked to write is one it
authored, and a rollback removes those again. Removing a file is taken to succeed.

* `rollback_kept`: of a workspace in which only authored files are new, a rollback leaves the
  entries it was opened on, up to folders that were made.
* `write_scoped`, `write_written`: what a write to a free path keeps, and what it adds.
-/
namespace AutomationTool.Executor.MotionAuthoring

open FileTree

abbrev Bytes := List UInt8
abbrev Name := List Char

/-- The segments of a path, from the workspace's root. -/
abbrev WorkspacePath := List Name

abbrev Tree := FileTree WorkspacePath Bytes

/-- `str.casefold` of a name, and the names that differ from a name only by case. -/
class CaseFolding where
  casefold : Name → Name
  variants : Name → List Name
  mem_variants : ∀ name other, other ∈ variants name ↔ other ≠ name ∧ casefold other = casefold name

inductive Raised
  | motionAuthoringRejected
  | persistenceError
  | osError
  | other
  deriving DecidableEq

/-! ## Paths -/

/-- mirrors authoring_workspace.py:22-26 -/
def reservedDeviceNames : List Name :=
  [[ 'c', 'o', 'n'], [ 'p', 'r', 'n'], [ 'a', 'u', 'x'], [ 'n', 'u', 'l']] ++
    [ '1', '2', '3', '4', '5', '6', '7', '8', '9'].flatMap fun digit =>
      [[ 'c', 'o', 'm', digit], [ 'l', 'p', 't', digit]]

local instance lawful : LawfulBEq (List Char) := inferInstance

def validSegment [CaseFolding] (segment : Name) : Bool :=
  segment ≠ [] ∧ segment ≠ [ '.'] ∧ segment ≠ [ '.', '.'] ∧
    segment.all (fun c => c ≠ Char.ofNat 0 ∧ c ≠ Char.ofNat 92 ∧ c ≠ ':') ∧
    segment.getLast?.all (fun c => c ≠ '.' ∧ c ≠ ' ') ∧
    CaseFolding.casefold (segment.takeWhile (· ≠ '.')) ∉ reservedDeviceNames

/-- mirrors authoring_workspace.py:29-46 -/
def validateRelative [CaseFolding] (relative : WorkspacePath) : Bool :=
  relative ≠ [] ∧ relative.all validSegment

def isLink : Option (FileEntry Bytes) → Bool
  | some (.link _) => true
  | _ => false

/-- A symbolic link lies on the way. -/
def onLink (tree : Tree) (relative : WorkspacePath) : Bool :=
  relative.inits.any fun reached => isLink (tree reached)

/-- mirrors authoring_workspace.py:49-57 -/
def caseCollision [CaseFolding] (tree : Tree) (relative : WorkspacePath) : Bool :=
  (relative.inits.zip relative).any fun (current, segment) =>
    (CaseFolding.variants segment).any fun existing => (tree (current ++ [existing])).isSome

/-- Where the links on a path lead, or what is raised on the way: outside the workspace, in a
circle. -/
abbrev Links := WorkspacePath → Except Raised WorkspacePath

/-- mirrors authoring_workspace.py:76-84 -/
def resolve [CaseFolding] (links : Links) (tree : Tree) (relative : WorkspacePath) :
    Except Raised WorkspacePath :=
  if validateRelative relative then
    match if onLink tree relative then links relative else .ok relative with
    | .error raised => .error raised
    | .ok target =>
      if caseCollision tree relative then .error .motionAuthoringRejected else .ok target
  else .error .motionAuthoringRejected

/-! ## Writing -/

/-- How the calls of one write go: the folders that are not made, and what the last call raises,
with what it leaves in the file. -/
structure WriteConduct where
  unmade : WorkspacePath → Bool
  emitted : Option (Raised × Option Bytes)

/-- mirrors authoring_workspace.py:64-74 -/
structure AuthoringWorkspace where
  tree : Tree
  seeded : WorkspacePath → Bool
  authored : List WorkspacePath

namespace AuthoringWorkspace

/-- `provided_assets`, then nothing authored.
mirrors authoring_workspace.py:67-74 -/
def view (tree : Tree) : AuthoringWorkspace := ⟨tree, fun path => isFile (tree path), []⟩

/-- mirrors authoring_workspace.py:114-120 -/
def rollbackAuthoredFiles (w : AuthoringWorkspace) : AuthoringWorkspace :=
  { w with
    tree := w.authored.foldl
      (fun tree target => if isFile (tree target) then drop target tree else tree) w.tree }

/-- `mkdir(parents=True, exist_ok=True)`, the outermost folder first. -/
def makeFolders (unmade : WorkspacePath → Bool) : List WorkspacePath → Tree → Bool × Tree
  | [], tree => (true, tree)
  | folder :: folders, tree =>
    match tree folder with
    | some .folder => makeFolders unmade folders tree
    | none =>
      if unmade folder then (false, tree)
      else makeFolders unmade folders (Function.update tree folder (some .folder))
    | _ => (false, tree)

/-- The folders a file lies in, below the root. -/
def parents (target : WorkspacePath) : List WorkspacePath :=
  (List.range (target.length - 1)).map fun n => target.take (n + 1)

/-- `target.write_bytes`, with what a call that raises leaves behind. -/
def emit (emitted : Option (Raised × Option Bytes)) (payload : Bytes) (target : WorkspacePath)
    (tree : Tree) : Except Raised Unit × Tree :=
  if isFolder (tree target) then (.error .osError, tree)
  else
    match emitted with
    | none => (.ok (), put target payload tree)
    | some (raised, none) => (.error raised, tree)
    | some (raised, some left) => (.error raised, put target left tree)

/-- The handlers of `_write`. -/
def handled (raised : Raised) (w : AuthoringWorkspace) :
    Except Raised WorkspacePath × AuthoringWorkspace :=
  if raised = .osError then (.error .persistenceError, w.rollbackAuthoredFiles)
  else (.error raised, w)

def emitTo (conduct : WriteConduct) (payload : Bytes) (target : WorkspacePath)
    (w : AuthoringWorkspace) : Except Raised WorkspacePath × AuthoringWorkspace :=
  match makeFolders conduct.unmade (parents target) w.tree with
  | (false, tree) => handled .osError { w with tree }
  | (true, tree) =>
    if isLink (tree target) then handled .motionAuthoringRejected { w with tree }
    else
      match emit conduct.emitted payload target tree with
      | (.error raised, tree) => handled raised { w with tree }
      | (.ok (), tree) => (.ok target, { w with tree })

/-- mirrors authoring_workspace.py:86-112 -/
def writeBytes [CaseFolding] (links : Links) (conduct : WriteConduct) (relative : WorkspacePath)
    (payload : Bytes) (w : AuthoringWorkspace) : Except Raised WorkspacePath × AuthoringWorkspace :=
  match resolve links w.tree relative with
  | .error raised => handled raised w
  | .ok target =>
    emitTo conduct payload target
      (if w.seeded target then w else { w with authored := target :: w.authored })

end AuthoringWorkspace

open AuthoringWorkspace

/-! ## What is kept -/

/-- Every entry is as before; folders may have been made. -/
def Kept (before after : Tree) : Prop :=
  ∀ path, after path = before path ∨ before path = none ∧ after path = some .folder

/-- Only the files that were authored are new, and none of them was there before. -/
structure Scoped (before : Tree) (w : AuthoringWorkspace) : Prop where
  seeded : ∀ path, w.seeded path = isFile (before path)
  authored : ∀ path ∈ w.authored, isFile (before path) = false
  kept : ∀ path, w.tree path = before path ∨ before path = none ∧
    (w.tree path = some .folder ∨ path ∈ w.authored ∧ isFile (w.tree path) = true)

theorem Kept.refl (tree : Tree) : Kept tree tree := fun _ => .inl rfl

theorem view_scoped (tree : Tree) : Scoped tree (view tree) where
  seeded _ := rfl
  authored _ hpath := nomatch hpath
  kept _ := .inl rfl

theorem Scoped.isFile_of_none {before : Tree} {w : AuthoringWorkspace} (h : Scoped before w)
    {path : WorkspacePath} (hnone : w.tree path = none) : isFile (before path) = false := by
  obtain hsame | ⟨hfree, -⟩ := h.kept path
  · rw [← hsame, hnone]
    rfl
  · rw [hfree]
    rfl

theorem foldl_drop_apply (targets : List WorkspacePath) (tree : Tree) (path : WorkspacePath) :
    targets.foldl (fun tree target => if isFile (tree target) then drop target tree else tree)
        tree path = if path ∈ targets ∧ isFile (tree path) = true then none else tree path := by
  induction targets generalizing tree with
  | nil => simp
  | cons target targets ih =>
    rw [List.foldl_cons, ih]
    by_cases hpath : path = target
    · subst hpath
      by_cases hfile : isFile (tree path) = true
      · rw [if_pos hfile, drop_self]
        simp [hfile]
      · rw [if_neg hfile]
        simp [hfile]
    · have hsame : (if isFile (tree target) = true then drop target tree else tree) path =
          tree path := by
        split
        · exact drop_ne hpath tree
        · rfl
      rw [hsame]
      simp [hpath]

theorem rollback_apply (w : AuthoringWorkspace) (path : WorkspacePath) :
    w.rollbackAuthoredFiles.tree path =
      if path ∈ w.authored ∧ isFile (w.tree path) = true then none else w.tree path :=
  foldl_drop_apply ..

/-- A rollback leaves the entries the workspace was opened on. -/
theorem rollback_kept {before : Tree} {w : AuthoringWorkspace} (h : Scoped before w) :
    Kept before w.rollbackAuthoredFiles.tree := by
  intro path
  rw [rollback_apply]
  obtain hsame | ⟨hfree, hfolder | hauthored⟩ := h.kept path
  · rw [if_neg, hsame]
    · exact .inl rfl
    · intro hgone
      rw [hsame, h.authored path hgone.1] at hgone
      exact nomatch hgone.2
  · rw [if_neg, hfolder]
    · exact .inr ⟨hfree, rfl⟩
    · intro hgone
      rw [hfolder] at hgone
      exact nomatch hgone.2
  · rw [if_pos hauthored, hfree]
    exact .inl rfl

theorem rollback_scoped {before : Tree} {w : AuthoringWorkspace} (h : Scoped before w) :
    Scoped before w.rollbackAuthoredFiles where
  seeded := h.seeded
  authored := h.authored
  kept path := by
    obtain hsame | ⟨hfree, hfolder⟩ := rollback_kept h path
    · exact .inl hsame
    · exact .inr ⟨hfree, .inl hfolder⟩

theorem handled_scoped {before : Tree} {w : AuthoringWorkspace} (h : Scoped before w)
    (raised : Raised) : Scoped before (handled raised w).2 := by
  unfold handled
  split
  · exact rollback_scoped h
  · exact h

theorem handled_ne_ok (raised : Raised) (w w' : AuthoringWorkspace) (target : WorkspacePath) :
    handled raised w ≠ (.ok target, w') := by
  unfold handled
  intro h
  split at h
  · exact nomatch h
  · exact nomatch h

theorem makeFolders_apply (unmade : WorkspacePath → Bool) (folders : List WorkspacePath)
    (tree : Tree) (path : WorkspacePath) :
    (makeFolders unmade folders tree).2 path = tree path ∨
      path ∈ folders ∧ tree path = none ∧
        (makeFolders unmade folders tree).2 path = some .folder := by
  induction folders generalizing tree with
  | nil => exact .inl rfl
  | cons folder folders ih =>
    unfold makeFolders
    split
    · obtain hsame | ⟨hmem, hfree, hmade⟩ := ih tree
      · exact .inl hsame
      · exact .inr ⟨.tail _ hmem, hfree, hmade⟩
    · rename_i hfree
      split
      · exact .inl rfl
      · by_cases hpath : path = folder
        · subst hpath
          refine .inr ⟨.head _, hfree, ?_⟩
          obtain hsame | ⟨-, hnone, -⟩ := ih (Function.update tree path (some .folder))
          · rw [hsame, Function.update_self]
          · rw [Function.update_self] at hnone
            exact nomatch hnone
        · obtain hsame | ⟨hmem, hnone, hmade⟩ := ih (Function.update tree folder (some .folder))
          · rw [Function.update_of_ne hpath] at hsame
            exact .inl hsame
          · rw [Function.update_of_ne hpath] at hnone
            exact .inr ⟨.tail _ hmem, hnone, hmade⟩
    · exact .inl rfl

theorem makeFolders_scoped {before : Tree} {w : AuthoringWorkspace} (h : Scoped before w)
    (unmade : WorkspacePath → Bool) (folders : List WorkspacePath) :
    Scoped before { w with tree := (makeFolders unmade folders w.tree).2 } where
  seeded := h.seeded
  authored := h.authored
  kept path := by
    obtain hsame | ⟨-, hfree, hmade⟩ := makeFolders_apply unmade folders w.tree path
    · simp only [hsame]
      exact h.kept path
    · refine .inr ⟨?_, .inl hmade⟩
      obtain hbefore | ⟨hnone, -⟩ := h.kept path
      · rw [← hbefore, hfree]
      · exact hnone

theorem put_scoped {before : Tree} {w : AuthoringWorkspace} (h : Scoped before w)
    {target : WorkspacePath} (htarget : target ∈ w.authored)
    (hlink : isLink (w.tree target) = false) (hfolder : isFolder (w.tree target) = false) (content : Bytes) :
    Scoped before { w with tree := put target content w.tree } where
  seeded := h.seeded
  authored := h.authored
  kept path := by
    by_cases hpath : path = target
    · subst hpath
      refine .inr ⟨?_, .inr ⟨htarget, by simp [isFile]⟩⟩
      obtain hsame | ⟨hnone, -⟩ := h.kept path
      · have hfile := h.authored path htarget
        rw [hsame] at hlink hfolder
        cases hentry : before path with
        | none => rfl
        | some entry => cases entry <;> simp [hentry, isLink, isFolder, isFile] at *
      · exact hnone
    · simp only [put_ne hpath]
      exact h.kept path

theorem emit_cases (emitted : Option (Raised × Option Bytes)) (payload : Bytes)
    (target : WorkspacePath) (tree : Tree) :
    (∃ raised, emit emitted payload target tree = (.error raised, tree)) ∨
      isFolder (tree target) = false ∧
        ((∃ raised left, emit emitted payload target tree = (.error raised, put target left tree)) ∨
          emit emitted payload target tree = (.ok (), put target payload tree)) := by
  unfold emit
  split
  · exact .inl ⟨_, rfl⟩
  · rename_i hfolder
    have hfolder := eq_false_of_ne_true hfolder
    split
    · exact .inr ⟨hfolder, .inr rfl⟩
    · exact .inl ⟨_, rfl⟩
    · exact .inr ⟨hfolder, .inl ⟨_, _, rfl⟩⟩

theorem emitTo_scoped {before : Tree} {w : AuthoringWorkspace} (h : Scoped before w)
    (conduct : WriteConduct) (payload : Bytes) {target : WorkspacePath}
    (htarget : target ∈ w.authored) : Scoped before (emitTo conduct payload target w).2 := by
  have hmade := makeFolders_scoped h conduct.unmade (parents target)
  unfold emitTo
  split
  · rename_i tree hfolders
    rw [hfolders] at hmade
    exact handled_scoped hmade _
  · rename_i tree hfolders
    rw [hfolders] at hmade
    split
    · exact handled_scoped hmade _
    · rename_i hlink
      have hlink := eq_false_of_ne_true hlink
      obtain ⟨raised, hemit⟩ | ⟨hfolder, ⟨raised, left, hemit⟩ | hemit⟩ :=
        emit_cases conduct.emitted payload target tree
      · rw [hemit]
        exact handled_scoped hmade raised
      · rw [hemit]
        exact handled_scoped (put_scoped hmade htarget hlink hfolder left) raised
      · rw [hemit]
        exact put_scoped hmade htarget hlink hfolder payload

theorem Scoped.author {before : Tree} {w : AuthoringWorkspace} (h : Scoped before w)
    {target : WorkspacePath} (htarget : isFile (before target) = false) :
    Scoped before { w with authored := target :: w.authored } where
  seeded := h.seeded
  authored path hpath := by
    obtain rfl | hpath := List.mem_cons.1 hpath
    · exact htarget
    · exact h.authored path hpath
  kept path := by
    obtain hsame | ⟨hnone, hfolder | ⟨hpath, hfile⟩⟩ := h.kept path
    · exact .inl hsame
    · exact .inr ⟨hnone, .inl hfolder⟩
    · exact .inr ⟨hnone, .inr ⟨.tail _ hpath, hfile⟩⟩

/-- Whatever a write to a path that held no file comes to, what it leaves is rolled back later. -/
theorem write_scoped [CaseFolding] {links : Links} {conduct : WriteConduct}
    {relative : WorkspacePath} {payload : Bytes} {before : Tree} {w : AuthoringWorkspace} (h : Scoped before w)
    (hfree : ∀ target, resolve links w.tree relative = .ok target →
      isFile (before target) = false) :
    Scoped before (writeBytes links conduct relative payload w).2 := by
  unfold writeBytes
  split
  · exact handled_scoped h _
  · rename_i target htarget
    have hfile := hfree target htarget
    rw [if_neg (by rw [h.seeded, hfile]; exact Bool.false_ne_true)]
    exact emitTo_scoped (h.author hfile) conduct payload (.head _)

theorem emitTo_written {conduct : WriteConduct} {payload : Bytes} {reached target : WorkspacePath}
    {w w' : AuthoringWorkspace} (h : emitTo conduct payload reached w = (.ok target, w')) :
    reached = target ∧
      w'.tree = put target payload (makeFolders conduct.unmade (parents target) w.tree).2 := by
  unfold emitTo at h
  split at h
  · exact (handled_ne_ok _ _ _ _ h).elim
  · rename_i tree hfolders
    split at h
    · exact (handled_ne_ok _ _ _ _ h).elim
    · obtain ⟨raised, hemit⟩ | ⟨-, ⟨raised, left, hemit⟩ | hemit⟩ :=
        emit_cases conduct.emitted payload reached tree
      · rw [hemit] at h
        exact (handled_ne_ok _ _ _ _ h).elim
      · rw [hemit] at h
        exact (handled_ne_ok _ _ _ _ h).elim
      · rw [hemit] at h
        simp only [Prod.mk.injEq, Except.ok.injEq] at h
        obtain ⟨rfl, rfl⟩ := h
        exact ⟨rfl, by rw [hfolders]⟩

/-- A write that returns has written the file, under the path it returns. -/
theorem write_written [CaseFolding] {links : Links} {conduct : WriteConduct}
    {relative : WorkspacePath} {payload : Bytes} {w w' : AuthoringWorkspace} {target : WorkspacePath}
    (h : writeBytes links conduct relative payload w = (.ok target, w')) :
    resolve links w.tree relative = .ok target ∧
      w'.tree target = some (.file payload) ∧
      ∀ path, path ≠ target → w'.tree path = w.tree path ∨
        w.tree path = none ∧ w'.tree path = some .folder := by
  unfold writeBytes at h
  split at h
  · exact (handled_ne_ok _ _ _ _ h).elim
  · rename_i reached hreached
    obtain ⟨rfl, htree⟩ := emitTo_written h
    refine ⟨hreached, by rw [htree, put_self], ?_⟩
    intro path hpath
    rw [htree, put_ne hpath]
    have hseeded : (if w.seeded reached then w
        else { w with authored := reached :: w.authored } : AuthoringWorkspace).tree = w.tree := by
      split <;> rfl
    rw [hseeded]
    obtain hsame | ⟨-, hfree, hmade⟩ :=
      makeFolders_apply conduct.unmade (parents reached) w.tree path
    · exact .inl hsame
    · exact .inr ⟨hfree, hmade⟩

end AutomationTool.Executor.MotionAuthoring
