import AutomationTool.Editing.MaterialRepository
import AutomationTool.Editing.TimelineService

/-!
# Conflicts nobody names

Behaviour (material_repository.py:193-226, 298-334):
`save` and `delete` look for the broken constraint in the attribute `constraint_name` of the
driver's error. SQLite's errors have none, so a material that is stored already and one that a
timeline still uses are both reported as rejected data.

Evidence: the `MaterialAlreadyRegistered` and `MaterialInUse` the two functions raise;
`editing_job_repository.py:78-96`, which reads the constraint off SQLite's message.

Counterexample: a material that is saved twice, and one that is deleted while in use.

`answered_iff`: the expected answers are given exactly where no constraint is broken.
-/
namespace AutomationTool.Bugs.UnnamedConflict

open Protocol Editing

/-- A material that a row refers to is stored. -/
theorem row?_of_referenced {s : MaterialStore} {m : MaterialId} {i : InstallationId}
    (h : s.Referenced m i) : s.row? m i ≠ none := by
  obtain ⟨r, hr, hm, hi⟩ := h
  obtain ⟨x, hx, hid, hinst⟩ := s.owned r hr
  intro hnone
  exact Table.find?_eq_none.1 hnone x hx (decide_eq_true ⟨hid.trans hm, hinst.trans hi⟩)

section

variable [UnicodeData]

inductive MaterialRequest where
  | save (m : Material) (i : InstallationId)
  | get (m : MaterialId) (i : InstallationId)
  | delete (m : MaterialId) (i : InstallationId)

def answer : MaterialRequest → MaterialStore → Except MaterialFailure Unit × MaterialStore
  | .save m i, s => s.written (s.save m i)
  | .get m i, s => ((s.get m i).map fun _ => (), s)
  | .delete m i, s => s.written (s.delete m i)

/-- A constraint of the schema stands against the request. -/
def Conflicts : MaterialRequest → MaterialStore → Prop
  | .save m i, s => ∃ r ∈ s.materials,
      r.materialId = m.materialId ∨ r.installationId = i ∧ r.contentDigest = m.contentDigest
  | .get .., _ => False
  | .delete m i, s => s.Referenced m i

/-- The failures a caller has to expect. -/
def Expected : MaterialRequest → MaterialStore → MaterialFailure → Prop
  | .save m i, s, e => Conflicts (.save m i) s ∧ e = .alreadyRegistered
  | .get m i, s, e => s.row? m i = none ∧ e = .notFound
  | .delete m i, s, e =>
    s.Referenced m i ∧ e = .inUse ∨ s.row? m i = none ∧ e = .notFound

/-- An expected failure is the one reported, and leaves the store alone. -/
def Answered (q : MaterialRequest) (s : MaterialStore) : Prop :=
  ∀ e, Expected q s e → answer q s = (.error e, s)

theorem insert_conflict {s : MaterialStore} {m : Material} {i : InstallationId}
    (h : Conflicts (.save m i) s) :
    ∃ constraint, s.insert ⟨m.toMaterialFields, i⟩ =
      .error (sqliteError (.uniqueConstraintFailed constraint)) := by
  unfold MaterialStore.insert
  split
  · exact ⟨_, rfl⟩
  next hid =>
  split
  · exact ⟨_, rfl⟩
  next rows hins =>
  obtain ⟨r, hr, hsame⟩ := h
  obtain ⟨hne, hdigest⟩ := Table.insert?_fresh hins r hr
  rcases hsame with hsame | hsame
  · exact absurd hsame hne
  · exact absurd hsame hdigest

theorem save_conflict {s : MaterialStore} {m : Material} {i : InstallationId}
    (h : Conflicts (.save m i) s) : answer (.save m i) s = (.error .dataRejected, s) := by
  obtain ⟨constraint, hins⟩ := insert_conflict h
  simp only [answer, MaterialStore.save, hins]
  rfl

theorem delete_conflict {s : MaterialStore} {m : MaterialId} {i : InstallationId}
    (h : s.Referenced m i) : answer (.delete m i) s = (.error .dataRejected, s) := by
  simp only [answer, MaterialStore.delete, dif_pos h]
  rfl

theorem delete_unknown {s : MaterialStore} {m : MaterialId} {i : InstallationId}
    (h : s.row? m i = none) : answer (.delete m i) s = (.error .notFound, s) := by
  have hfree : ¬s.Referenced m i := fun hr => row?_of_referenced hr h
  have hcount : s.materials.rows.countP (·.named m i) = 0 :=
    List.countP_eq_zero.2 (Table.find?_eq_none.1 h)
  simp only [answer, MaterialStore.delete, dif_neg hfree, hcount]
  rfl

/-- **The expected failures** are reported where, and only where, no constraint is broken. -/
theorem answered_iff (q : MaterialRequest) (s : MaterialStore) :
    Answered q s ↔ ¬Conflicts q s := by
  constructor
  · intro h hc
    cases q with
    | save m i => exact absurd ((save_conflict hc).symm.trans (h _ ⟨hc, rfl⟩)) (by simp)
    | get => exact hc
    | delete m i => exact absurd ((delete_conflict hc).symm.trans (h _ (.inl ⟨hc, rfl⟩))) (by simp)
  · intro hc e he
    cases q with
    | save => exact absurd he.1 hc
    | get m i =>
      obtain ⟨hnone, rfl⟩ := he
      simp only [answer, MaterialStore.get, hnone]
      rfl
    | delete m i =>
      rcases he with ⟨hr, -⟩ | ⟨hnone, rfl⟩
      · exact absurd hr hc
      · exact delete_unknown hnone

end

/-! ## A clip in use -/

open Editing.Shelf
open scoped Editing.Racing

def clip : Material := ⟨footage.toMaterialFields, by decide +kernel⟩

/-- Revision 1 of a timeline shows the footage. -/
def inUse : MaterialStore :=
  { library with
    references := ⟨[⟨10, 1, 1, 1, 7⟩], List.pairwise_singleton _ _⟩
    owned := fun r hr => by
      obtain rfl := List.mem_singleton.1 hr
      exact ⟨footage, List.mem_singleton_self _, rfl, rfl⟩ }

/-- **Counterexample**: it can be neither saved again nor deleted, and nobody is told why. -/
theorem conflicts_unnamed :
    ¬Answered (.save clip 1) inUse ∧ ¬Answered (.delete 7 1) inUse := by
  constructor
  · intro h
    have := h .alreadyRegistered ⟨⟨footage, List.mem_singleton_self _, .inl rfl⟩, rfl⟩
    cases this
  · intro h
    have := h .inUse (.inl ⟨⟨_, List.mem_singleton_self _, rfl, rfl⟩, rfl⟩)
    cases this

end AutomationTool.Bugs.UnnamedConflict
