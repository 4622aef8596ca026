import AutomationTool.Core.Table
import AutomationTool.Editing.Timeline

/-!
# Stored timelines

The tables a timeline save reads and writes, with the keys and foreign keys of the
schema, and the save as its three statements in one transaction: claim the project's
identity, insert the revision, insert its material references.

* `save_eq_ok`: what a save that commits did.
* `save_eq_error`: why a save was refused, over consistent tables.
* `currentRevision_eq`: the latest revision is how many there are.

mirrors timeline_repository.py:326-523
-/
namespace AutomationTool.Editing

open Protocol

structure ProjectRow where
  projectId : EditingProjectId
  installationId : InstallationId
  deriving DecidableEq

instance : Row ProjectRow where
  apart a b := a.projectId ≠ b.projectId
  symm h := h.symm
  irrefl _ h := h rfl
  dec _ _ := inferInstance

structure MaterialRow where
  materialId : MaterialId
  installationId : InstallationId
  deriving DecidableEq

instance : Row MaterialRow where
  apart a b := a.materialId ≠ b.materialId
  symm h := h.symm
  irrefl _ h := h rfl
  dec _ _ := inferInstance

/-- A row of `editing_project_timelines`. -/
structure TimelineIdentity where
  projectId : EditingProjectId
  timelineId : TimelineId
  deriving DecidableEq

instance : Row TimelineIdentity where
  apart a b := a.projectId ≠ b.projectId ∧ a.timelineId ≠ b.timelineId
  symm h := ⟨h.1.symm, h.2.symm⟩
  irrefl _ h := h.1 rfl
  dec _ _ := inferInstance

instance [UnicodeData] : Row Timeline where
  apart a b := ¬(a.timelineId = b.timelineId ∧ a.revision = b.revision)
  symm h h' := h ⟨h'.1.symm, h'.2.symm⟩
  irrefl _ h := h ⟨rfl, rfl⟩
  dec _ _ := inferInstance

/-- A row of `timeline_material_references`. -/
structure MaterialReference where
  timelineId : TimelineId
  timelineRevision : Nat
  projectId : EditingProjectId
  installationId : InstallationId
  materialId : MaterialId
  deriving DecidableEq

instance : Row MaterialReference where
  apart a b := ¬(a.timelineId = b.timelineId ∧ a.timelineRevision = b.timelineRevision ∧
    a.materialId = b.materialId)
  symm h h' := h ⟨h'.1.symm, h'.2.1.symm, h'.2.2.symm⟩
  irrefl _ h := h ⟨rfl, rfl, rfl⟩
  dec _ _ := inferInstance

structure EditingDb [UnicodeData] where
  projects : Table ProjectRow
  materials : Table MaterialRow
  identities : Table TimelineIdentity
  timelines : Table Timeline
  references : Table MaterialReference

/-- The failures of `timelines.py` a save may report.
mirrors timelines.py:48-106 -/
inductive TimelineFailure where
  | revisionAlreadyStored | projectMissing | materialMissing | dataRejected
  | persistenceUnavailable
  deriving DecidableEq, Repr

variable [UnicodeData]

namespace EditingDb

def empty : EditingDb := ⟨.empty, .empty, .empty, .empty, .empty⟩

/-- The project is one of the installation's. -/
def Owns (db : EditingDb) (i : InstallationId) (p : EditingProjectId) : Prop :=
  ⟨p, i⟩ ∈ db.projects.rows

instance (db : EditingDb) (i : InstallationId) (p : EditingProjectId) : Decidable (db.Owns i p) :=
  inferInstanceAs (Decidable (_ ∈ db.projects.rows))

def identity? (db : EditingDb) (p : EditingProjectId) : Option TimelineIdentity :=
  db.identities.find? fun x => x.projectId = p

/-- `INSERT … SELECT … ON CONFLICT DO NOTHING RETURNING`: `none` when nothing was
inserted.
mirrors timeline_repository.py:362-376 -/
def claimIdentity (db : EditingDb) (t : Timeline) (i : InstallationId) : Option EditingDb :=
  if db.Owns i t.projectId then
    (db.identities.insert? ⟨t.projectId, t.timelineId⟩).map fun rows =>
      { db with identities := rows }
  else none

/-- The claim, or the identity the project has already.
mirrors timeline_repository.py:378-409 -/
def identify (db : EditingDb) (t : Timeline) (i : InstallationId) :
    Except TimelineFailure EditingDb :=
  match db.claimIdentity t i with
  | some db' => .ok db'
  | none =>
    if db.Owns i t.projectId then
      match db.identity? t.projectId with
      -- the claim collided on the timeline id
      | none => .error .dataRejected
      | some identity =>
        if identity.timelineId = t.timelineId then .ok db else .error .revisionAlreadyStored
    else .error .projectMissing

/-- `INSERT INTO timelines`; `_refuse_integrity_violation` names its errors. -/
def insertRevision (db : EditingDb) (t : Timeline) : Except TimelineFailure EditingDb :=
  match db.timelines.insert? t with
  | none => .error .revisionAlreadyStored
  | some rows =>
    if (⟨t.projectId, t.timelineId⟩ : TimelineIdentity) ∈ db.identities.rows then
      .ok { db with timelines := rows }
    else .error .materialMissing

/-- `_material_reference_values`. -/
def referenceValues (t : Timeline) (i : InstallationId) : List MaterialReference :=
  t.materials.map fun m => ⟨t.timelineId, t.revision, t.projectId, i, m⟩

/-- The foreign keys of `timeline_material_references`. -/
def References (db : EditingDb) (r : MaterialReference) : Prop :=
  (∃ t ∈ db.timelines.rows, t.timelineId = r.timelineId ∧ t.revision = r.timelineRevision ∧
      t.projectId = r.projectId) ∧
    db.Owns r.installationId r.projectId ∧ ⟨r.materialId, r.installationId⟩ ∈ db.materials.rows

instance (db : EditingDb) (r : MaterialReference) : Decidable (db.References r) :=
  inferInstanceAs (Decidable (_ ∧ _))

def insertReferences (db : EditingDb) (t : Timeline) (i : InstallationId) :
    Except TimelineFailure EditingDb :=
  -- `assert reference_values`, an AssertionError being none of the named failures
  if referenceValues t i = [] then .error .persistenceUnavailable
  else
    match db.references.insertAll? (referenceValues t i) with
    | none => .error .dataRejected
    | some rows =>
      if ∀ r ∈ referenceValues t i, db.References r then .ok { db with references := rows }
      else .error .materialMissing

/-- `SqlAlchemyTimelineRepository.save`, one transaction.
mirrors timeline_repository.py:335-451 -/
def save (t : Timeline) (i : InstallationId) (db : EditingDb) :
    Except TimelineFailure EditingDb := do
  let db ← db.identify t i
  let db ← db.insertRevision t
  db.insertReferences t i

/-- `latest_revision`.
mirrors timeline_repository.py:485-523 -/
def latestRevision (p : EditingProjectId) (i : InstallationId) (db : EditingDb) :
    Option Timeline :=
  if db.Owns i p then
    (db.identity? p).bind fun x =>
      (db.timelines.rows.filter fun t => t.timelineId = x.timelineId).argmax (·.revision)
  else none

/-- What `TimelineService.save` calls `current_revision`. -/
def currentRevision (p : EditingProjectId) (i : InstallationId) (db : EditingDb) : Nat :=
  match db.latestRevision p i with
  | none => 0
  | some latest => latest.revision

/-! ## What a save did, and why it was refused -/

/-- A save that committed. -/
structure Saved (t : Timeline) (i : InstallationId) (db db' : EditingDb) : Prop where
  owned : db.Owns i t.projectId
  fresh : ∀ x ∈ db.timelines, ¬(x.timelineId = t.timelineId ∧ x.revision = t.revision)
  identity : ⟨t.projectId, t.timelineId⟩ ∈ db'.identities
  identities : ∀ x ∈ db'.identities, x ∈ db.identities ∨ x = ⟨t.projectId, t.timelineId⟩
  kept : ∀ x ∈ db.identities, x ∈ db'.identities
  timelines : db'.timelines.rows = db.timelines.rows ++ [t]
  references : ∀ r ∈ db'.references, r ∈ db.references ∨ r ∈ referenceValues t i
  projects : db'.projects = db.projects

theorem identify_eq_ok {db db' : EditingDb} {t : Timeline} {i : InstallationId}
    (h : db.identify t i = .ok db') :
    ∃ rows, db' = { db with identities := rows } ∧ db.Owns i t.projectId ∧
      ⟨t.projectId, t.timelineId⟩ ∈ rows ∧
      (∀ x ∈ rows, x ∈ db.identities ∨ x = ⟨t.projectId, t.timelineId⟩) ∧
      ∀ x ∈ db.identities, x ∈ rows := by
  unfold identify at h
  split at h
  · rename_i db₁ hclaim
    cases h
    unfold claimIdentity at hclaim
    split at hclaim
    · rename_i howns
      obtain ⟨rows, hins, rfl⟩ := Option.map_eq_some_iff.1 hclaim
      refine ⟨rows, rfl, howns, (Table.mem_insert? hins).2 (.inr rfl), ?_, ?_⟩
      · exact fun x hx => (Table.mem_insert? hins).1 hx
      · exact fun x hx => (Table.mem_insert? hins).2 (.inl hx)
    · cases hclaim
  · split at h
    · rename_i howns
      split at h
      · cases h
      · rename_i identity hfind
        split at h
        · rename_i hsame
          cases h
          obtain ⟨hmem, hp⟩ := Table.mem_of_find? hfind
          refine ⟨db.identities, rfl, howns, ?_, fun x hx => .inl hx, fun x hx => hx⟩
          rw [decide_eq_true_eq] at hp
          rw [← hp, ← hsame]
          exact hmem
        · cases h
    · cases h

theorem insertRevision_eq_ok {db db' : EditingDb} {t : Timeline}
    (h : db.insertRevision t = .ok db') :
    ∃ rows, db' = { db with timelines := rows } ∧ rows.rows = db.timelines.rows ++ [t] ∧
      ∀ x ∈ db.timelines, ¬(x.timelineId = t.timelineId ∧ x.revision = t.revision) := by
  unfold insertRevision at h
  split at h
  · cases h
  · rename_i rows hins
    split at h
    · cases h
      exact ⟨rows, rfl, Table.insert?_rows hins, Table.insert?_fresh hins⟩
    · cases h

theorem insertReferences_eq_ok {db db' : EditingDb} {t : Timeline} {i : InstallationId}
    (h : db.insertReferences t i = .ok db') :
    ∃ rows, db' = { db with references := rows } ∧
      rows.rows = db.references.rows ++ referenceValues t i := by
  unfold insertReferences at h
  split at h
  · cases h
  · split at h
    · cases h
    · rename_i rows hins
      split at h
      · cases h
        exact ⟨rows, rfl, Table.insertAll?_rows hins⟩
      · cases h

theorem save_eq_ok {t : Timeline} {i : InstallationId} {db db' : EditingDb}
    (h : db.save t i = .ok db') : Saved t i db db' := by
  unfold save at h
  cases h₁ : db.identify t i with
  | error e =>
    rw [h₁] at h
    cases h
  | ok db₁ =>
    rw [h₁] at h
    cases h₂ : db₁.insertRevision t with
    | error e =>
      simp only [bind, Except.bind, h₂] at h
      cases h
    | ok db₂ =>
      simp only [bind, Except.bind, h₂] at h
      obtain ⟨ids, rfl, howns, hid, hids, hkept⟩ := identify_eq_ok h₁
      obtain ⟨rows, rfl, hrows, hfresh⟩ := insertRevision_eq_ok h₂
      obtain ⟨refs, rfl, hrefs⟩ := insertReferences_eq_ok h
      refine ⟨howns, hfresh, hid, hids, hkept, hrows, fun r hr => ?_, rfl⟩
      rw [Table.mem_def, hrefs] at hr
      exact List.mem_append.1 hr

/-! ## Consistent tables -/

/-- The revisions of a project, in the order in which they were stored. -/
def revisionsOf (db : EditingDb) (p : EditingProjectId) : List Timeline :=
  db.timelines.rows.filter fun t => t.projectId = p

theorem mem_revisionsOf {db : EditingDb} {p : EditingProjectId} {t : Timeline} :
    t ∈ db.revisionsOf p ↔ t ∈ db.timelines ∧ t.projectId = p := by
  rw [revisionsOf, List.mem_filter, decide_eq_true_eq]
  exact Iff.rfl

/-- What every save leaves behind: the foreign keys, no identity without a revision,
and revisions counted from one. -/
structure Consistent (db : EditingDb) : Prop where
  identified : ∀ t ∈ db.timelines, ⟨t.projectId, t.timelineId⟩ ∈ db.identities
  begun : ∀ x ∈ db.identities, ∃ t ∈ db.timelines, t.projectId = x.projectId
  referenced : ∀ r ∈ db.references, ∃ t ∈ db.timelines,
    t.timelineId = r.timelineId ∧ t.revision = r.timelineRevision
  counted : ∀ p, (db.revisionsOf p).map (·.revision) = List.range' 1 (db.revisionsOf p).length

theorem consistent_empty : (empty : EditingDb).Consistent where
  identified _ h := nomatch h
  begun _ h := nomatch h
  referenced _ h := nomatch h
  counted _ := rfl

theorem identity?_eq_some {db : EditingDb} {p : EditingProjectId} {x : TimelineIdentity} :
    db.identity? p = some x ↔ x ∈ db.identities ∧ x.projectId = p := by
  have hsel : Table.Selects (ρ := TimelineIdentity) fun x => x.projectId = p := by
    intro a b ha hb hab
    rw [decide_eq_true_eq] at ha hb
    exact hab.1 (ha.trans hb.symm)
  rw [identity?, Table.find?_eq_some_iff hsel, decide_eq_true_eq]

namespace Consistent

variable {db : EditingDb} (h : db.Consistent)
include h

/-- All revisions of a project share its timeline id, and no other project has it. -/
theorem timelineId_iff {p : EditingProjectId} {x : TimelineIdentity}
    (hx : db.identity? p = some x) {t : Timeline} (ht : t ∈ db.timelines) :
    t.timelineId = x.timelineId ↔ t.projectId = p := by
  obtain ⟨hmem, rfl⟩ := identity?_eq_some.1 hx
  constructor
  · intro hid
    have heq : (⟨t.projectId, t.timelineId⟩ : TimelineIdentity) = x :=
      Table.eq_of_not_apart (h.identified t ht) hmem fun hap => hap.2 hid
    rw [← heq]
  · intro hp
    have heq : (⟨t.projectId, t.timelineId⟩ : TimelineIdentity) = x :=
      Table.eq_of_not_apart (h.identified t ht) hmem fun hap => hap.1 hp
    rw [← heq]

theorem filter_timelineId {p : EditingProjectId} {x : TimelineIdentity}
    (hx : db.identity? p = some x) :
    (db.timelines.rows.filter fun t => t.timelineId = x.timelineId) = db.revisionsOf p := by
  refine List.filter_congr fun t ht => ?_
  rw [decide_eq_decide]
  exact h.timelineId_iff hx ht

theorem revision_mem {p : EditingProjectId} {n : Nat} (hpos : 1 ≤ n)
    (hle : n ≤ (db.revisionsOf p).length) : ∃ t ∈ db.revisionsOf p, t.revision = n := by
  have hmem : n ∈ (db.revisionsOf p).map (·.revision) := by
    rw [h.counted p, List.mem_range'_1]
    omega
  obtain ⟨t, ht, hn⟩ := List.mem_map.1 hmem
  exact ⟨t, ht, hn⟩

theorem revision_le {p : EditingProjectId} {t : Timeline} (ht : t ∈ db.revisionsOf p) :
    1 ≤ t.revision ∧ t.revision ≤ (db.revisionsOf p).length := by
  have hmem : t.revision ∈ (db.revisionsOf p).map (·.revision) := List.mem_map_of_mem ht
  rw [h.counted p, List.mem_range'_1] at hmem
  omega

/-- A project without a timeline has no revision. -/
theorem revisionsOf_eq_nil {p : EditingProjectId} (hx : db.identity? p = none) :
    db.revisionsOf p = [] := by
  refine List.eq_nil_iff_forall_not_mem.2 fun t ht => ?_
  obtain ⟨hmem, hp⟩ := mem_revisionsOf.1 ht
  rw [identity?_eq_some.2 ⟨h.identified t hmem, hp⟩] at hx
  cases hx

/-- A project with a timeline has a revision. -/
theorem revisionsOf_pos {p : EditingProjectId} {x : TimelineIdentity}
    (hx : db.identity? p = some x) : 0 < (db.revisionsOf p).length := by
  obtain ⟨hmem, hp⟩ := identity?_eq_some.1 hx
  obtain ⟨t, ht, htp⟩ := h.begun x hmem
  exact List.length_pos_of_mem (mem_revisionsOf.2 ⟨ht, htp.trans hp⟩)

theorem latestRevision_eq_some {p : EditingProjectId} {i : InstallationId} {t : Timeline}
    (ht : db.latestRevision p i = some t) :
    db.Owns i p ∧ t ∈ db.revisionsOf p ∧ t.revision = (db.revisionsOf p).length := by
  unfold latestRevision at ht
  split at ht
  · rename_i howns
    obtain ⟨x, hx, harg⟩ := Option.bind_eq_some_iff.1 ht
    rw [h.filter_timelineId hx] at harg
    have hmem : t ∈ db.revisionsOf p := List.argmax_mem harg
    obtain ⟨hpos, hle⟩ := h.revision_le hmem
    obtain ⟨last, hlast, hrev⟩ := h.revision_mem (p := p)
      (n := (db.revisionsOf p).length) (by omega) (Nat.le_refl _)
    have hmax : last.revision ≤ t.revision := 
      List.le_of_mem_argmax (f := fun t : Timeline => t.revision) hlast harg
    exact ⟨howns, hmem, by omega⟩
  · cases ht

theorem latestRevision_eq_none {p : EditingProjectId} {i : InstallationId}
    (hnone : db.latestRevision p i = none) (howns : db.Owns i p) : db.revisionsOf p = [] := by
  unfold latestRevision at hnone
  rw [if_pos howns] at hnone
  cases hx : db.identity? p with
  | none => exact h.revisionsOf_eq_nil hx
  | some x =>
    rw [hx, Option.bind_some, List.argmax_eq_none, h.filter_timelineId hx] at hnone
    exact hnone

/-- For the owner, the current revision is the number of revisions. -/
theorem currentRevision_eq {p : EditingProjectId} {i : InstallationId} (howns : db.Owns i p) :
    db.currentRevision p i = (db.revisionsOf p).length := by
  unfold currentRevision
  cases hl : db.latestRevision p i with
  | none =>
    rw [h.latestRevision_eq_none hl howns]
    rfl
  | some latest => exact (h.latestRevision_eq_some hl).2.2

/-- A save of at most the next revision stores the next revision. -/
theorem saved_revision {t : Timeline} {i : InstallationId} {db' : EditingDb}
    (hs : Saved t i db db') (hle : t.revision ≤ (db.revisionsOf t.projectId).length + 1) :
    t.revision = (db.revisionsOf t.projectId).length + 1 := by
  rcases Nat.lt_or_ge (db.revisionsOf t.projectId).length t.revision with hlt | hge
  · omega
  · exfalso
    obtain ⟨old, hold, hrev⟩ := h.revision_mem t.valid.revision_pos hge
    obtain ⟨hmem, hp⟩ := mem_revisionsOf.1 hold
    -- the identity of the project is one row before and after the save
    have hsame : (⟨old.projectId, old.timelineId⟩ : TimelineIdentity) =
        ⟨t.projectId, t.timelineId⟩ :=
      Table.eq_of_not_apart (hs.kept _ (h.identified old hmem)) hs.identity fun hap => hap.1 hp
    exact hs.fresh old hmem ⟨(TimelineIdentity.mk.inj hsame).2, hrev⟩

omit h in
theorem revisionsOf_saved {t : Timeline} {i : InstallationId} {db' : EditingDb}
    (hs : Saved t i db db') (p : EditingProjectId) :
    db'.revisionsOf p = db.revisionsOf p ++ if t.projectId = p then [t] else [] := by
  unfold revisionsOf
  rw [hs.timelines, List.filter_append]
  congr 1
  by_cases hp : t.projectId = p <;> simp [hp]

theorem saved {t : Timeline} {i : InstallationId} {db' : EditingDb}
    (hs : Saved t i db db') (hle : t.revision ≤ (db.revisionsOf t.projectId).length + 1) :
    db'.Consistent := by
  have hmem : ∀ x, x ∈ db'.timelines ↔ x ∈ db.timelines ∨ x = t := by
    intro x
    rw [Table.mem_def, hs.timelines, List.mem_append, List.mem_singleton]
    exact Iff.rfl
  constructor
  · intro x hx
    rcases (hmem x).1 hx with hx | rfl
    · exact hs.kept _ (h.identified x hx)
    · exact hs.identity
  · intro x hx
    rcases hs.identities x hx with hx | rfl
    · obtain ⟨r, hr, hp⟩ := h.begun x hx
      exact ⟨r, (hmem r).2 (.inl hr), hp⟩
    · exact ⟨t, (hmem t).2 (.inr rfl), rfl⟩
  · intro r hr
    rcases hs.references r hr with hr | hr
    · obtain ⟨x, hx, hxr⟩ := h.referenced r hr
      exact ⟨x, (hmem x).2 (.inl hx), hxr⟩
    · obtain ⟨m, -, rfl⟩ := List.mem_map.1 hr
      exact ⟨t, (hmem t).2 (.inr rfl), rfl, rfl⟩
  · intro p
    rw [revisionsOf_saved hs p]
    by_cases hp : t.projectId = p
    · subst hp
      rw [if_pos rfl, List.map_append, h.counted, List.length_append, List.length_singleton,
        List.range'_1_concat, List.map_singleton, h.saved_revision hs hle, Nat.add_comm 1]
    · rw [if_neg hp, List.append_nil]
      exact h.counted p

end Consistent

/-- Why a save was refused. -/
inductive Refused (t : Timeline) (i : InstallationId) (db : EditingDb) : TimelineFailure → Prop
  | projectMissing (h : ¬db.Owns i t.projectId) : Refused t i db .projectMissing
  /-- Another project has the timeline id. -/
  | collided {x : TimelineIdentity} (hx : x ∈ db.identities) (hid : x.timelineId = t.timelineId)
      (hp : x.projectId ≠ t.projectId) : Refused t i db .dataRejected
  /-- The project has a timeline of another id. -/
  | begun (howns : db.Owns i t.projectId) {x : TimelineIdentity}
      (hx : db.identity? t.projectId = some x) (hid : x.timelineId ≠ t.timelineId) :
      Refused t i db .revisionAlreadyStored
  | taken (howns : db.Owns i t.projectId) {x : Timeline} (hx : x ∈ db.timelines)
      (hid : x.timelineId = t.timelineId) (hrev : x.revision = t.revision) :
      Refused t i db .revisionAlreadyStored
  /-- The revision is free and the project's own, but a material is not stored. -/
  | materialMissing (howns : db.Owns i t.projectId)
      (hfresh : ∀ x ∈ db.timelines, ¬(x.timelineId = t.timelineId ∧ x.revision = t.revision))
      (hid : ∀ x ∈ db.identities, x.projectId = t.projectId → x.timelineId = t.timelineId)
      {m : MaterialId} (hm : m ∈ t.materials) (hmissing : ⟨m, i⟩ ∉ db.materials) :
      Refused t i db .materialMissing

theorem identify_eq_error {db : EditingDb} {t : Timeline} {i : InstallationId}
    {e : TimelineFailure} (h : db.identify t i = .error e) : Refused t i db e := by
  unfold identify at h
  split at h
  · cases h
  · rename_i hclaim
    split at h
    · rename_i howns
      split at h
      · rename_i hnone
        cases h
        rw [claimIdentity, if_pos howns, Option.map_eq_none_iff] at hclaim
        obtain ⟨x, hx, hap⟩ := Table.insert?_eq_none hclaim
        have hp : x.projectId ≠ t.projectId := by
          intro hp
          rw [identity?_eq_some.2 ⟨hx, hp⟩] at hnone
          cases hnone
        refine .collided hx ?_ hp
        by_contra hid
        exact hap ⟨hp, hid⟩
      · rename_i x hx
        split at h
        · cases h
        · rename_i hid
          cases h
          exact .begun howns hx hid
    · rename_i howns
      cases h
      exact .projectMissing howns

/-- The references of a new revision clash with no stored ones, nor with each other. -/
theorem insertAll?_referenceValues {db : EditingDb} (hdb : db.Consistent) {t : Timeline}
    {i : InstallationId}
    (hfresh : ∀ x ∈ db.timelines, ¬(x.timelineId = t.timelineId ∧ x.revision = t.revision)) :
    (db.references.insertAll? (referenceValues t i)).isSome := by
  refine Table.insertAll?_isSome (fun r hr old hold hsame => ?_) ?_
  · obtain ⟨m, -, rfl⟩ := List.mem_map.1 hr
    obtain ⟨x, hx, hid, hrev⟩ := hdb.referenced old hold
    exact hfresh x hx ⟨hid.trans hsame.1, hrev.trans hsame.2.1⟩
  · refine List.pairwise_map.2 (t.materials_nodup.imp fun hne hsame => ?_)
    exact hne hsame.2.2

theorem save_eq_error {db : EditingDb} (hdb : db.Consistent) {t : Timeline}
    {i : InstallationId} {e : TimelineFailure} (h : db.save t i = .error e) :
    Refused t i db e := by
  unfold save at h
  cases h₁ : db.identify t i with
  | error e₁ =>
    rw [h₁] at h
    cases h
    exact identify_eq_error h₁
  | ok db₁ =>
    obtain ⟨ids, rfl, howns, hid, hids, hkept⟩ := identify_eq_ok h₁
    rw [h₁] at h
    simp only [bind, Except.bind] at h
    cases hins : db.timelines.insert? t with
    | none =>
      simp only [insertRevision, hins] at h
      cases h
      obtain ⟨x, hx, hap⟩ := Table.insert?_eq_none hins
      obtain ⟨hxid, hrev⟩ := Classical.not_not.1 hap
      exact .taken howns hx hxid hrev
    | some rows =>
      simp only [insertRevision, hins] at h
      rw [if_pos (Table.mem_def.1 hid)] at h
      have hrefs : referenceValues t i ≠ [] := by
        simpa [referenceValues] using t.materials_ne_nil
      obtain ⟨refs, hall⟩ := Option.isSome_iff_exists.1
        (insertAll?_referenceValues hdb (i := i) (Table.insert?_fresh hins))
      simp only [insertReferences, if_neg hrefs, hall] at h
      split at h
      · cases h
      · rename_i hfk
        cases h
        simp only [not_forall] at hfk
        obtain ⟨r, hr, hfk⟩ := hfk
        obtain ⟨m, hm, rfl⟩ := List.mem_map.1 hr
        have hsame : ∀ x ∈ db.identities, x.projectId = t.projectId →
            x.timelineId = t.timelineId := by
          intro x hx hp
          have heq : x = ⟨t.projectId, t.timelineId⟩ :=
            Table.eq_of_not_apart (hkept x hx) hid fun hap => hap.1 hp
          rw [heq]
        refine .materialMissing howns (Table.insert?_fresh hins) hsame hm fun hstored => ?_
        refine hfk ⟨⟨t, ?_, rfl, rfl, rfl⟩, howns, hstored⟩
        exact (Table.mem_insert? hins).2 (.inr rfl)

end EditingDb
end AutomationTool.Editing
