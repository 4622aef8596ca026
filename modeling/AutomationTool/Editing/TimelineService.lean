import AutomationTool.Core.Crew
import AutomationTool.Editing.TimelineRepository

/-!
# Saving timelines concurrently

`TimelineService.save` reads the latest revision, checks it against the revision the
caller expects, and saves the next one; each of its two or three transactions is atomic
and anything may happen in between. `saving` is any number of saves on one database,
with projects and materials coming and going.

* `Prepared`: what a save knows of the revision it is about to store.
* `Judged`: what the end of a save says about the database at that moment.
* `timeline_saves_serialized`: the revisions of a project are 1, 2, …, n of one timeline,
  none ever changes, and every save is judged as if it happened at one moment.

`mint` says for which project a timeline id was drawn: `TimelineId.new()` never draws one
id for two projects.
-/
namespace AutomationTool.Editing

open Protocol

section

variable [UnicodeData]

inductive EditingOp where
  | latestRevision (p : EditingProjectId) (i : InstallationId)
  | saveTimeline (t : Timeline) (i : InstallationId)
  | saveProject (p : EditingProjectId) (i : InstallationId)
  | saveMaterial (m : MaterialId) (i : InstallationId)
  | deleteMaterial (m : MaterialId) (i : InstallationId)

abbrev EditingOp.Ret : EditingOp → Type
  | .latestRevision .. => Option Timeline
  | .saveTimeline .. => Except TimelineFailure Unit
  | .saveProject .. => Bool
  | .saveMaterial .. => Bool
  | .deleteMaterial .. => Bool

namespace EditingDb

/-- `INSERT INTO editing_projects`. -/
def saveProject (p : EditingProjectId) (i : InstallationId) (db : EditingDb) : Bool × EditingDb :=
  match db.projects.insert? ⟨p, i⟩ with
  | none => (false, db)
  | some rows => (true, { db with projects := rows })

/-- `INSERT INTO materials`. -/
def saveMaterial (m : MaterialId) (i : InstallationId) (db : EditingDb) : Bool × EditingDb :=
  match db.materials.insert? ⟨m, i⟩ with
  | none => (false, db)
  | some rows => (true, { db with materials := rows })

/-- `DELETE FROM materials`, which a reference restricts. -/
def deleteMaterial (m : MaterialId) (i : InstallationId) (db : EditingDb) : Bool × EditingDb :=
  if ∃ r ∈ db.references.rows, r.materialId = m ∧ r.installationId = i then (false, db)
  else (true, { db with materials := db.materials.deleteWhere fun r => r = ⟨m, i⟩ })

end EditingDb

/-- One transaction; what raises is rolled back. -/
def exec : (o : EditingOp) → EditingDb → o.Ret × EditingDb
  | .latestRevision p i, db => (db.latestRevision p i, db)
  | .saveTimeline t i, db =>
    match db.save t i with
    | .ok db' => (.ok (), db')
    | .error e => (.error e, db)
  | .saveProject p i, db => db.saveProject p i
  | .saveMaterial m i, db => db.saveMaterial m i
  | .deleteMaterial m i, db => db.deleteMaterial m i

/-! ## The service -/

/-- The arguments of `save`, with the id and the time it would draw. -/
structure SaveRequest where
  projectId : EditingProjectId
  installationId : InstallationId
  durationMs : Nat
  tracks : List TimelineTrack
  expectedRevision : Option Nat
  newId : TimelineId
  now : Time

inductive SaveOutcome where
  | saved (t : Timeline)
  | revisionConflict (currentRevision : Nat)
  | invalidQuery
  | failed (e : TimelineFailure)

abbrev SaveProg := Prog EditingOp EditingOp.Ret SaveOutcome

/-- The repository as the service calls it. -/
def latestRevision (r : SaveRequest) : Prog EditingOp EditingOp.Ret (Option Timeline) :=
  .op (EditingOp.latestRevision r.projectId r.installationId)

def saveTimeline (r : SaveRequest) (t : Timeline) :
    Prog EditingOp EditingOp.Ret (Except TimelineFailure Unit) :=
  .op (EditingOp.saveTimeline t r.installationId)

/-- The revision a save builds on the latest one.
mirrors timelines.py:189-196 -/
def nextFields (r : SaveRequest) (latest : Option Timeline) : TimelineFields where
  timelineId := match latest with
    | none => r.newId
    | some latest => latest.timelineId
  projectId := r.projectId
  revision := match latest with
    | none => 1
    | some latest => latest.revision + 1
  durationMs := r.durationMs
  tracks := r.tracks
  createdAt := r.now

/-- The `except TimelineRevisionAlreadyStored` of `save`. -/
def reread (r : SaveRequest) : SaveProg := do
  match ← latestRevision r with
  | none => pure (.failed .persistenceUnavailable)
  | some current => pure (.revisionConflict current.revision)

def store (r : SaveRequest) (t : Timeline) : SaveProg := do
  match ← saveTimeline r t with
  | .ok () => pure (.saved t)
  | .error .revisionAlreadyStored => reread r
  | .error e => pure (.failed e)

/-- `save`, once the latest revision is known. -/
def proceed (r : SaveRequest) (latest : Option Timeline) : SaveProg :=
  let currentRevision := match latest with
    | none => 0
    | some latest => latest.revision
  if r.expectedRevision ≠ none ∧ r.expectedRevision ≠ some currentRevision then
    pure (.revisionConflict currentRevision)
  else
    match Timeline.make (nextFields r latest) with
    | none => pure .invalidQuery
    | some t => store r t

/-- `TimelineService.save`.
mirrors timelines.py:166-209 -/
def save (r : SaveRequest) : SaveProg := do
  let latest ← latestRevision r
  proceed r latest

/-- The operations of other services. -/
def EditingOp.foreign : EditingOp → Prop
  | .latestRevision .. => True
  | .saveTimeline .. => False
  | .saveProject .. => True
  | .saveMaterial .. => True
  | .deleteMaterial .. => True

/-- Saves whose fresh ids are drawn by `mint`, among the other services. -/
def saving (mint : TimelineId → EditingProjectId) :
    LTS (Crew SaveRequest EditingDb EditingOp EditingOp.Ret SaveOutcome)
      (CrewLabel SaveRequest EditingOp) :=
  crew (· = .empty) exec save (fun r => mint r.newId = r.projectId) EditingOp.foreign

/-! ## What an operation changes -/

/-- What the others never do: take away a project, an identity or a revision. -/
structure Grows (db db' : EditingDb) : Prop where
  projects : ∀ r ∈ db.projects.rows, r ∈ db'.projects.rows
  identities : ∀ x ∈ db.identities, x ∈ db'.identities
  timelines : db.timelines.rows <+: db'.timelines.rows

namespace Grows

theorem refl (db : EditingDb) : Grows db db := ⟨fun _ h => h, fun _ h => h, List.prefix_refl _⟩

theorem trans {a b c : EditingDb} (h : Grows a b) (h' : Grows b c) : Grows a c :=
  ⟨fun r hr => h'.projects r (h.projects r hr), fun x hx => h'.identities x (h.identities x hx),
    h.timelines.trans h'.timelines⟩

variable {db db' : EditingDb} (h : Grows db db')
include h

theorem owns {i : InstallationId} {p : EditingProjectId} (ho : db.Owns i p) : db'.Owns i p :=
  h.projects _ ho

theorem mem {t : Timeline} (ht : t ∈ db.timelines) : t ∈ db'.timelines := h.timelines.subset ht

theorem length_le (p : EditingProjectId) :
    (db.revisionsOf p).length ≤ (db'.revisionsOf p).length :=
  (h.timelines.filter _).length_le

end Grows

/-- A foreign operation leaves timelines, identities and references alone. -/
theorem exec_foreign {o : EditingOp} (ho : o.foreign) (db : EditingDb) :
    (∀ r ∈ db.projects.rows, r ∈ (exec o db).2.projects.rows) ∧
      (exec o db).2.identities = db.identities ∧ (exec o db).2.timelines = db.timelines ∧
      (exec o db).2.references = db.references := by
  cases o with
  | latestRevision p i => exact ⟨fun _ h => h, rfl, rfl, rfl⟩
  | saveTimeline t i => exact ho.elim
  | saveProject p i =>
    show (∀ r ∈ db.projects.rows, r ∈ (db.saveProject p i).2.projects.rows) ∧ _
    cases hins : db.projects.insert? ⟨p, i⟩ with
    | none => simp [exec, EditingDb.saveProject, hins]
    | some rows =>
      simp only [exec, EditingDb.saveProject, hins, and_self, and_true]
      exact fun r hr => (Table.mem_insert? hins).2 (.inl hr)
  | saveMaterial m i =>
    cases hins : db.materials.insert? ⟨m, i⟩ with
    | none => simp [exec, EditingDb.saveMaterial, hins]
    | some rows => simp [exec, EditingDb.saveMaterial, hins]
  | deleteMaterial m i =>
    by_cases href : ∃ r ∈ db.references.rows, r.materialId = m ∧ r.installationId = i
    · simp [exec, EditingDb.deleteMaterial, if_pos href]
    · simp [exec, EditingDb.deleteMaterial, if_neg href]

/-! ## The invariant of the tables -/

/-- Consistent tables whose timeline ids were drawn for their projects. -/
structure Sound (mint : TimelineId → EditingProjectId) (db : EditingDb) : Prop where
  consistent : db.Consistent
  minted : ∀ x ∈ db.identities, mint x.timelineId = x.projectId

variable {mint : TimelineId → EditingProjectId}

theorem sound_empty : Sound mint .empty := ⟨EditingDb.consistent_empty, fun _ h => nomatch h⟩

namespace Sound

variable {db : EditingDb} (h : Sound mint db)
include h

theorem mint_timeline {t : Timeline} (ht : t ∈ db.timelines) : mint t.timelineId = t.projectId :=
  h.minted _ (h.consistent.identified t ht)

theorem foreign {o : EditingOp} (ho : o.foreign) :
    Sound mint (exec o db).2 ∧ Grows db (exec o db).2 := by
  obtain ⟨hprojects, hids, htimelines, hrefs⟩ := exec_foreign ho db
  have hrevs : ∀ p, (exec o db).2.revisionsOf p = db.revisionsOf p := by
    intro p
    unfold EditingDb.revisionsOf
    rw [htimelines]
  refine ⟨⟨⟨?_, ?_, ?_, ?_⟩, ?_⟩, ⟨hprojects, ?_, ?_⟩⟩
  · rw [htimelines, hids]
    exact h.consistent.identified
  · rw [htimelines, hids]
    exact h.consistent.begun
  · rw [htimelines, hrefs]
    exact h.consistent.referenced
  · intro p
    rw [hrevs]
    exact h.consistent.counted p
  · rw [hids]
    exact h.minted
  · rw [hids]
    exact fun _ hx => hx
  · exact ⟨[], by rw [htimelines, List.append_nil]⟩

theorem saved {t : Timeline} {i : InstallationId} {db' : EditingDb}
    (hs : EditingDb.Saved t i db db') (hle : t.revision ≤ (db.revisionsOf t.projectId).length + 1)
    (hmint : mint t.timelineId = t.projectId) : Sound mint db' ∧ Grows db db' := by
  refine ⟨⟨h.consistent.saved hs hle, fun x hx => ?_⟩, ⟨?_, hs.kept, ?_⟩⟩
  · rcases hs.identities x hx with hx | rfl
    · exact h.minted x hx
    · exact hmint
  · rw [hs.projects]
    exact fun _ hr => hr
  · rw [hs.timelines]
    exact List.prefix_append _ _

end Sound

/-! ## What a save knows -/

/-- The revision a save is about to store. -/
structure Prepared (mint : TimelineId → EditingProjectId) (r : SaveRequest) (db : EditingDb)
    (t : Timeline) : Prop where
  project : t.projectId = r.projectId
  duration : t.durationMs = r.durationMs
  tracks : t.tracks = r.tracks
  minted : mint t.timelineId = t.projectId
  expected : ∀ e, r.expectedRevision = some e → t.revision = e + 1
  /-- Nothing stored was skipped. -/
  le : t.revision ≤ (db.revisionsOf r.projectId).length + 1
  /-- A first revision, or one on top of a revision of the installation's project. -/
  base : t.revision = 1 ∨
    db.Owns r.installationId r.projectId ∧ ⟨r.projectId, t.timelineId⟩ ∈ db.identities

/-- Somebody else stored the revision first. -/
structure Overtaken (r : SaveRequest) (db : EditingDb) : Prop where
  owns : db.Owns r.installationId r.projectId
  pos : 0 < (db.revisionsOf r.projectId).length
  expected : ∀ e, r.expectedRevision = some e → e < (db.revisionsOf r.projectId).length

/-- The caller's expectation, if it has one, is the current revision. -/
def SaveRequest.UpToDate (r : SaveRequest) (db : EditingDb) : Prop :=
  ∀ e, r.expectedRevision = some e → db.currentRevision r.projectId r.installationId = e

/-- What the end of a save says about the database before and after it. -/
def Judged (r : SaveRequest) (db db' : EditingDb) : SaveOutcome → Prop
  | .saved t =>
    -- the request's cut, on top of the revision the caller expected
    t.projectId = r.projectId ∧ t.durationMs = r.durationMs ∧ t.tracks = r.tracks ∧
      t.revision = db.currentRevision r.projectId r.installationId + 1 ∧ r.UpToDate db ∧
      db'.timelines.rows = db.timelines.rows ++ [t]
  | .revisionConflict n =>
    db' = db ∧ n = db.currentRevision r.projectId r.installationId ∧
      ∀ e, r.expectedRevision = some e → e ≠ n
  | .invalidQuery =>
    db' = db ∧ r.UpToDate db ∧
      ∀ f : TimelineFields, f.durationMs = r.durationMs → f.tracks = r.tracks → ¬f.Valid
  | .failed e =>
    db' = db ∧ r.UpToDate db ∧
      (e = .projectMissing ∧ ¬db.Owns r.installationId r.projectId ∨
        e = .materialMissing ∧ ∃ track ∈ r.tracks, ∃ clip ∈ track.clips, ∃ m,
          clip.sourceMaterialId = some m ∧ ⟨m, r.installationId⟩ ∉ db.materials)

/-- Where a save stands in its program, and what it knows there. -/
inductive Standing (mint : TimelineId → EditingProjectId) (r : SaveRequest) (db : EditingDb) :
    SaveProg → Prop where
  | start (h : mint r.newId = r.projectId) : Standing mint r db (save r)
  | storing {t : Timeline} (h : Prepared mint r db t) : Standing mint r db (store r t)
  | rereading (h : Overtaken r db) : Standing mint r db (reread r)
  | done {out : SaveOutcome} (h : ∀ t, out = .saved t → t ∈ db.timelines) :
      Standing mint r db (.pure out)

namespace Prepared

variable {r : SaveRequest} {db db' : EditingDb} {t : Timeline}

theorem grows (h : Prepared mint r db t) (hg : Grows db db') : Prepared mint r db' t where
  project := h.project
  duration := h.duration
  tracks := h.tracks
  minted := h.minted
  expected := h.expected
  le := h.le.trans (Nat.succ_le_succ (hg.length_le _))
  base := h.base.imp_right fun ⟨ho, hid⟩ => ⟨hg.owns ho, hg.identities _ hid⟩

end Prepared

theorem Overtaken.grows {r : SaveRequest} {db db' : EditingDb} (h : Overtaken r db)
    (hg : Grows db db') : Overtaken r db' where
  owns := hg.owns h.owns
  pos := h.pos.trans_le (hg.length_le _)
  expected e he := (h.expected e he).trans_le (hg.length_le _)

theorem Standing.grows {r : SaveRequest} {db db' : EditingDb} {p : SaveProg}
    (h : Standing mint r db p) (hg : Grows db db') : Standing mint r db' p := by
  cases h with
  | start h => exact .start h
  | storing h => exact .storing (h.grows hg)
  | rereading h => exact .rereading (h.grows hg)
  | done h => exact .done fun t ht => hg.mem (h t ht)

/-! ## One turn of a save -/

/-- A turn that does not end the save changes nothing. -/
def Turned (r : SaveRequest) (db db' : EditingDb) (p : SaveProg) : Prop :=
  match p.result? with
  | none => db' = db
  | some out => Judged r db db' out

section

variable {r : SaveRequest} {db : EditingDb}

theorem proceed_latestRevision :
    proceed r (db.latestRevision r.projectId r.installationId) =
      if r.expectedRevision ≠ none ∧
          r.expectedRevision ≠ some (db.currentRevision r.projectId r.installationId) then
        .pure (.revisionConflict (db.currentRevision r.projectId r.installationId))
      else
        match Timeline.make (nextFields r (db.latestRevision r.projectId r.installationId)) with
        | none => .pure .invalidQuery
        | some t => store r t := rfl

theorem prepared_of_make (hdb : Sound mint db) (hmint : mint r.newId = r.projectId) {t : Timeline}
    (hup : r.UpToDate db)
    (ht : Timeline.make (nextFields r (db.latestRevision r.projectId r.installationId)) = some t) :
    Prepared mint r db t := by
  have hf := Timeline.make_eq_some ht
  have hproject : t.projectId = r.projectId := by rw [hf]; rfl
  have hduration : t.durationMs = r.durationMs := by rw [hf]; rfl
  have htracks : t.tracks = r.tracks := by rw [hf]; rfl
  unfold SaveRequest.UpToDate EditingDb.currentRevision at hup
  cases hl : db.latestRevision r.projectId r.installationId with
  | none =>
    rw [hl] at hf hup
    have hrev : t.revision = 1 := by rw [hf]; rfl
    have hid : t.timelineId = r.newId := by rw [hf]; rfl
    refine ⟨hproject, hduration, htracks, by rw [hid, hmint, hproject], ?_, by omega, .inl hrev⟩
    intro e he
    have := hup e he
    dsimp only at this
    omega
  | some latest =>
    rw [hl] at hf hup
    have hrev : t.revision = latest.revision + 1 := by rw [hf]; rfl
    have hid : t.timelineId = latest.timelineId := by rw [hf]; rfl
    obtain ⟨howns, hmem, hlen⟩ := hdb.consistent.latestRevision_eq_some hl
    obtain ⟨hstored, hp⟩ := EditingDb.mem_revisionsOf.1 hmem
    have hident := hdb.consistent.identified latest hstored
    rw [hp, ← hid] at hident
    refine ⟨hproject, hduration, htracks, ?_, ?_, by omega, .inr ⟨howns, hident⟩⟩
    · rw [hid, hdb.mint_timeline hstored, hp, hproject]
    · intro e he
      have := hup e he
      dsimp only at this
      omega

theorem proceed_turn (hdb : Sound mint db) (hmint : mint r.newId = r.projectId) :
    Standing mint r db (proceed r (db.latestRevision r.projectId r.installationId)) ∧
      Turned r db db (proceed r (db.latestRevision r.projectId r.installationId)) := by
  rw [proceed_latestRevision]
  by_cases hstale : r.expectedRevision ≠ none ∧
      r.expectedRevision ≠ some (db.currentRevision r.projectId r.installationId)
  · rw [if_pos hstale]
    refine ⟨.done fun t ht => (nomatch ht), rfl, rfl, fun e he hn => ?_⟩
    exact hstale.2 (he.trans (congrArg some hn))
  · have hup : r.UpToDate db := by
      intro e he
      rw [he] at hstale
      by_contra hne
      exact hstale ⟨Option.some_ne_none e, fun h => hne (Option.some.inj h).symm⟩
    rw [if_neg hstale]
    cases hmake : Timeline.make (nextFields r (db.latestRevision r.projectId r.installationId)) with
    | none =>
      refine ⟨.done fun t ht => (nomatch ht), rfl, hup, fun f hd htr hv => ?_⟩
      refine Timeline.make_eq_none hmake (hv.of_cut hd htr ?_)
      unfold nextFields
      cases db.latestRevision r.projectId r.installationId with
      | none => exact Nat.le_refl 1
      | some latest => exact Nat.succ_le_succ (Nat.zero_le _)
    | some t => exact ⟨.storing (prepared_of_make hdb hmint hup hmake), rfl⟩

theorem reread_turn (hdb : Sound mint db) (h : Overtaken r db) :
    ∃ current, db.latestRevision r.projectId r.installationId = some current ∧
      Judged r db db (.revisionConflict current.revision) := by
  cases hl : db.latestRevision r.projectId r.installationId with
  | none =>
    exfalso
    have hpos := h.pos
    rw [hdb.consistent.latestRevision_eq_none hl h.owns] at hpos
    exact Nat.lt_irrefl 0 hpos
  | some current =>
    obtain ⟨howns, -, hlen⟩ := hdb.consistent.latestRevision_eq_some hl
    refine ⟨current, rfl, rfl, ?_, fun e he hn => ?_⟩
    · rw [hdb.consistent.currentRevision_eq howns, hlen]
    · have := h.expected e he
      omega

/-- A save whose revision is stored already was overtaken. -/
theorem overtaken_of_refused (hdb : Sound mint db) {t : Timeline} (hp : Prepared mint r db t)
    (h : EditingDb.Refused t r.installationId db .revisionAlreadyStored) : Overtaken r db := by
  cases h with
  | begun howns hx hid =>
    rw [hp.project] at howns hx
    have hpos := hdb.consistent.revisionsOf_pos hx
    refine ⟨howns, hpos, fun e he => ?_⟩
    rcases hp.base with hrev | ⟨-, hmem⟩
    · have := hp.expected e he
      omega
    · exfalso
      obtain ⟨hxmem, hxp⟩ := EditingDb.identity?_eq_some.1 hx
      have heq := Table.eq_of_not_apart hxmem hmem fun hap => hap.1 hxp
      exact hid (by rw [heq])
  | @taken howns x hx hid hrev =>
    rw [hp.project] at howns
    have hxp : x.projectId = r.projectId := by
      rw [← hdb.mint_timeline hx, hid, hp.minted, hp.project]
    have hle := (hdb.consistent.revision_le (EditingDb.mem_revisionsOf.2 ⟨hx, hxp⟩)).2
    have hpos := t.valid.revision_pos
    refine ⟨howns, by omega, fun e he => ?_⟩
    have := hp.expected e he
    omega

/-- A save that misses a material was not overtaken. -/
theorem upToDate_of_missing (hdb : Sound mint db) {t : Timeline} (hp : Prepared mint r db t)
    (howns : db.Owns r.installationId r.projectId)
    (hfresh : ∀ x ∈ db.timelines, ¬(x.timelineId = t.timelineId ∧ x.revision = t.revision))
    (hid : ∀ x ∈ db.identities, x.projectId = t.projectId → x.timelineId = t.timelineId) :
    r.UpToDate db := by
  intro e he
  have hrev := hp.expected e he
  have hle := hp.le
  rw [hdb.consistent.currentRevision_eq howns]
  by_contra hne
  obtain ⟨old, hold, holdrev⟩ := hdb.consistent.revision_mem (p := r.projectId)
    t.valid.revision_pos (by omega)
  obtain ⟨hmem, holdp⟩ := EditingDb.mem_revisionsOf.1 hold
  have hident := hdb.consistent.identified old hmem
  exact hfresh old hmem ⟨hid _ hident (holdp.trans hp.project.symm), holdrev⟩

/-- A save of a project the installation does not have expected no revision. -/
theorem upToDate_of_not_owns {t : Timeline} (hp : Prepared mint r db t)
    (howns : ¬db.Owns r.installationId r.projectId) : r.UpToDate db := by
  intro e he
  have hrev := hp.expected e he
  have hzero : db.currentRevision r.projectId r.installationId = 0 := by
    unfold EditingDb.currentRevision EditingDb.latestRevision
    rw [if_neg howns]
  rcases hp.base with hone | ⟨ho, -⟩
  · omega
  · exact absurd ho howns

theorem store_turn (hdb : Sound mint db) {t : Timeline} (hp : Prepared mint r db t) {o : EditingOp}
    {k : o.Ret → SaveProg} (hk : Prog.call o k = store r t) :
    Sound mint (exec o db).2 ∧ Grows db (exec o db).2 ∧
      Standing mint r (exec o db).2 (k (exec o db).1) ∧
      Turned r db (exec o db).2 (k (exec o db).1) := by
  cases hk
  simp only [exec]
  cases hs : db.save t r.installationId with
  | ok db' =>
    have hsaved := EditingDb.save_eq_ok hs
    have hproject := hp.project
    have hle : t.revision ≤ (db.revisionsOf t.projectId).length + 1 := by
      rw [hproject]
      exact hp.le
    have hrev := hdb.consistent.saved_revision hsaved hle
    obtain ⟨hsound, hgrows⟩ := hdb.saved hsaved hle hp.minted
    have howns := hsaved.owned
    rw [hproject] at hrev howns
    rw [← hdb.consistent.currentRevision_eq howns] at hrev
    refine ⟨hsound, hgrows, .done fun t' ht => ?_, hproject, hp.duration, hp.tracks, hrev, ?_,
      hsaved.timelines⟩
    · cases ht
      rw [Table.mem_def, hsaved.timelines]
      exact List.mem_append.2 (.inr (List.mem_singleton.2 rfl))
    · intro e he
      have := hp.expected e he
      omega
  | error e =>
    have hrefused := EditingDb.save_eq_error hdb.consistent hs
    refine ⟨hdb, .refl db, ?_⟩
    cases hrefused with
    | projectMissing howns =>
      rw [hp.project] at howns
      exact ⟨.done fun t' ht => (nomatch ht), rfl, upToDate_of_not_owns hp howns,
        .inl ⟨rfl, howns⟩⟩
    | collided hx hid hproject =>
      -- the id was drawn for one project only
      exact absurd ((hdb.minted _ hx).symm.trans ((congrArg mint hid).trans hp.minted)) hproject
    | begun howns hx hid =>
      exact ⟨.rereading (overtaken_of_refused hdb hp (.begun howns hx hid)), rfl⟩
    | taken howns hx hid hrev =>
      exact ⟨.rereading (overtaken_of_refused hdb hp (.taken howns hx hid hrev)), rfl⟩
    | materialMissing howns hfresh hid hm hmissing =>
      rw [hp.project] at howns
      refine ⟨.done fun t' ht => (nomatch ht), rfl, upToDate_of_missing hdb hp howns hfresh hid,
        .inr ⟨rfl, ?_⟩⟩
      obtain ⟨track, htrack, hclip⟩ := List.mem_flatMap.1 (List.mem_dedup.1 hm)
      obtain ⟨clip, hclip, hsource⟩ := List.mem_filterMap.1 hclip
      exact ⟨track, hp.tracks ▸ htrack, clip, hclip, _, hsource, hmissing⟩

/-- One call of a save, wherever it stands. -/
theorem standing_turn (hdb : Sound mint db) {o : EditingOp} {k : o.Ret → SaveProg}
    (h : Standing mint r db (.call o k)) :
    Sound mint (exec o db).2 ∧ Grows db (exec o db).2 ∧
      Standing mint r (exec o db).2 (k (exec o db).1) ∧
      Turned r db (exec o db).2 (k (exec o db).1) := by
  generalize hp : Prog.call o k = p at h
  cases h with
  | start hmint =>
    cases hp
    exact ⟨hdb, .refl db, proceed_turn hdb hmint⟩
  | storing hprep => exact store_turn hdb hprep hp
  | rereading hover =>
    cases hp
    obtain ⟨current, hl, hjudged⟩ := reread_turn hdb hover
    refine ⟨hdb, .refl db, ?_⟩
    simp only [exec]
    rw [hl]
    exact ⟨.done fun t ht => (nomatch ht), hjudged⟩
  | done => cases hp

end

/-! ## Any number of saves -/

theorem saving_rules (mint : TimelineId → EditingProjectId) :
    CrewRules (· = EditingDb.empty) exec save (fun r => mint r.newId = r.projectId)
      EditingOp.foreign (Sound mint) (fun r p db => Standing mint r db p) Grows where
  init _ h := h ▸ sound_empty
  start _ _ _ hr := .start hr
  turn _ _ _ _ hdb h :=
    ⟨(standing_turn hdb h).1, (standing_turn hdb h).2.1, (standing_turn hdb h).2.2.1⟩
  other _ _ hdb ho := hdb.foreign ho
  stable _ _ _ _ h hg := h.grows hg

abbrev SavingCrew := Crew SaveRequest EditingDb EditingOp EditingOp.Ret SaveOutcome

/-- The tables are sound, and every save knows what it should. -/
def Kept (mint : TimelineId → EditingProjectId) (W : SavingCrew) : Prop :=
  Sound mint W.state ∧ ∀ w ∈ W.workers, Standing mint w.request W.state w.todo

/-- Save number `i` returned `t`. -/
def SavedBy (W : SavingCrew) (i : Nat) (t : Timeline) : Prop :=
  ∃ w, W.workers[i]? = some w ∧ w.result? = some (.saved t)

/-- No revision was stored by two saves. -/
def NotTwice (W : SavingCrew) : Prop :=
  ∀ i j t t', i ≠ j → SavedBy W i t → SavedBy W j t' →
    ¬(t.timelineId = t'.timelineId ∧ t.revision = t'.revision)

theorem Kept.inductive (mint : TimelineId → EditingProjectId) :
    (saving mint).Inductive (Kept mint) := crew_inductive (saving_rules mint)

theorem SavedBy.stored {W : SavingCrew} (h : Kept mint W) {i : Nat} {t : Timeline}
    (hs : SavedBy W i t) : t ∈ W.state.timelines := by
  obtain ⟨⟨r, p⟩, hw, hres⟩ := hs
  have hp : p = .pure (.saved t) := Prog.result?_eq_some hres
  have hstand : Standing mint r W.state p := h.2 _ (List.mem_of_getElem? hw)
  cases hstand with
  | start => cases hp
  | storing => cases hp
  | rereading => cases hp
  | done hout =>
    cases hp
    exact hout t rfl

/-- A turn of a save, judged. -/
theorem turn_judged {W W' : SavingCrew} (h : Kept mint W) {i : Nat}
    (hs : (saving mint).step W (.turn i) W') :
    ∃ r p, W'.workers[i]? = some ⟨r, p⟩ ∧ Turned r W.state W'.state p ∧
      ∀ j, j ≠ i → W'.workers[j]? = W.workers[j]? := by
  cases hs with
  | @turn i r o k hi =>
    refine ⟨r, _, ?_, (standing_turn h.1 (h.2 _ (List.mem_of_getElem? hi))).2.2.2, ?_⟩
    · exact List.getElem?_set_self (List.getElem?_eq_some_iff.1 hi).1
    · exact fun j hj => List.getElem?_set_ne (Ne.symm hj)

theorem notTwice_step {W W' : SavingCrew} {l : CrewLabel SaveRequest EditingOp} (h : Kept mint W)
    (hn : NotTwice W) (hs : (saving mint).step W l W') : NotTwice W' := by
  cases l with
  | start r =>
    cases hs with
    | start hr =>
      -- the save that starts has no result yet
      have hold : ∀ i t, SavedBy { W with workers := W.workers ++ [⟨r, save r⟩] } i t →
          SavedBy W i t := by
        intro i t ⟨w, hw, hres⟩
        rcases Nat.lt_or_ge i W.workers.length with hlt | hge
        · exact ⟨w, (List.getElem?_append_left hlt).symm.trans hw, hres⟩
        · exfalso
          have hmem := hw
          rw [List.getElem?_append_right hge] at hmem
          rw [List.mem_singleton.1 (List.mem_of_getElem? hmem)] at hres
          cases hres
      exact fun i j t t' hij ht ht' => hn i j t t' hij (hold i t ht) (hold j t' ht')
  | other o =>
    cases hs with
    | other ho => exact hn
  | turn i =>
    obtain ⟨r, p, hi, hturned, hrest⟩ := turn_judged h hs
    have hold : ∀ j t, j ≠ i → SavedBy W' j t → SavedBy W j t :=
      fun j t hj ⟨w, hw, hres⟩ => ⟨w, (hrest j hj).symm.trans hw, hres⟩
    -- what the turn stored is apart from everything stored before
    have hnew : ∀ j t t', j ≠ i → SavedBy W' i t → SavedBy W' j t' →
        ¬(t'.timelineId = t.timelineId ∧ t'.revision = t.revision) := by
      intro j t t' hj ⟨w, hw, hres⟩ ht'
      rw [hi] at hw
      cases hw
      rw [show p = .pure (.saved t) from Prog.result?_eq_some hres] at hturned
      have hrows : W'.state.timelines.rows = W.state.timelines.rows ++ [t] :=
        hturned.2.2.2.2.2
      have hdistinct := W'.state.timelines.distinct
      rw [hrows, List.pairwise_append] at hdistinct
      exact hdistinct.2.2 t' ((hold j t' hj ht').stored h) t List.mem_cons_self
    intro a b t t' hab ha hb
    by_cases hai : a = i
    · subst hai
      exact fun hsame => hnew b t t' (Ne.symm hab) ha hb ⟨hsame.1.symm, hsame.2.symm⟩
    · by_cases hbi : b = i
      · subst hbi
        exact hnew a t' t hai hb ha
      · exact hn a b t t' hab (hold a t hai ha) (hold b t' hbi hb)

/-- The revisions of a project are 1, 2, …, n of one timeline. -/
def Lineage (db : EditingDb) (p : EditingProjectId) : Prop :=
  (db.revisionsOf p).map (·.revision) = List.range' 1 (db.revisionsOf p).length ∧
    ∀ t ∈ db.revisionsOf p, ∀ t' ∈ db.revisionsOf p, t.timelineId = t'.timelineId

theorem Sound.lineage {db : EditingDb} (h : Sound mint db) (p : EditingProjectId) :
    Lineage db p := by
  refine ⟨h.consistent.counted p, fun t ht t' ht' => ?_⟩
  obtain ⟨hmem, hp⟩ := EditingDb.mem_revisionsOf.1 ht
  obtain ⟨hmem', hp'⟩ := EditingDb.mem_revisionsOf.1 ht'
  have heq := Table.eq_of_not_apart (h.consistent.identified t hmem)
    (h.consistent.identified t' hmem') fun hap => hap.1 (hp.trans hp'.symm)
  exact (TimelineIdentity.mk.inj heq).2

/-- Only a save that succeeds changes the stored timelines. -/
theorem step_grows {W W' : SavingCrew} {l : CrewLabel SaveRequest EditingOp} (h : Kept mint W)
    (hs : (saving mint).step W l W') : Grows W.state W'.state := by
  cases hs with
  | start => exact .refl _
  | turn hi => exact (standing_turn h.1 (h.2 _ (List.mem_of_getElem? hi))).2.1
  | other ho => exact (h.1.foreign ho).2

end

/-! ## Two racing first saves -/

namespace Racing

/-- The ASCII part of the character database. -/
scoped instance ascii : UnicodeData where
  isSpace c := c.isWhitespace
  isOther c := c.val < 32 ∨ c.val = 127

/-- One still picture for a tenth of a second. -/
def picture : TimelineClip where
  clipId := ['c']
  startMs := 0
  durationMs := 100
  sourceMaterialId := some 7
  sourceInMs := none
  sourceOutMs := none
  text := none
  gainDb := none
  transitionIn := none
  originalAudioMode := none
  valid := ⟨rfl, by decide, by decide, rfl, by decide, rfl, rfl, rfl⟩

def lane : TimelineTrack where
  trackId := ['v']
  kind := .visual
  clips := [picture]
  valid := ⟨rfl, by decide, by decide, by decide, by decide, rfl⟩

/-- Two users open the project before it has a timeline. -/
def request (newId : TimelineId) : SaveRequest where
  projectId := 1
  installationId := 1
  durationMs := 100
  tracks := [lane]
  expectedRevision := some 0
  newId := newId
  now := 0

def steps : List (CrewLabel SaveRequest EditingOp) :=
  [.other (.saveProject 1 1), .other (.saveMaterial 7 1), .start (request 10),
    .start (request 11), .turn 0, .turn 1, .turn 0, .turn 1, .turn 1]

/-- What a label does, where it can be taken. -/
def next (W : SavingCrew) : CrewLabel SaveRequest EditingOp → SavingCrew
  | .start r => { W with workers := W.workers ++ [⟨r, save r⟩] }
  | .other o => { W with state := (exec o W.state).2 }
  | .turn i =>
    match W.workers[i]? with
    | some ⟨r, .call o k⟩ =>
      ⟨(exec o W.state).2, W.workers.set i ⟨r, k (exec o W.state).1⟩⟩
    | _ => W

def raced : SavingCrew := steps.foldl next ⟨.empty, []⟩

theorem raced_reachable : (saving fun _ => 1).Reachable raced := by
  refine ⟨⟨.empty, []⟩, steps, ⟨rfl, rfl⟩, ?_⟩
  refine .cons (.other _ trivial) (.cons (.other _ trivial) ?_)
  refine .cons (.start _ rfl) (.cons (.start _ rfl) ?_)
  refine .cons (.turn (i := 0) _ rfl) (.cons (.turn (i := 1) _ rfl) ?_)
  refine .cons (.turn (i := 0) _ rfl) (.cons (.turn (i := 1) _ rfl) ?_)
  exact .cons (.turn (i := 1) _ rfl) (.nil _)

/-- What the two users are told. -/
def answers (W : SavingCrew) : List (Option (Nat × Nat)) :=
  W.workers.map fun w =>
    match w.result? with
    | some (.saved t) => some (t.timelineId, t.revision)
    | some (.revisionConflict n) => some (0, n)
    | _ => none

end Racing
end AutomationTool.Editing
