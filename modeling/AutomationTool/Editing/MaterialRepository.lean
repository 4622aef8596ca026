import AutomationTool.Core.Failing
import AutomationTool.Core.Prog
import AutomationTool.Editing.Materials
import AutomationTool.Editing.TimelineRepository

/-!
# Stored materials

The table of materials over SQLite, and who writes it. A call (`MaterialOp`) is what happens
in the database at once. Reading is one call and writing another also where one session does
both, as in `apply_smart_edit_writeback`: SQLite has no row locks (`FOR UPDATE` is left out of
the statement), and the driver opens the transaction with the first statement that writes.

* `updateWhere_eq_some`, `commit_eq_ok`: what a statement and a writeback that commit did.
-/
namespace AutomationTool.Editing

open Protocol

/-- A row of `materials`. -/
structure MaterialRecord extends MaterialFields where
  installationId : InstallationId
  deriving DecidableEq

/-- mirrors database/schema.py:2385-2439 -/
instance : Row MaterialRecord where
  apart a b := a.materialId ≠ b.materialId ∧
    ¬(a.installationId = b.installationId ∧ a.contentDigest = b.contentDigest)
  symm h := ⟨h.1.symm, fun h' => h.2 ⟨h'.1.symm, h'.2.symm⟩⟩
  irrefl _ h := h.1 rfl
  dec _ _ := inferInstance

inductive MaterialFailure where
  | alreadyRegistered | notFound | inUse | descriptionProtected | snapshotConflict
  | dataRejected | persistenceUnavailable | invalidModel | invalidQuery
  deriving DecidableEq, Repr

/-! ## Integrity errors -/

/-- The names the schema gives the constraints an insert or a delete may break. -/
inductive ConstraintName where
  | pkMaterials | uqMaterialsInstallationContentDigest | fkMaterialsInstallation
  | fkTimelineMaterialReferencesMaterialOwner
  deriving DecidableEq, Repr

inductive IntegrityMessage where
  | uniqueConstraintFailed (constraint : ConstraintName)
  | foreignKeyConstraintFailed
  deriving DecidableEq, Repr

structure IntegrityError where
  message : IntegrityMessage
  /-- The attribute of that name, where the driver has one. -/
  constraintName : Option ConstraintName

/-- SQLite says it in the message and nowhere else. -/
def sqliteError (message : IntegrityMessage) : IntegrityError := ⟨message, none⟩

/-- The `except IntegrityError` of `save`.
mirrors material_repository.py:210-221 -/
def saveFailure (error : IntegrityError) : MaterialFailure :=
  if error.constraintName = some .pkMaterials ∨
      error.constraintName = some .uqMaterialsInstallationContentDigest then .alreadyRegistered
  else .dataRejected

/-- The `except IntegrityError` of `delete`.
mirrors material_repository.py:318-328 -/
def deleteFailure (error : IntegrityError) : MaterialFailure :=
  if error.constraintName = some .fkTimelineMaterialReferencesMaterialOwner then .inUse
  else .dataRejected

/-! ## The columns a statement assigns -/

structure MaterialValues where
  speechAnalysis : Option SpeechAnalysisValues
  description : Option DescriptionValues
  shotBoundariesMs : Option (List Nat)

namespace MaterialValues

/-- `dict.update`. -/
def update (v w : MaterialValues) : MaterialValues where
  speechAnalysis := w.speechAnalysis.or v.speechAnalysis
  description := w.description.or v.description
  shotBoundariesMs := w.shotBoundariesMs.or v.shotBoundariesMs

def set (v : MaterialValues) (r : MaterialRecord) : MaterialRecord where
  toProbeValues := r.toProbeValues
  toSpeechAnalysisValues := v.speechAnalysis.getD r.toSpeechAnalysisValues
  toDescriptionValues := v.description.getD r.toDescriptionValues
  shotBoundariesMs := v.shotBoundariesMs.getD r.shotBoundariesMs
  materialId := r.materialId
  installationId := r.installationId

theorem keepsKeys (v : MaterialValues) : Table.KeepsKeys v.set := fun _ _ => Iff.rfl

end MaterialValues

section

variable [UnicodeData]

/-! ## The writeback of a smart edit -/

/-- `SmartEditMaterialAnalysisWriteback`. -/
structure AnalysisFields extends SpeechAnalysisValues, UnderstandingValues where
  materialId : MaterialId
  contentDigest : List Char

/-- The material the constructor checks an analysis with.
mirrors materials.py:139-167 -/
def AnalysisFields.validation (a : AnalysisFields) : MaterialFields where
  kind := .video
  durationMs := some (max 1 (max ((a.speechSegmentsMs.map (·.2)).foldr max 0)
    (a.shotBoundariesMs.foldr max 0 + 1)))
  width := some 1
  height := some 1
  contentDigest := a.contentDigest
  hasAudio := a.hasSpeech
  audioLoudnessLufs := none
  toSpeechAnalysisValues := a.toSpeechAnalysisValues
  toUnderstandingValues := a.toUnderstandingValues
  materialId := a.materialId

structure SmartEditMaterialAnalysisWriteback extends AnalysisFields where
  valid : toAnalysisFields.validation.Valid

/-- `_valid_narration`. -/
def validNarration (m : Material) : Bool :=
  m.kind = .audio ∧ m.hasAudio ∧ m.hasSpeech ∧
    (m.durationMs.any fun d => m.speechSegmentsMs = [(0, d)]) ∧ m.speechTranscript ≠ none ∧
    m.shotBoundariesMs = [] ∧ m.aiDescription = none ∧ m.aiTags = [] ∧
    m.descriptionSource = .ai ∧ m.describedAt = none

/-- mirrors materials.py:173-227 -/
structure SmartEditMaterialWriteback where
  analyses : List SmartEditMaterialAnalysisWriteback
  narrations : List Material
  analyses_le : analyses.length ≤ 32
  narrations_le : narrations.length ≤ 32
  validNarrations : ∀ m ∈ narrations, validNarration m = true
  nonempty : analyses ≠ [] ∨ narrations ≠ []
  analysisIds : (analyses.map (·.materialId)).Nodup
  narrationIds : (narrations.map (·.materialId)).Nodup
  narrationDigests : (narrations.map (·.contentDigest)).Nodup
  ids_disjoint : (analyses.map (·.materialId)).Disjoint (narrations.map (·.materialId))
  digests_disjoint : (analyses.map (·.contentDigest)).Disjoint (narrations.map (·.contentDigest))

/-- mirrors material_repository.py:486-518 -/
def judgeAnalysis (current : Material) (a : SmartEditMaterialAnalysisWriteback) :
    Except MaterialFailure Material :=
  if current.contentDigest ≠ a.contentDigest then .error .snapshotConflict
  else if a.descriptionSource = .user then
    if current.toUnderstandingValues ≠ a.toUnderstandingValues then .error .snapshotConflict
    else .ok current
  else if current.descriptionSource = .user then .error .descriptionProtected
  else
    match a.aiDescription, a.describedAt with
    | none, _ =>
      if current.aiDescription ≠ none ∨ current.aiTags ≠ [] ∨
          current.shotBoundariesMs ≠ a.shotBoundariesMs ∨ current.describedAt ≠ none then
        .error .snapshotConflict
      else .ok current
    -- `assert analysis.described_at is not None`
    | some _, none => .error .persistenceUnavailable
    | some description, some describedAt =>
      match current.withAiUnderstanding description a.aiTags a.shotBoundariesMs describedAt with
      | none => .error .invalidModel
      | some changed => .ok changed

/-- What an analysis makes of the materials that were read.
mirrors material_repository.py:484-527 -/
def changedAnalysis (stored : List Material) (a : SmartEditMaterialAnalysisWriteback) :
    Except MaterialFailure Material :=
  match stored.find? fun m => m.materialId = a.materialId with
  | none => .error .persistenceUnavailable
  | some current => do
    let changed ← judgeAnalysis current a
    match changed.withSpeechAnalysis a.toSpeechAnalysisValues with
    | none => .error .invalidModel
    | some changed => .ok changed

/-- `_hydrate`. -/
def MaterialRecord.hydrate (r : MaterialRecord) : Except MaterialFailure Material :=
  match Material.make r.toMaterialFields with
  | none => .error .invalidModel
  | some m => .ok m

/-- Whether a narration is stored already, among the rows that were read.
mirrors material_repository.py:565-575 -/
def judgeNarration (rows : List MaterialRecord) (i : InstallationId) (narration : Material) :
    Except MaterialFailure Bool :=
  match rows.find? fun r => r.materialId = narration.materialId with
  | some existing => do
    if existing.installationId ≠ i then .error .alreadyRegistered
    else
      let hydrated ← existing.hydrate
      if hydrated ≠ narration then .error .alreadyRegistered else .ok true
  | none =>
    if ∃ r ∈ rows, r.installationId = i ∧ r.contentDigest = narration.contentDigest then
      .error .alreadyRegistered
    else .ok false

/-- The narrations that have to be stored. -/
def newNarrations (rows : List MaterialRecord) (i : InstallationId) :
    List Material → Except MaterialFailure (List Material)
  | [] => .ok []
  | narration :: narrations => do
    let stored ← judgeNarration rows i narration
    let rest ← newNarrations rows i narrations
    if stored then .ok rest else .ok (narration :: rest)

/-- `_description_values`. -/
def descriptionValues (m : Material) : MaterialValues := ⟨none, some m.toDescriptionValues, none⟩

/-- `_understanding_values`. -/
def understandingValues (m : Material) : MaterialValues :=
  ⟨none, some m.toDescriptionValues, some m.shotBoundariesMs⟩

/-- `_speech_analysis_values`. -/
def speechAnalysisValues (m : Material) : MaterialValues :=
  ⟨some m.toSpeechAnalysisValues, none, none⟩

/-- The columns one entry of a writeback assigns.
mirrors material_repository.py:591-593 -/
def writebackValues (a : SmartEditMaterialAnalysisWriteback) (changed : Material) :
    MaterialValues :=
  if a.descriptionSource = .ai then
    (speechAnalysisValues changed).update (understandingValues changed)
  else speechAnalysisValues changed

/-! ## The store -/

structure MaterialStore where
  installations : List InstallationId
  materials : Table MaterialRecord
  references : Table MaterialReference
  /-- The foreign key of `timeline_material_references`. -/
  owned : ∀ r ∈ references, ∃ m ∈ materials, m.materialId = r.materialId ∧
    m.installationId = r.installationId

/-- `material_id` and `installation_id`, as every statement names a material. -/
def MaterialRecord.named (r : MaterialRecord) (m : MaterialId) (i : InstallationId) : Bool :=
  r.materialId = m ∧ r.installationId = i

namespace MaterialStore

def empty : MaterialStore := ⟨[], .empty, .empty, fun _ h => nomatch h⟩

def row? (s : MaterialStore) (m : MaterialId) (i : InstallationId) : Option MaterialRecord :=
  s.materials.find? (·.named m i)

/-- Some stored row refers to the material. -/
def Referenced (s : MaterialStore) (m : MaterialId) (i : InstallationId) : Prop :=
  ∃ r ∈ s.references.rows, r.materialId = m ∧ r.installationId = i

instance (s : MaterialStore) (m : MaterialId) (i : InstallationId) :
    Decidable (s.Referenced m i) :=
  inferInstanceAs (Decidable (∃ r ∈ s.references.rows, _))

/-- `INSERT INTO materials`, and what the driver says where it breaks a constraint. -/
def insert (s : MaterialStore) (row : MaterialRecord) : Except IntegrityError MaterialStore :=
  if s.materials.rows.any (fun r => r.materialId = row.materialId) then
    .error (sqliteError (.uniqueConstraintFailed .pkMaterials))
  else
    match h : s.materials.insert? row with
    | none => .error (sqliteError (.uniqueConstraintFailed .uqMaterialsInstallationContentDigest))
    | some rows =>
      if row.installationId ∉ s.installations then
        .error (sqliteError .foreignKeyConstraintFailed)
      else
        .ok { s with
          materials := rows
          owned := fun r hr => by
            obtain ⟨m, hm, ho⟩ := s.owned r hr
            exact ⟨m, (Table.mem_insert? h).2 (.inl hm), ho⟩ }

/-- `UPDATE materials SET … WHERE`, and the number of rows it matched. -/
def updateWhere (s : MaterialStore) (p : MaterialRecord → Bool) (v : MaterialValues) :
    Nat × MaterialStore :=
  (s.materials.rows.countP p,
    { s with
      materials := s.materials.updateWhere p v.set v.keepsKeys
      owned := fun r hr => by
        obtain ⟨m, hm, hid, hi⟩ := s.owned r hr
        refine ⟨_, Table.mem_updateWhere.2 ⟨m, hm, rfl⟩, ?_⟩
        split <;> exact ⟨hid, hi⟩ })

/-- mirrors material_repository.py:193-226 -/
def save (s : MaterialStore) (m : Material) (i : InstallationId) :
    Except MaterialFailure MaterialStore :=
  match s.insert ⟨m.toMaterialFields, i⟩ with
  | .error e => .error (saveFailure e)
  | .ok s' => .ok s'

/-- mirrors material_repository.py:228-246 -/
def get (s : MaterialStore) (m : MaterialId) (i : InstallationId) :
    Except MaterialFailure Material :=
  match s.row? m i with
  | none => .error .notFound
  | some row => row.hydrate

/-- mirrors material_repository.py:298-334 -/
def delete (s : MaterialStore) (m : MaterialId) (i : InstallationId) :
    Except MaterialFailure MaterialStore :=
  if h : s.Referenced m i then
    .error (deleteFailure (sqliteError .foreignKeyConstraintFailed))
  else if s.materials.rows.countP (·.named m i) = 0 then .error .notFound
  else .ok
    { s with
      materials := s.materials.deleteWhere (·.named m i)
      owned := fun r hr => by
        obtain ⟨x, hx, hid, hi⟩ := s.owned r hr
        refine ⟨x, Table.mem_deleteWhere.2 ⟨hx, decide_eq_false fun hn => ?_⟩, hid, hi⟩
        exact h ⟨r, hr, hid.symm.trans hn.1, hi.symm.trans hn.2⟩ }

/-- `_update_understanding_fields`.
mirrors material_repository.py:619-661 -/
def updateUnderstandingFields (s : MaterialStore) (m : Material) (i : InstallationId)
    (values : MaterialValues) (protectUser : Bool) : Except MaterialFailure MaterialStore :=
  let condition := fun r : MaterialRecord => r.named m.materialId i
  let statement := s.updateWhere
    (fun r => condition r && (!protectUser || r.descriptionSource ≠ .user)) values
  if statement.1 ≠ 0 then .ok statement.2
  else if (s.row? m.materialId i).isNone then .error .notFound
  else if protectUser then .error .descriptionProtected
  else .error .persistenceUnavailable

/-- mirrors material_repository.py:336-354 -/
def updateUserDescription (s : MaterialStore) (m : Material) (i : InstallationId) :
    Except MaterialFailure MaterialStore :=
  if m.descriptionSource ≠ .user then .error .dataRejected
  else s.updateUnderstandingFields m i (descriptionValues m) false

/-- mirrors material_repository.py:356-408 -/
def updateAiUnderstanding (s : MaterialStore) (m : Material) (i : InstallationId) :
    Except MaterialFailure MaterialStore :=
  if m.descriptionSource ≠ .ai then .error .dataRejected
  else s.updateUnderstandingFields m i (understandingValues m) true

/-- mirrors material_repository.py:410-442 -/
def updateSpeechAnalysis (s : MaterialStore) (m : Material) (i : InstallationId) :
    Except MaterialFailure MaterialStore :=
  let statement := s.updateWhere (·.named m.materialId i) (speechAnalysisValues m)
  if statement.1 ≠ 0 then .ok statement.2 else .error .notFound

/-! ## The transaction of a writeback -/

/-- The updates, one by one: each analysis with the material it made.
mirrors material_repository.py:586-606 -/
def updateAnalyses (i : InstallationId) :
    List (SmartEditMaterialAnalysisWriteback × Material) → MaterialStore →
      Except MaterialFailure MaterialStore
  | [], s => .ok s
  | (analysis, changed) :: entries, s =>
    let statement := s.updateWhere
      (fun r => r.named changed.materialId i && r.contentDigest = analysis.contentDigest)
      (writebackValues analysis changed)
    if statement.1 ≠ 1 then .error .snapshotConflict
    else updateAnalyses i entries statement.2

/-- The insert of all new narrations.
mirrors material_repository.py:607-617 -/
def insertNarrations (i : InstallationId) :
    List Material → MaterialStore → Except MaterialFailure MaterialStore
  | [], s => .ok s
  | n :: narrations, s =>
    match s.insert ⟨n.toMaterialFields, i⟩ with
    | .error _ => .error .alreadyRegistered
    | .ok s' => insertNarrations i narrations s'

/-- Everything `apply_smart_edit_writeback` writes, in the transaction that its first update
opens. -/
def commit (s : MaterialStore) (writeback : SmartEditMaterialWriteback)
    (changedAnalyses narrations : List Material) (i : InstallationId) :
    Except MaterialFailure MaterialStore :=
  -- `zip(…, strict=True)`
  if writeback.analyses.length ≠ changedAnalyses.length then .error .persistenceUnavailable
  else
    match updateAnalyses i (writeback.analyses.zip changedAnalyses) s with
    | .error e => .error e
    | .ok s' => insertNarrations i narrations s'

end MaterialStore

/-! ## The calls -/

inductive MaterialOp where
  | get (m : MaterialId) (i : InstallationId)
  | updateUserDescription (m : Material) (i : InstallationId)
  | updateAiUnderstanding (m : Material) (i : InstallationId)
  | updateSpeechAnalysis (m : Material) (i : InstallationId)
  | selectAnalyses (ids : List MaterialId) (i : InstallationId)
  | selectNarrations (ids : List MaterialId) (digests : List (List Char)) (i : InstallationId)
  | commit (writeback : SmartEditMaterialWriteback) (changedAnalyses narrations : List Material)
      (i : InstallationId)

abbrev MaterialOp.Ret : MaterialOp → Type
  | .get .. => Except MaterialFailure Material
  | .updateUserDescription .. | .updateAiUnderstanding .. | .updateSpeechAnalysis .. |
    .commit .. => Except MaterialFailure Unit
  | .selectAnalyses .. | .selectNarrations .. => List MaterialRecord

namespace MaterialStore

/-- A transaction that was refused left nothing. -/
def written (s : MaterialStore) (r : Except MaterialFailure MaterialStore) :
    Except MaterialFailure Unit × MaterialStore :=
  match r with
  | .ok s' => (.ok (), s')
  | .error e => (.error e, s)

def exec : (o : MaterialOp) → MaterialStore → o.Ret × MaterialStore
  | .get m i, s => (s.get m i, s)
  | .updateUserDescription m i, s => s.written (s.updateUserDescription m i)
  | .updateAiUnderstanding m i, s => s.written (s.updateAiUnderstanding m i)
  | .updateSpeechAnalysis m i, s => s.written (s.updateSpeechAnalysis m i)
  | .selectAnalyses ids i, s =>
    (s.materials.rows.filter fun r => r.installationId = i ∧ r.materialId ∈ ids, s)
  | .selectNarrations ids digests i, s =>
    (s.materials.rows.filter fun r =>
      r.materialId ∈ ids ∨ r.installationId = i ∧ r.contentDigest ∈ digests, s)
  | .commit writeback changedAnalyses narrations i, s =>
    s.written (s.commit writeback changedAnalyses narrations i)

end MaterialStore
end

namespace Shelf

/-- A video nobody has described. -/
def footage : MaterialRecord where
  kind := .video
  durationMs := some 1000
  width := some 1
  height := some 1
  contentDigest := List.replicate 64 'a'
  hasAudio := false
  audioLoudnessLufs := none
  hasSpeech := false
  speechSegmentsMs := []
  speechTranscript := none
  aiDescription := none
  aiTags := []
  descriptionSource := .ai
  describedAt := none
  shotBoundariesMs := []
  materialId := 7
  installationId := 1

def library : MaterialStore where
  installations := [1]
  materials := ⟨[footage], List.pairwise_singleton _ _⟩
  references := .empty
  owned _ h := nomatch h

end Shelf
end AutomationTool.Editing
