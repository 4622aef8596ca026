import AutomationTool.Core.Failing
import AutomationTool.Executor.SmartEditCommit

/-!
# A narration file that is refused after the move is never moved back

Behaviour (smart_edit_worker_process.py:668-697): after the workspace has been moved, the commit
compensates `LocalSmartEditWorkerRejected`, `MaterialPathRegistryRejected` and `OSError`.
`register_many` checks each source, and refuses one with `MaterialProbeRejected`
(material_probe.py:436-461, 1679), which is none of them: it leaves the commit as it is, with the
narration files in a durable directory that nothing refers to and that no abort removes.

Evidence: the rollback below the `try`; `MaterialPathRegistry.register` documents that "those
failures are raised as `MaterialProbeRejected`" (material_probe.py:1632-1636).

Counterexample: `stat` of the one narration file fails once, after the move.

`settled_iff`: when a commit is all or nothing. The two other ways out are a compensation whose
both halves fail, and a narration file with a time before the epoch.
-/
namespace AutomationTool.Bugs.StrandedNarration

open Executor.MaterialPaths Executor.EditingWorker Executor.SmartEdit Editing

section

variable (nt : Bool) (root : PosixPath) (staged : LocalSmartEditStagedJob)

/-- The narration is in the durable directory with its bytes, and a new registry resolves its
material to it. -/
def Published (disk : Disk) (registration : SmartEditNarrationRegistration) : Prop :=
  ∃ tree entries file, disk.durable = some tree ∧ load nt disk.document = .ok entries ∧
    tree registration.relativePath = some file ∧ file.digest = registration.contentDigest ∧
    file.stat.sizeBytes = registration.bytesWritten ∧
    ∀ again, (Registry.call nt ⟨disk.document, entries⟩
        (.resolve true registration.materialId (.ok file.stat) again)).1 =
      .returned (some
        ((durablePath root staged.jobId).joinParts registration.relativePath, file.stat))

/-- A commit from `disk` is all or nothing. -/
structure Settled (disk : Disk) (c : Committed) : Prop where
  completes : c.result = .ok () → c.staged.finalized = true ∧
    ∀ registration ∈ staged.narrationRegistrations, Published nt root staged c.disk registration
  /-- The registry and what stood in the durable place are as before, and an abort that can
  remove the job's directory leaves nothing of the job. -/
  raises : ∀ e, c.result = .error e → c.disk.document = disk.document ∧
    c.disk.durable = disk.durable ∧ (staged.finalized = false → ∀ o : Outcomes,
      o.jobLeft = none → o.jobSeen = true →
      (abortSmartEditJob o c.staged c.disk).result = .ok () ∧
      (abortSmartEditJob o c.staged c.disk).disk = { disk with job := none })

variable (o : Outcomes)

/-- Once the workspace has been moved: every narration file passes the registry's check of a
source and has numbers that can be recorded, and a batch that was refused can be undone. -/
def Undisturbed (disk : Disk) : Prop :=
  ∀ tree, verifyStaged o staged disk = some tree → staged.narrationRegistrations ≠ [] →
    o.generatedParent = none → movable o disk = true →
    match registerNarrations nt root o staged tree disk.document with
    | .registered _ => ∀ registration ∈ staged.narrationRegistrations, ∀ file,
        tree registration.relativePath = some file → Recordable nt file.stat
    | .refused => o.movesBack = true ∨ o.durableLeft = none
    | .probeRefused _ => False

end

variable {nt : Bool} {root : PosixPath} {o : Outcomes} {staged : LocalSmartEditStagedJob}

/-! ## The registered batch -/

/-- Numbers of an entry that a document was loaded with. -/
theorem nonneg_of_parsedEntry {file file' : RegisteredFile}
    (h : parsedEntry nt (entryJson file) = some file') :
    0 ≤ file.identity.device ∧ 0 ≤ file.identity.inode ∧ 0 ≤ file.identity.modifiedNs ∧
      0 ≤ file.identity.sizeBytes := by
  have hwhole : ∀ {n n' : Int}, wholeNumber (.int n) = some n' → 0 ≤ n := by
    intro n n' hn
    simp only [wholeNumber] at hn
    split at hn
    · assumption
    · cases hn
  unfold parsedEntry at h
  obtain ⟨members, hmembers, h⟩ := Option.bind_eq_some_iff.1 h
  obtain ⟨path, -, h⟩ := Option.bind_eq_some_iff.1 h
  obtain ⟨device, hdevice, h⟩ := Option.bind_eq_some_iff.1 h
  obtain ⟨inode, hinode, h⟩ := Option.bind_eq_some_iff.1 h
  obtain ⟨modifiedNs, hmodified, h⟩ := Option.bind_eq_some_iff.1 h
  obtain ⟨sizeBytes, hsize, -⟩ := Option.bind_eq_some_iff.1 h
  simp only [entryJson, Json.fields] at hmembers
  split at hmembers
  · cases hmembers
    exact ⟨hwhole hdevice, hwhole hinode, hwhole hmodified, hwhole hsize⟩
  · cases hmembers

theorem nonneg_of_load {entries m : Mapping} (h : load nt (some (serialized entries)) = .ok m)
    {id : Uuid4} {file : RegisteredFile} (hfile : entries.lookup id = some file) :
    0 ≤ file.identity.device ∧ 0 ≤ file.identity.inode ∧ 0 ≤ file.identity.modifiedNs ∧
      0 ≤ file.identity.sizeBytes := by
  have hfold : ∀ (l : List (Sigma fun _ : Uuid4 => RegisteredFile)) (acc m : Mapping),
      (l.map fun e => (String.ofList (Hex.hyphenated e.1), entryJson e.2)).foldlM
        (parsedMember nt) acc = some m → ∀ e ∈ l, ∃ f, parsedEntry nt (entryJson e.2) = some f := by
    intro l
    induction l with
    | nil => exact fun _ _ _ _ he => absurd he List.not_mem_nil
    | cons e l ih =>
      intro acc m hm e' he'
      rw [List.map_cons, List.foldlM_cons] at hm
      obtain ⟨acc', hstep, hm⟩ := Option.bind_eq_some_iff.1 hm
      rcases List.mem_cons.1 he' with rfl | he'
      · obtain ⟨id, -, hstep⟩ := Option.bind_eq_some_iff.1 hstep
        obtain ⟨f, hf, -⟩ := Option.bind_eq_some_iff.1 hstep
        exact ⟨f, hf⟩
      · exact ih acc' m hm e' he'
  have hmem : (⟨id, file⟩ : Sigma fun _ : Uuid4 => RegisteredFile) ∈ entries.entries :=
    AList.mem_lookup_iff.1 hfile
  unfold load at h
  simp only at h
  split at h
  · cases h
  · split at h
    · cases h
    · rename_i m' hm'
      simp only [serialized, Option.bind_some, parsedDocument, Json.get_cons, if_true,
        String.reduceEq, if_false] at hm'
      obtain ⟨f, hf⟩ := hfold entries.entries ∅ m' hm' _ hmem
      exact nonneg_of_parsedEntry hf

/-- What a batch that was registered has recorded. -/
theorem registerNarrations_registered {tree : Tree} {document document' : Option Payload}
    (h : registerNarrations nt root o staged tree document = .registered document') :
    ∃ entries prepared, load nt document = .ok entries ∧
      (mappings root o staged tree).mapM (Registration.prepared nt) = .ok prepared ∧
      (prepared.map (·.1)).Nodup ∧
      document' = some (serialized (Registry.insertAll entries prepared)) ∧
      (serialized (Registry.insertAll entries prepared)).length ≤
        maxMaterialPathRegistryBytes := by
  unfold registerNarrations at h
  split at h
  · cases h
  · split at h
    · cases h
    · rename_i entries hload
      simp only [Registry.call, Op.home, Registry.body, Registry.registerMany] at h
      split at h
      · rename_i a r hcall
        cases h
        split at hcall
        · split at hcall
          · cases hcall
          · split at hcall
            · cases hcall
            · rename_i prepared hprepared
              split at hcall
              · cases hcall
              · rename_i hnodup
                obtain ⟨f, hp⟩ | ⟨hlength, -, hp⟩ | ⟨-, -, hp⟩ | ⟨-, hp⟩ :=
                  publish_cases ⟨document, entries⟩ (Registry.insertAll entries prepared)
                    (if o.writes then .done else .failed) <;> rw [hp] at hcall <;> cases hcall
                exact ⟨entries, prepared, hload, hprepared, not_not.1 hnodup, rfl, hlength⟩
        · cases hcall
      · cases h
      · cases h

/-- A narration of a registered batch, with its file. -/
theorem narration_prepared {tree : Tree} {prepared : List (Uuid4 × RegisteredFile)}
    (h : (mappings root o staged tree).mapM (Registration.prepared nt) = .ok prepared)
    {registration : SmartEditNarrationRegistration}
    (hmem : registration ∈ staged.narrationRegistrations) :
    ∃ id file, usableIdentifier registration.materialId = some id ∧
      tree registration.relativePath = some file ∧
      requireSourceFile ((durablePath root staged.jobId).joinParts registration.relativePath)
        (.ok file.stat) = .ok file.stat ∧
      (id, ⟨(durablePath root staged.jobId).joinParts registration.relativePath,
        identityOf nt file.stat⟩) ∈ prepared := by
  have hall := (mapM_eq_ok.1 h).flip
  obtain ⟨e, he, hprep⟩ := forall₂_mem_right hall (List.mem_map_of_mem hmem)
  unfold Registration.prepared at hprep
  split at hprep
  · cases hprep
  · rename_i id hid
    split at hprep
    · cases hprep
    · rename_i metadata hsource
      cases hprep
      have hanswer : ∃ file, tree registration.relativePath = some file ∧ metadata = file.stat ∧
          requireSourceFile ((durablePath root staged.jobId).joinParts registration.relativePath)
            (.ok file.stat) = .ok file.stat := by
        simp only [requireSourceFile] at hsource ⊢
        split at hsource
        · cases hsource
        · rename_i hshaped
          split at hsource
          · cases hsource
          · rename_i answered hanswered
            split at hsource
            · rename_i hready
              cases hsource
              split at hanswered
              · cases hanswered
              · cases hanswered
              · rename_i file _ hfile
                cases hanswered
                exact ⟨file, hfile, rfl, by rw [if_neg hshaped, if_pos hready]⟩
            · cases hsource
      obtain ⟨file, hfile, rfl, hready⟩ := hanswer
      exact ⟨id, file, hid, hfile, hready, he⟩

/-- A material that is mapped to a file as it is now resolves to it. -/
theorem resolve_mapped {r : Registry} {materialId : Uuid} {id : Uuid4} {path : PosixPath}
    {metadata : FileStat} (hid : usableIdentifier materialId = some id)
    (hmapped : r.entries.lookup id = some ⟨path, identityOf nt metadata⟩)
    (hsource : requireSourceFile path (.ok metadata) = .ok metadata) (again : StatAnswer) :
    (r.call nt (.resolve true materialId (.ok metadata) again)).1 =
      .returned (some (path, metadata)) := by
  simp [Registry.call, Op.home, Registry.body, Registry.resolve, hid, hmapped, hsource]

/-- Files with recordable numbers: the batch resolves. -/
theorem registered_published {disk : Disk} {tree : Tree} {document : Option Payload}
    (hverify : verifyStagedNarration o staged tree = true)
    (h : registerNarrations nt root o staged tree disk.document = .registered document)
    (hrec : ∀ registration ∈ staged.narrationRegistrations, ∀ file,
      tree registration.relativePath = some file → Recordable nt file.stat)
    {registration : SmartEditNarrationRegistration}
    (hmem : registration ∈ staged.narrationRegistrations) (job : Option JobDirectory) :
    Published nt root staged ⟨job, some tree, document⟩ registration := by
  obtain ⟨entries, prepared, hload, hprepared, hnodup, rfl, hlength⟩ :=
    registerNarrations_registered h
  have hin := (insertAll_lookup hnodup entries).1
  have hstorable : AllStorable nt ((mappings root o staged tree).foldl (Registration.effect nt)
      fun id => entries.lookup id) := by
    have hrecord : (Event.call (.registerMany true (mappings root o staged tree) .done)).recordable
        nt ⟨none, none, fun _ => none⟩ := by
      intro x hx metadata hmetadata
      obtain ⟨reg, hreg, rfl⟩ := List.mem_map.1 hx
      simp only at hmetadata
      split at hmetadata
      · cases hmetadata
      · cases hmetadata
      · rename_i file _ hfile
        cases hmetadata
        exact hrec reg hreg file hfile
    exact AllStorable.op_effect (storable_of_load hload) hrecord
  have hsame : Means entries fun id => entries.lookup id := fun _ => rfl
  have hmeans := hsame.insertAll hprepared
  obtain ⟨m, hm, hmeansm⟩ := loads_serialized hmeans hstorable hlength
  obtain ⟨id, file, hid, hfile, hsource, hfound⟩ := narration_prepared hprepared hmem
  have hbytes : file.digest = registration.contentDigest ∧
      file.stat.sizeBytes = registration.bytesWritten := by
    have := List.all_eq_true.1 hverify registration hmem
    simp only [hfile, Option.any_some, Bool.and_eq_true, decide_eq_true_eq] at this
    exact ⟨this.2.2, this.2.1.2⟩
  refine ⟨tree, m, file, rfl, hm, hfile, hbytes.1, hbytes.2, fun again => ?_⟩
  refine resolve_mapped hid ?_ hsource again
  rw [hmeansm id, ← hmeans id]
  exact hin _ hfound

/-- A batch that resolves has recordable numbers. -/
theorem recordable_of_published {disk : Disk} {tree : Tree} {document : Option Payload}
    {job : Option JobDirectory}
    (h : registerNarrations nt root o staged tree disk.document = .registered document)
    (hpub : ∀ registration ∈ staged.narrationRegistrations,
      Published nt root staged ⟨job, some tree, document⟩ registration)
    {registration : SmartEditNarrationRegistration}
    (hmem : registration ∈ staged.narrationRegistrations) {file : StoredFile}
    (hfile : tree registration.relativePath = some file) : Recordable nt file.stat := by
  obtain ⟨entries, prepared, -, hprepared, hnodup, rfl, -⟩ := registerNarrations_registered h
  obtain ⟨-, m, -, -, hm, -⟩ := hpub registration hmem
  obtain ⟨id, file', -, hfile', -, hfound⟩ := narration_prepared hprepared hmem
  cases hfile.symm.trans hfile'
  exact nonneg_of_load hm ((insertAll_lookup hnodup entries).1 _ hfound)

/-! ## The commit -/

/-- An abort that can remove the job's directory removes it. -/
theorem abort_removes {disk : Disk} {o' : Outcomes} (hfin : staged.finalized = false)
    (hleft : o'.jobLeft = none) (hseen : o'.jobSeen = true) :
    (abortSmartEditJob o' staged disk).result = .ok () ∧
      (abortSmartEditJob o' staged disk).disk = { disk with job := none } := by
  simp [abortSmartEditJob, hfin, cleanupJob, hleft, hseen]

/-- A commit that raised with nothing but the job's directory changed. -/
theorem settled_raised {disk : Disk} {e : Raised} {job : Option JobDirectory} :
    Settled nt root staged disk ⟨.error e, staged, { disk with job }⟩ where
  completes h := by cases h
  raises _ _ := ⟨rfl, rfl, fun hfin _ hleft hseen => abort_removes hfin hleft hseen⟩

theorem settled_unchanged {disk : Disk} {e : Raised} :
    Settled nt root staged disk ⟨.error e, staged, disk⟩ := settled_raised

theorem verify_of_verifyStaged {disk : Disk} {tree : Tree}
    (h : verifyStaged o staged disk = some tree) : verifyStagedNarration o staged tree = true := by
  unfold verifyStaged at h
  split at h
  · cases h
  · obtain ⟨job, -, h⟩ := Option.bind_eq_some_iff.1 h
    simp only at h
    split at h
    · cases h
      assumption
    · cases h

/-- **What holds**, for every staged smart edit and everything its commit meets. -/
theorem settled_iff (nt : Bool) (root : PosixPath) (o : Outcomes)
    (staged : LocalSmartEditStagedJob) (disk : Disk) :
    Settled nt root staged disk (commitSmartEditJob nt root o staged disk) ↔
      Undisturbed nt root staged o disk := by
  unfold Undisturbed commitSmartEditJob
  cases hverify : verifyStaged o staged disk with
  | none => simpa using settled_unchanged
  | some tree =>
    simp only [Option.some.injEq, forall_eq']
    by_cases hempty : staged.narrationRegistrations = []
    · simp only [hempty, if_true, ne_eq, not_true_eq_false, false_implies, iff_true]
      cases hclean : (cleanupJob o disk).1 with
      | true =>
        refine ⟨fun _ => ⟨rfl, ?_⟩, fun e h => by cases h⟩
        simp [hempty]
      | false => exact settled_raised
    · simp only [hempty, if_false, ne_eq, not_false_eq_true, true_implies]
      cases hparent : o.generatedParent with
      | some e => simpa using settled_unchanged
      | none =>
        cases hmov : movable o disk with
        | false => simpa using settled_unchanged
        | true =>
          simp only [Bool.not_true, Bool.false_eq_true, if_false, true_implies]
          have hdurable : disk.durable = none := by
            simp only [movable, Bool.and_eq_true, Option.isNone_iff_eq_none] at hmov
            exact hmov.1.2
          cases hreg : registerNarrations nt root o staged tree (moved tree disk).document with
          | registered document =>
            have hreg' : registerNarrations nt root o staged tree disk.document =
                .registered document := hreg
            rw [hreg']
            constructor
            · intro h registration hmem file hfile
              exact recordable_of_published hreg' (h.completes rfl).2 hmem hfile
            · intro hrec
              refine ⟨fun _ => ⟨rfl, fun registration hmem => ?_⟩, fun e h => by cases h⟩
              exact registered_published (verify_of_verifyStaged hverify) hreg' hrec hmem _
          | refused =>
            have hreg' : registerNarrations nt root o staged tree disk.document = .refused := hreg
            rw [hreg']
            unfold rollBack
            constructor
            · intro h
              obtain ⟨-, hleft, -⟩ := h.raises _ rfl
              cases hback : o.movesBack with
              | true => exact .inl rfl
              | false =>
                simp only [hback, hdurable] at hleft
                exact .inr hleft
            · intro h
              have hdisk : ∃ job, (if o.movesBack then
                  { moved tree disk with job := some ⟨some tree⟩, durable := none }
                  else { moved tree disk with durable := o.durableLeft }) = { disk with job } := by
                cases hback : o.movesBack with
                | true => exact ⟨some ⟨some tree⟩, by simp [moved, hdurable]⟩
                | false =>
                  rw [hback] at h
                  refine ⟨some ⟨none⟩, ?_⟩
                  simp [moved, hdurable, h.resolve_left (by simp)]
              obtain ⟨job, hjob⟩ := hdisk
              simp only [hjob]
              exact settled_raised
          | probeRefused rejection =>
            have hreg' : registerNarrations nt root o staged tree disk.document =
                .probeRefused rejection := hreg
            rw [hreg']
            simp only [iff_false]
            intro h
            obtain ⟨-, hleft, -⟩ := h.raises _ rfl
            rw [hdurable] at hleft
            cases hleft

namespace Concrete

def digest : List Char := List.replicate 64 'a'

theorem path_ok : validNarrationPath "voiceover/sentence-0001.wav".toList 1 = true := by
  decide +kernel

def registration : SmartEditNarrationRegistration where
  sequence := 1
  materialId := 0x6b1f0d9ec0de4a1e8f00000000000001
  relativePath := "voiceover/sentence-0001.wav".toList
  durationMs := 1000
  contentDigest := digest
  bytesWritten := 3
  sequence_pos := Nat.one_pos
  sequence_le := Nat.le_add_left _ _
  path := path_ok
  canonical := by decide +kernel
  duration_pos := Nat.le_add_left _ _
  duration_le := Nat.le_add_left _ _
  digest := by decide +kernel
  bytes_pos := by decide
  bytes_le := by decide

def job : LocalSmartEditStagedJob where
  jobId := ⟨0x6b1f0d9ec0de4a1e8f00000000000002, if_pos (by decide)⟩
  narrationRegistrations := [registration]

def narration : StoredFile where
  digest := digest
  stat :=
    { device := 1, inode := 2, modifiedNs := 1, sizeBytes := 3, regular := true, readable := true }

/-- The job as it has been staged, beside a registry that is still empty. -/
def disk : Disk where
  job := some ⟨some fun path => if path = registration.relativePath then some narration else none⟩
  durable := none
  document := none

def assetRoot : PosixPath := .ofText "/assets".toList

/-- `stat` of the narration is refused once it has been moved. -/
def outcomes : Outcomes := { sources := fun _ => some .refused }

theorem commit_left :
    (commitSmartEditJob false assetRoot outcomes job disk).result = .error (.probe .unreadable) ∧
      (commitSmartEditJob false assetRoot outcomes job disk).disk.durable.isSome = true := by
  decide +kernel

/-- **Counterexample**: the commit raises, and the durable directory stays. -/
theorem durable_stranded :
    ¬Settled false assetRoot job disk (commitSmartEditJob false assetRoot outcomes job disk) := by
  intro h
  obtain ⟨hresult, hdurable⟩ := commit_left
  obtain ⟨-, hleft, -⟩ := h.raises _ hresult
  rw [hleft] at hdurable
  cases hdurable

end Concrete

end AutomationTool.Bugs.StrandedNarration
