import AutomationTool.Executor.MaterialPathStore

/-!
# A file from before 1970 makes the whole registry unreadable

Behaviour (material_probe.py:1433-1439, 1495-1508): a registration records `st_mtime_ns` as it
is; the reader takes whole numbers from zero on, and gives up on the document at the first
entry that has another. So a file whose modification time lies before the epoch is registered,
and the next start refuses the registry with every mapping in it.

Evidence: "Reads back through `_require_path_shape` rather than restating its rules, so a
document can never smuggle in something the import path would have refused"
(material_probe.py:1479-1487): reader and writer are meant to share their rules; a document that
will not parse "means something else happened to it" (material_probe.py:1783-1787).

Counterexample: one registration.

`recordable_dependable`: runs that register only files whose four numbers are not negative.
-/
namespace AutomationTool.Bugs.NegativeTime

open Executor.MaterialPaths Executor.EditingWorker Editing

/-- What a registry is to guarantee in a state of its runs. -/
structure Dependable (nt : Bool) (S : Store) : Prop where
  /-- A new registry loads the document, and it loads what was published. -/
  loads : ∃ m, load nt S.document = .ok m ∧ Means m S.published
  memory : ∀ m, S.process = some m → Means m S.published
  /-- A refused or failed call leaves the document and the mapping as they were. -/
  refused : ∀ entries op failure r, S.process = some entries →
    Registry.call nt ⟨S.document, entries⟩ op = (.raised failure, r) → r = ⟨S.document, entries⟩
  /-- A batch is written as a whole or not at all. -/
  batch : ∀ entries home mappings w ending r, S.process = some entries →
    Registry.call nt ⟨S.document, entries⟩ (.registerMany home mappings w) = (ending, r) →
    r = ⟨S.document, entries⟩ ∨
    ∃ prepared m, mappings.mapM (Registration.prepared nt) = .ok prepared ∧
      (∀ e ∈ prepared, m.lookup e.1 = some e.2) ∧
      (∀ id, id ∉ prepared.map (·.1) → m.lookup id = entries.lookup id) ∧
      r.document = some (serialized m) ∧ (r.entries = m ∨ ending = .killed)
  /-- A path is handed out only while its file has the identity that was recorded. -/
  resolves : ∀ entries home materialId answer again path metadata r, S.process = some entries →
    Registry.call nt ⟨S.document, entries⟩ (.resolve home materialId answer again) =
      (.returned (some (path, metadata)), r) →
    answer = .ok metadata ∧ ∃ id file, usableIdentifier materialId = some id ∧
      S.published id = some file ∧ path = file.path ∧ identityOf nt metadata = file.identity

variable {nt : Bool}

theorem registerMany_batch {r r' : Registry} {home : Bool} {mappings : List Registration}
    {w : WriteOutcome} {ending : Ending Reply}
    (h : r.call nt (.registerMany home mappings w) = (ending, r')) :
    r' = r ∨ ∃ prepared m, mappings.mapM (Registration.prepared nt) = .ok prepared ∧
      (∀ e ∈ prepared, m.lookup e.1 = some e.2) ∧
      (∀ id, id ∉ prepared.map (·.1) → m.lookup id = r.entries.lookup id) ∧
      r'.document = some (serialized m) ∧ (r'.entries = m ∨ ending = .killed) := by
  unfold Registry.call at h
  split at h
  · simp only [Registry.body, Registry.registerMany] at h
    split at h
    · cases h
      exact .inl rfl
    · cases hprepared : mappings.mapM (Registration.prepared nt) with
      | error failure =>
        rw [hprepared] at h
        cases h
        exact .inl rfl
      | ok prepared =>
        rw [hprepared] at h
        simp only at h
        split at h
        · cases h
          exact .inl rfl
        · rename_i hnodup
          obtain ⟨hin, hout⟩ := insertAll_lookup (not_not.1 hnodup) r.entries
          obtain ⟨f, hp⟩ | ⟨-, -, hp⟩ | ⟨-, -, hp⟩ | ⟨-, hp⟩ :=
            publish_cases r (Registry.insertAll r.entries prepared) w <;> rw [hp] at h <;> cases h
          · exact .inl rfl
          · exact .inr ⟨prepared, _, rfl, hin, hout, rfl, .inl rfl⟩
          · exact .inr ⟨prepared, _, rfl, hin, hout, rfl, .inr rfl⟩
          · exact .inl rfl
  · cases h
    exact .inl rfl

theorem resolve_returned {r r' : Registry} {home : Bool} {materialId : Uuid}
    {answer again : StatAnswer} {path : PosixPath} {metadata : FileStat}
    (h : r.call nt (.resolve home materialId answer again) =
      (.returned (some (path, metadata)), r')) :
    answer = .ok metadata ∧ ∃ id file, usableIdentifier materialId = some id ∧
      r.entries.lookup id = some file ∧ path = file.path ∧
      identityOf nt metadata = file.identity := by
  unfold Registry.call at h
  split at h
  · simp only [Registry.body, Registry.resolve] at h
    split at h
    · cases h
    · rename_i id hid
      split at h
      · cases h
      · rename_i file hfile
        split at h
        · cases h
        · rename_i found hsource
          split at h
          · cases h
          · rename_i hidentity
            cases h
            unfold requireSourceFile at hsource
            split at hsource
            · cases hsource
            · split at hsource
              · cases hsource
              · split at hsource <;> cases hsource
                exact ⟨rfl, id, file, hid, hfile, rfl, not_not.1 hidentity⟩
  · cases h

/-- **What holds**: every state of every run in which no registration records a negative number. -/
theorem recordable_dependable {S : Store}
    (h : ((system nt).restrict (Event.recordable nt)).Reachable S) : Dependable nt S := by
  have hsound := sound_inductive.reachable h
  refine ⟨hsound.loads, hsound.memory, fun _ _ _ _ _ hcall => call_raised hcall,
    fun _ _ _ _ _ _ _ hcall => registerMany_batch hcall, ?_⟩
  intro entries home materialId answer again path metadata r hentries hcall
  obtain ⟨hanswer, id, file, hid, hfile, hpath, hidentity⟩ := resolve_returned hcall
  exact ⟨hanswer, id, file, hid, (hsound.memory entries hentries id).symm.trans hfile, hpath,
    hidentity⟩

namespace Concrete

def materialId : Uuid := 0x6b1f0d9ec0de4a1e8f00000000000001

def clip : PosixPath := .ofText "/media/clip.mp4".toList

/-- A file last changed one nanosecond before the epoch. -/
def old : FileStat where
  device := 1
  inode := 2
  modifiedNs := -1
  sizeBytes := 3
  regular := true
  readable := true

def recent : FileStat := { old with modifiedNs := 1 }

def fresh : Store := ⟨none, none, fun _ => none⟩

theorem fresh_init : (system false).init fresh := ⟨rfl, ∅, rfl, fun _ => AList.lookup_empty _⟩

/-- The registry has been opened, and is empty. -/
def opened : Store := { fresh with process := some ∅ }

theorem opened_step : fresh.step false (.start true true) = some opened := rfl

def registering (metadata : FileStat) : Event :=
  .call (.register true ⟨materialId, clip, .ok metadata⟩ .done)

/-- **Counterexample**: the file is registered, and the document does not load any more. -/
theorem registered_unreadable :
    ∃ S, (system false).Reachable S ∧ ¬Dependable false S := by
  have hrun : (opened.step false (registering old)).map
      (fun S => (load false S.document).toOption.isNone) = some true := by decide +kernel
  obtain ⟨S, hS, hload⟩ := Option.map_eq_some_iff.1 hrun
  refine ⟨S, ⟨fresh, _, fresh_init, .cons opened_step (.cons hS (.nil S))⟩, fun h => ?_⟩
  obtain ⟨m, hm, -⟩ := h.loads
  rw [hm] at hload
  cases hload

theorem recent_recordable : (registering recent).recordable false opened := by
  intro metadata hmetadata
  cases hmetadata
  simp [Recordable, identityOf, stableDeviceIdentity, recent, old]

/-- A file from after the epoch is registered. -/
theorem recent_dependable :
    ∃ S, opened.step false (registering recent) = some S ∧ Dependable false S := by
  have hrun : (opened.step false (registering recent)).isSome = true := by decide +kernel
  obtain ⟨S, hS⟩ := Option.isSome_iff_exists.1 hrun
  exact ⟨S, hS, recordable_dependable ⟨fresh, _, fresh_init,
    .cons ⟨opened_step, trivial⟩ (.cons ⟨hS, recent_recordable⟩ (.nil S))⟩⟩

end Concrete

end AutomationTool.Bugs.NegativeTime
