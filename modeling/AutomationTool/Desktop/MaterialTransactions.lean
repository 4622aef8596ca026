import AutomationTool.Desktop.LocalMaterialLibrary

/-!
# What the material library's operations leave

The two early returns between the worker's registration and its compensation
are never taken: what a registration is checked for is what the worker's facts
are checked for, and a material of the control plane has a canonical identifier.

* `importMaterialWith_imported`: what an import leaves once the worker has
  answered its first call.
* `deleteMaterialWith_forgets`: a deletion that returns has left no mapping.
* `deletions_removed`: deletions never bring back a material.
* `library_settles`: both operations, from any stores.
-/
namespace AutomationTool.Desktop.MaterialLibrary

open Editing (Uuid sha256Pattern)
open Executor.EditingWorker (Uuid4)
open Executor.MaterialPaths (Published RegisteredFile usableIdentifier version_lt)

/-! ## The early returns -/

/-- What the worker's facts are checked for is what a registration is checked for. -/
theorem registrationRequest_ok (id : Uuid4) {facts : VideoWorkerLocalMaterialFacts}
    (h : facts.isValid = true) :
    ∃ r, registrationRequest id facts = .ok r ∧ r.1.materialId = Hex.hyphenated id ∧
      r.1.contentDigest = facts.contentDigest := by
  have hid : canonicalUuidV4 (Hex.hyphenated id) = true := by
    simp [canonicalUuidV4, Hex.ofHyphenated_hyphenated (version_lt id.2), id.2]
  obtain ⟨loudness, digest, duration, hasAudio, height, kind, width⟩ := facts
  simp only [VideoWorkerLocalMaterialFacts.isValid, Bool.and_eq_true] at h
  obtain ⟨⟨⟨⟨hduration, hframe⟩, hloudness⟩, himage⟩, hdigest⟩ := h
  -- A side that a frame may have is below the bound of the narrower type.
  have hnarrow (v : Option Nat) (hv : ∀ n ∈ v, n ≤ 8192) :
      (v.bind fun n => if n < 65536 then some n else none) = v := by
    cases v with
    | none => rfl
    | some n =>
      have := hv n rfl
      simp only [Option.bind_some]
      rw [if_pos (by omega)]
  have hsides : (∀ n ∈ width, n ≤ 8192) ∧ ∀ n ∈ height, n ≤ 8192 := by
    cases kind <;> cases width <;> cases height <;> simp_all [framed]
  simp only [registrationRequest, hnarrow _ hsides.1, hnarrow _ hsides.2]
  rw [dif_pos]
  · exact ⟨_, rfl, rfl, rfl⟩
  · simp only [EditingMaterialRegistrationRequest.validate, hid, hdigest, hloudness, Bool.and_eq_true,
      true_and, and_true]
    cases kind with
    | video => exact ⟨⟨hduration, hframe⟩, rfl⟩
    | image => exact ⟨⟨hduration, hframe⟩, himage⟩
    | audio => exact ⟨⟨hduration, hframe⟩, rfl⟩

theorem parseUuidV4_ok {value : List Char} (h : canonicalUuidV4 value = true) :
    ∃ id : Uuid4, parseUuidV4 value = .ok id ∧ Hex.hyphenated id = value := by
  unfold canonicalUuidV4 at h
  cases hread : Hex.ofHyphenated value with
  | none => simp [hread] at h
  | some parsed =>
    have hboth : Uuid.version parsed = some 4 ∧ Hex.hyphenated parsed = value := by
      simpa [hread] using h
    exact ⟨⟨parsed, hboth.1⟩, by simp [parseUuidV4, hread, hboth], hboth.2⟩

/-! ## Fields of the stores -/

@[simp] theorem bind_materials (s : Stores) (id : Uuid4) (file : Option RegisteredFile) :
    (s.bind id file).materials = s.materials := rfl

@[simp] theorem bind_mapping_self (s : Stores) (id : Uuid4) (file : Option RegisteredFile) :
    (s.bind id file).mapping id = file := Function.update_self ..

theorem bind_mapping_ne (s : Stores) {id other : Uuid4} (h : other ≠ id)
    (file : Option RegisteredFile) : (s.bind id file).mapping other = s.mapping other :=
  Function.update_of_ne h ..

@[simp] theorem bind_bind (s : Stores) (id : Uuid4) (file file' : Option RegisteredFile) :
    (s.bind id file).bind id file' = s.bind id file' := by
  simp [Stores.bind]

/-- A search changes no mapping, and what it finds is registered with the digest. -/
theorem findByDigest_found {s s' : Stores} {digest : List Char} {a : FindAnswer}
    {found : Option EditingMaterialSnapshot} (h : s.findByDigest digest a = (.ok found, s')) :
    s'.mapping = s.mapping ∧
      ∀ material ∈ found, material ∈ s'.materials ∧ material.contentDigest = digest := by
  cases a with
  | failed failure => cases h
  | answered meanwhile =>
    cases h
    refine ⟨rfl, fun material hfound => ⟨List.mem_of_find?_eq_some hfound, ?_⟩⟩
    simpa using List.find?_some hfound

theorem findByDigest_failed {s s' : Stores} {digest : List Char} {a : FindAnswer}
    {failure : ControlPlaneFailure} (h : s.findByDigest digest a = (.error failure, s')) :
    s' = s := by
  cases a <;> cases h
  rfl

theorem register_mapping (s : Stores) (r : EditingMaterialRegistrationRequest)
    (h : r.validate = true) (a : RegisterAnswer) : (s.register r h a).2.mapping = s.mapping := by
  cases a with
  | registered => rfl
  | failed failure took => cases took <;> rfl

theorem register_registered {s s' : Stores} {r : EditingMaterialRegistrationRequest}
    {h : r.validate = true} {a : RegisterAnswer} {material : EditingMaterialSnapshot}
    (heq : s.register r h a = (.ok material, s')) :
    material = r.snapshot h ∧ material ∈ s'.materials := by
  cases a with
  | registered =>
    cases heq
    exact ⟨rfl, List.mem_insert_self⟩
  | failed failure took => cases heq

/-! ## What an import leaves -/

section

variable {digestOf : RegisteredFile → List Char} (o : ImportAnswers digestOf) (temporaryId : Uuid4)

/-- The error says that a compensation or the rebinding of a duplicate did not complete. -/
def LocalMaterialLibraryError.uncertain (e : LocalMaterialLibraryError) : Prop :=
  e.code = .compensationFailed ∨ e.code = .remapUncertain

variable (digestOf) in
/-- How an import ends whose first probe found a file with `digest`; `before` is the mapping it
found. -/
structure Settled (digest : List Char) (before : Published) (r : Imported) : Prop where
  ok : ∀ outcome, r.1 = .ok outcome → outcome.material ∈ r.2.materials ∧
    ∃ (id : Uuid4) (file : RegisteredFile), Hex.hyphenated id = outcome.material.materialId ∧
      r.2.mapping id = some file ∧ digestOf file = outcome.material.contentDigest
  temporary : ∀ e, r.1 = .error e → ¬e.uncertain → r.2.mapping temporaryId = none
  others : ∀ e, r.1 = .error e → ¬e.uncertain → e.code ≠ .sourceChanged →
    ∀ id ≠ temporaryId, r.2.mapping id = before id
  changed : ∀ e, r.1 = .error e → e.code = .sourceChanged → ∃ existing ∈ r.2.materials,
    existing.contentDigest = digest ∧ ∃ id : Uuid4, Hex.hyphenated id = existing.materialId ∧
      r.2.mapping id = none ∧
      ∀ other ≠ temporaryId, other ≠ id → r.2.mapping other = before other

/-- The four ends of a rebinding; the identifier of the duplicate is always one the worker
takes. -/
theorem remapDuplicate_cases (existing : EditingMaterialSnapshot) (s : Stores) :
    ∃ id : Uuid4, Hex.hyphenated id = existing.materialId ∧
      ((∃ e s', remapDuplicate o temporaryId existing s = (.error e, s') ∧ e.uncertain) ∨
      remapDuplicate o temporaryId existing s =
        (.error ⟨.sourceChanged, true⟩, (s.bind temporaryId none).bind id none) ∨
      ∃ file, digestOf file = existing.contentDigest ∧
        remapDuplicate o temporaryId existing s =
          (.ok ⟨existing, true⟩, (s.bind temporaryId none).bind id (some file))) := by
  obtain ⟨id, hparse, hid⟩ := parseUuidV4_ok existing.canonical
  refine ⟨id, hid, ?_⟩
  unfold remapDuplicate
  rw [hparse]
  cases o.forget with
  | failed error took => exact .inl ⟨_, _, rfl, .inl rfl⟩
  | forgot =>
    cases o.second with
    | failed error left => exact .inl ⟨_, _, rfl, .inr rfl⟩
    | imported probed =>
      by_cases hdigest : probed.facts.contentDigest = existing.contentDigest
      · refine .inr (.inr ⟨probed.file, by rw [← probed.digest, hdigest], ?_⟩)
        simp [Stores.forget, Stores.importFile, hdigest]
      · cases hsecond : o.forgetSecond with
        | failed error took =>
          let rebound := (s.bind temporaryId none).bind id (some probed.file)
          refine .inl ⟨compensationFailed, if took then rebound.bind id none else rebound, ?_, .inl rfl⟩
          simp [Stores.forget, Stores.importFile, hdigest, rebound]
        | forgot =>
          refine .inr (.inl ?_)
          simp [Stores.forget, Stores.importFile, hdigest]

theorem remapDuplicate_settled {existing : EditingMaterialSnapshot} {s : Stores}
    (h : existing ∈ s.materials) {before : Published}
    (hbefore : ∀ id ≠ temporaryId, s.mapping id = before id) :
    Settled digestOf temporaryId existing.contentDigest before
      (remapDuplicate o temporaryId existing s) := by
  obtain ⟨id, hid, hcases⟩ := remapDuplicate_cases o temporaryId existing s
  have hkept : ∀ file, ∀ other ≠ temporaryId, other ≠ id →
      ((s.bind temporaryId none).bind id file).mapping other = before other := by
    intro file other hother hne
    rw [bind_mapping_ne _ hne, bind_mapping_ne _ hother, hbefore other hother]
  rcases hcases with ⟨e, s', heq, huncertain⟩ | heq | ⟨file, hdigest, heq⟩
  · rw [heq]
    refine ⟨nofun, ?_, ?_, ?_⟩
    · intro e' he' hnot
      cases he'
      exact absurd huncertain hnot
    · intro e' he' hnot
      cases he'
      exact absurd huncertain hnot
    · intro e' he' hchanged
      cases he'
      rcases huncertain with hcode | hcode <;> simp [hcode] at hchanged
  · rw [heq]
    refine ⟨nofun, ?_, ?_, ?_⟩
    · intro _ _ _
      by_cases htemporary : temporaryId = id
      · rw [htemporary, bind_mapping_self]
      · rw [bind_mapping_ne _ htemporary, bind_mapping_self]
    · intro e he _ hcode
      cases he
      exact absurd rfl hcode
    · intro _ _ _
      exact ⟨existing, h, rfl, id, hid, bind_mapping_self .., hkept none⟩
  · rw [heq]
    refine ⟨?_, nofun, nofun, nofun⟩
    intro outcome houtcome
    cases houtcome
    exact ⟨h, id, file, hid, bind_mapping_self .., hdigest⟩

theorem compensate_settled {failure : ControlPlaneFailure} {s : Stores} {digest : List Char}
    {before : Published} (hbefore : ∀ id ≠ temporaryId, s.mapping id = before id) :
    Settled digestOf temporaryId digest before (compensate o temporaryId failure s) := by
  unfold compensate
  cases o.forget with
  | failed error took =>
    refine ⟨nofun, ?_, ?_, ?_⟩
    · intro e he hnot
      cases he
      exact absurd (.inl rfl) hnot
    · intro e he hnot
      cases he
      exact absurd (.inl rfl) hnot
    · intro e he hcode
      cases he
      cases hcode
  | forgot =>
    refine ⟨nofun, ?_, ?_, ?_⟩
    · intro _ _ _
      exact bind_mapping_self ..
    · intro _ _ _ _ id hid
      exact (bind_mapping_ne s hid none).trans (hbefore id hid)
    · intro e he hcode
      cases he
      cases hcode

/-- An import that returns the material its temporary identifier has become. -/
theorem settled_of_material {digest : List Char} {before : Published}
    {material : EditingMaterialSnapshot} {s : Stores} {file : RegisteredFile}
    (hmem : material ∈ s.materials) (hid : material.materialId = Hex.hyphenated temporaryId)
    (hbound : s.mapping temporaryId = some file)
    (hdigest : digestOf file = material.contentDigest) :
    Settled digestOf temporaryId digest before (.ok ⟨material, false⟩, s) := by
  refine ⟨?_, nofun, nofun, nofun⟩
  intro outcome houtcome
  cases houtcome
  exact ⟨hmem, temporaryId, file, hid.symm, hbound, hdigest⟩

/-- What an import does once the worker has answered its first call. -/
theorem importMaterialWith_imported {probed : Probed digestOf} (hfirst : o.first = .imported probed)
    (s : Stores) :
    Settled digestOf temporaryId probed.facts.contentDigest s.mapping
      (importMaterialWith o temporaryId s) := by
  have hstart : importMaterialWith o temporaryId s =
      registerImported o temporaryId probed.facts (s.bind temporaryId (some probed.file)) := by
    simp [importMaterialWith, usableIdentifier_self, hfirst, Stores.importFile]
  rw [hstart]
  generalize hs₀ : s.bind temporaryId (some probed.file) = s₀
  have hbound : s₀.mapping temporaryId = some probed.file := by rw [← hs₀, bind_mapping_self]
  have hothers : ∀ id ≠ temporaryId, s₀.mapping id = s.mapping id := by
    intro id hne
    rw [← hs₀, bind_mapping_ne s hne]
  obtain ⟨⟨registration, hvalid⟩, hregistration, htext, hdigest⟩ :=
    registrationRequest_ok temporaryId probed.valid
  unfold registerImported
  rw [hregistration]
  -- A search and a registration leave the mapping, so both stay true of it.
  cases hfind : s₀.findByDigest probed.facts.contentDigest o.find with
  | mk found s₁ =>
    cases found with
    | error failure =>
      cases findByDigest_failed hfind
      exact compensate_settled o temporaryId hothers
    | ok found =>
      obtain ⟨hmapping, hfound⟩ := findByDigest_found hfind
      cases found with
      | some existing =>
        obtain ⟨hmem, hsame⟩ := hfound existing rfl
        have hsettled := remapDuplicate_settled o temporaryId hmem (hmapping ▸ hothers)
        rw [hsame] at hsettled
        exact hsettled
      | none =>
        have hkept := register_mapping s₁ registration hvalid o.register
        cases hregister : s₁.register registration hvalid o.register with
        | mk answer s₂ =>
          rw [hregister] at hkept
          simp only [hregister]
          have hbound₂ : s₂.mapping temporaryId = some probed.file := by rw [hkept, hmapping, hbound]
          have hothers₂ : ∀ id ≠ temporaryId, s₂.mapping id = s.mapping id := by
            rw [hkept, hmapping]
            exact hothers
          cases answer with
          | ok material =>
            obtain ⟨rfl, hmem⟩ := register_registered hregister
            exact settled_of_material temporaryId hmem htext hbound₂
              (probed.digest.symm.trans hdigest.symm)
          | error failure =>
            cases hagain : s₂.findByDigest probed.facts.contentDigest o.findAgain with
            | mk found s₃ =>
              simp only [hagain]
              cases found with
              | error failure' =>
                cases findByDigest_failed hagain
                exact compensate_settled o temporaryId hothers₂
              | ok found =>
                obtain ⟨hmapping₃, hfound₃⟩ := findByDigest_found hagain
                have hothers₃ : ∀ id ≠ temporaryId, s₃.mapping id = s.mapping id :=
                  hmapping₃ ▸ hothers₂
                cases found with
                | none => exact compensate_settled o temporaryId hothers₃
                | some existing =>
                  obtain ⟨hmem, hsame⟩ := hfound₃ existing rfl
                  by_cases htemporary : existing.materialId = Hex.hyphenated temporaryId
                  · simp only [if_pos htemporary]
                    exact settled_of_material temporaryId hmem htemporary (hmapping₃ ▸ hbound₂)
                      (by rw [hsame, probed.digest])
                  · simp only [if_neg htemporary]
                    have hsettled := remapDuplicate_settled o temporaryId hmem hothers₃
                    rw [hsame] at hsettled
                    exact hsettled

/-- An import whose first worker call fails makes no other call. -/
theorem importMaterialWith_failed {error : VideoWorkerLocalMaterialError} {left : Left}
    (hfirst : o.first = .failed error left) (s : Stores) :
    importMaterialWith o temporaryId s = (.error (workerError error), left.apply s temporaryId) := by
  simp [importMaterialWith, usableIdentifier_self, hfirst, Stores.importFile]

end

/-! ## What a deletion leaves -/

section

variable (o : DeleteAnswers) (materialId : Uuid4)

/-- The worker answers, and so does the control plane, with the material's absence if it is
absent. -/
def DeleteAnswers.works (o : DeleteAnswers) : Prop :=
  o.status.isOk ∧ o.delete = .answered ∧ o.forget = .forgot

theorem remove_removed (s : Stores) (text : List Char) : (s.remove text).isRegistered text = false := by
  simp [Stores.remove, Stores.isRegistered]

theorem remove_absent {s : Stores} {text other : List Char} (h : s.isRegistered other = false) :
    (s.remove text).isRegistered other = false := by
  simp only [Stores.isRegistered, Stores.remove, List.any_eq_false, List.mem_filter] at h ⊢
  exact fun material hmem => h material hmem.1

theorem delete_absent {s : Stores} {text other : List Char} (h : s.isRegistered other = false)
    (a : DeleteAnswer) : (s.delete text a).2.isRegistered other = false := by
  cases a with
  | answered =>
    simp only [Stores.delete]
    split
    · exact remove_absent h
    · exact h
  | failed failure took =>
    cases took with
    | true => exact remove_absent h
    | false => exact h

theorem forgetDeleted_materials (s : Stores) :
    (forgetDeleted o materialId s).2.materials = s.materials := by
  unfold forgetDeleted
  cases o.forget with
  | forgot => rfl
  | failed error took => cases took <;> rfl

theorem forgetDeleted_forgets {s : Stores} (h : (forgetDeleted o materialId s).1 = .ok ()) :
    (forgetDeleted o materialId s).2.mapping materialId = none := by
  unfold forgetDeleted at h ⊢
  cases hforget : o.forget with
  | forgot => exact bind_mapping_self ..
  | failed error took =>
    rw [hforget] at h
    cases h

/-- A deletion ends before its last call, or it ends with it. -/
theorem deleteMaterialWith_cases (s : Stores) :
    (∃ e, deleteMaterialWith o materialId s = (.error e, s)) ∨
      let s' := (s.delete (Hex.hyphenated materialId) o.delete).2
      (∃ e, deleteMaterialWith o materialId s = (.error e, s')) ∨
        deleteMaterialWith o materialId s = forgetDeleted o materialId s' := by
  unfold deleteMaterialWith
  simp only [usableIdentifier_self]
  cases o.status with
  | error error => exact .inl ⟨_, rfl⟩
  | ok status =>
    right
    cases hdelete : s.delete (Hex.hyphenated materialId) o.delete with
    | mk answer s' =>
      cases answer with
      | ok u => exact .inr rfl
      | error failure =>
        by_cases hcode : failure.code = .resourceNotFound
        · exact .inr (if_pos hcode)
        · exact .inl ⟨_, if_neg hcode⟩

/-- A deletion never registers a material. -/
theorem deleteMaterialWith_absent {s : Stores} {text : List Char}
    (h : s.isRegistered text = false) :
    (deleteMaterialWith o materialId s).2.isRegistered text = false := by
  have hdelete : (s.delete (Hex.hyphenated materialId) o.delete).2.isRegistered text = false :=
    delete_absent h o.delete
  rcases deleteMaterialWith_cases o materialId s with ⟨e, heq⟩ | ⟨e, heq⟩ | heq
  · rw [heq]
    exact h
  · rw [heq]
    exact hdelete
  · rw [heq, Stores.isRegistered, forgetDeleted_materials]
    exact hdelete

/-- A deletion that returns has left no mapping. -/
theorem deleteMaterialWith_forgets {s : Stores} (h : (deleteMaterialWith o materialId s).1 = .ok ()) :
    (deleteMaterialWith o materialId s).2.mapping materialId = none := by
  rcases deleteMaterialWith_cases o materialId s with ⟨e, heq⟩ | ⟨e, heq⟩ | heq
  · rw [heq] at h
    cases h
  · rw [heq] at h
    cases h
  · rw [heq] at h ⊢
    exact forgetDeleted_forgets o materialId h

/-- A deletion whose calls work returns, also of what is not registered. -/
theorem deleteMaterialWith_works {s : Stores} (hworks : o.works) :
    (deleteMaterialWith o materialId s).1 = .ok () ∧
      (deleteMaterialWith o materialId s).2.isRegistered (Hex.hyphenated materialId) = false := by
  obtain ⟨hstatus, hdelete, hforget⟩ := hworks
  obtain ⟨status, hstatus⟩ : ∃ status, o.status = .ok status := by
    cases hs : o.status with
    | error e => simp [hs, Except.isOk, Except.toBool] at hstatus
    | ok status => exact ⟨status, rfl⟩
  cases hpresent : s.isRegistered (Hex.hyphenated materialId) with
  | true =>
    have heq : deleteMaterialWith o materialId s =
        (.ok (), (s.remove (Hex.hyphenated materialId)).bind materialId none) := by
      simp [deleteMaterialWith, forgetDeleted, usableIdentifier_self, hstatus, hdelete, hforget, Stores.delete,
        Stores.forget, hpresent]
    rw [heq]
    exact ⟨rfl, remove_removed s _⟩
  | false =>
    have heq : deleteMaterialWith o materialId s = (.ok (), s.bind materialId none) := by
      simp [deleteMaterialWith, forgetDeleted, usableIdentifier_self, hstatus, hdelete, hforget, Stores.delete,
        Stores.forget, hpresent]
    rw [heq]
    exact ⟨rfl, hpresent⟩

/-- Deletions never bring back a material. -/
theorem deletions_removed {s : Stores} {text : List Char} (h : s.isRegistered text = false)
    (attempts : List DeleteAnswers) :
    (attempts.foldl (fun s o => (deleteMaterialWith o materialId s).2) s).isRegistered text = false := by
  induction attempts generalizing s with
  | nil => exact h
  | cons o attempts ih => exact ih (deleteMaterialWith_absent o materialId h)

end

/-! ## Both operations -/

/-- What an import and a deletion leave, from any stores. -/
theorem library_settles {digestOf : RegisteredFile → List Char} (o : ImportAnswers digestOf) (id : Uuid4) (s : Stores) :
    (∀ other : Uuid, Uuid.version other ≠ some 4 →
      importMaterialWith o other s = (.error configurationInvalid, s)) ∧
    (∀ error left, o.first = .failed error left →
      importMaterialWith o id s = (.error (workerError error), left.apply s id)) ∧
    (∀ probed, o.first = .imported probed →
      Settled digestOf id probed.facts.contentDigest s.mapping (importMaterialWith o id s)) ∧
    (∀ o : DeleteAnswers, (deleteMaterialWith o id s).1 = .ok () →
      (deleteMaterialWith o id s).2.mapping id = none) ∧
    (s.isRegistered (Hex.hyphenated id) = false → ∀ attempts : List DeleteAnswers,
      let s' := attempts.foldl (fun s o => (deleteMaterialWith o id s).2) s
      s'.isRegistered (Hex.hyphenated id) = false ∧
        ∀ o : DeleteAnswers, o.works → (deleteMaterialWith o id s').1 = .ok ()) := by
  refine ⟨?_, fun _ _ h => importMaterialWith_failed o id h s,
    fun _ h => importMaterialWith_imported o id h s,
    fun o h => deleteMaterialWith_forgets o id h,
    fun h attempts => ⟨deletions_removed id h attempts, fun o hworks =>
      (deleteMaterialWith_works o id hworks).1⟩⟩
  intro other hother
  simp [importMaterialWith, usableIdentifier, hother]

namespace Concrete

def temporaryId : Uuid4 := ⟨0x623e4567e89b42d3a456426614174105, by decide +kernel⟩

def existingId : Uuid4 := ⟨0x723e4567e89b42d3a456426614174106, by decide +kernel⟩

/-- A file of so many bytes. -/
def file (sizeBytes : Int) : RegisteredFile :=
  ⟨.ofText "/private/source.png".toList, ⟨1, 2, 3, sizeBytes⟩⟩

/-- The digest of the file with one byte, and that of any other. -/
def digestOf (f : RegisteredFile) : List Char :=
  List.replicate 64 (if f.identity.sizeBytes = 1 then 'c' else 'e')

/-- An image of so many bytes. -/
def probed (sizeBytes : Int) : Probed digestOf where
  file := file sizeBytes
  facts :=
    { audioLoudnessLufs := none, contentDigest := digestOf (file sizeBytes), durationMs := none
      hasAudio := false, height := some 16, kind := .image, width := some 16 }
  valid := by
    show ((true && true) && true && !(true && false) && sha256Pattern (digestOf (file sizeBytes))) = true
    unfold digestOf
    split <;> decide
  digest := rfl

def existing : EditingMaterialSnapshot where
  materialId := Hex.hyphenated existingId
  kind := .image
  durationMs := none
  width := some 16
  height := some 16
  contentDigest := digestOf (file 1)
  hasAudio := false
  audioLoudnessLufs := none
  canonical := by decide +kernel

/-- The library knows the file of one byte, and the worker where it is. -/
def stores : Stores := ⟨fun id => if id = existingId then some (file 1) else none, [existing]⟩

/-- The file has another byte when it is bound to the known identifier. -/
def answers : ImportAnswers digestOf where
  first := .imported (probed 1)
  find := .answered []
  register := .registered
  findAgain := .answered []
  forget := .forgot
  second := .imported (probed 2)
  forgetSecond := .forgot

/-- The import has failed with `sourceChanged`, and the known identifier has no file. -/
theorem answers_changed :
    ∃ e s', importMaterialWith answers temporaryId stores = (.error e, s') ∧
      e.code = .sourceChanged ∧ s'.mapping existingId = none := by
  have hrun : (match importMaterialWith answers temporaryId stores with
      | (.error e, s') => e.code = .sourceChanged && (s'.mapping existingId).isNone
      | (.ok _, _) => false) = true := by decide +kernel
  cases heq : importMaterialWith answers temporaryId stores with
  | mk result s' =>
    rw [heq] at hrun
    cases result with
    | ok outcome => cases hrun
    | error e =>
      rw [Bool.and_eq_true, decide_eq_true_eq] at hrun
      exact ⟨e, s', rfl, hrun.1, Option.isNone_iff_eq_none.1 hrun.2⟩

/-- **Counterexample**: a material that was registered loses its mapping to an import that fails
with `SourceChanged`. -/
theorem changed_source_unbinds :
    ¬∀ (o : ImportAnswers digestOf) (id : Uuid4) (s : Stores) (e : LocalMaterialLibraryError),
      (importMaterialWith o id s).1 = .error e →
        e.code ≠ .compensationFailed → e.code ≠ .remapUncertain →
        (importMaterialWith o id s).2.mapping id = none ∧
          ∀ material ∈ s.materials, ∀ other : Uuid4, Hex.hyphenated other = material.materialId →
            (importMaterialWith o id s).2.mapping other = s.mapping other := by
  intro h
  obtain ⟨e, s', heq, hcode, hmapping⟩ := answers_changed
  have hkept := (h answers temporaryId stores e (by rw [heq]) (by simp [hcode])
    (by simp [hcode])).2 existing (List.mem_singleton.2 rfl) existingId rfl
  rw [heq, hmapping] at hkept
  simp [stores] at hkept

/-- The same import, of a file that does not change. -/
theorem unchanged_settles :
    Settled digestOf temporaryId (digestOf (file 1)) stores.mapping
        (importMaterialWith { answers with second := .imported (probed 1) } temporaryId stores) ∧
      (importMaterialWith { answers with second := .imported (probed 1) } temporaryId
        stores).1.isOk :=
  ⟨(library_settles { answers with second := .imported (probed 1) } temporaryId stores).2.2.1
    (probed 1) rfl, by decide +kernel⟩

end Concrete

end AutomationTool.Desktop.MaterialLibrary
