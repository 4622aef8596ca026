import AutomationTool.Editing.MaterialRepository

/-!
# The material service

The writes of `MaterialService`. Each reads a material, makes the changed one of what it
read, and has some of its columns written in a later transaction.

* `exec_cases`: what one transaction may do to the rows.
* `Grounded`: a write is about a row that was probed like the material its caller holds. All
  writes of the service are (`offered_safe`), whatever happens between their calls, and such
  writes leave rows that can be read (`materials_guarantee`).
-/
namespace AutomationTool.Editing

open Protocol

/-! ## Rows -/

theorem eq_of_named {s : MaterialStore} {a b : MaterialRecord} {m : MaterialId}
    {i : InstallationId} (ha : a ∈ s.materials) (hb : b ∈ s.materials)
    (hna : a.named m i = true) (hnb : b.named m i = true) : a = b := by
  refine Table.eq_of_not_apart ha hb fun h => h.1 ?_
  exact (of_decide_eq_true hna).1.trans (of_decide_eq_true hnb).1.symm

theorem insert_eq_ok {s s' : MaterialStore} {row : MaterialRecord} (h : s.insert row = .ok s') :
    s'.materials.rows = s.materials.rows ++ [row] := by
  unfold MaterialStore.insert at h
  split at h
  · cases h
  · split at h
    · cases h
    · next hins =>
      split at h <;> cases h
      exact Table.insert?_rows hins

/-- Rows stay, with what probing found. -/
def MaterialStore.Persists (s s' : MaterialStore) : Prop :=
  ∀ r ∈ s.materials, ∃ r' ∈ s'.materials, (∀ m i, r'.named m i = r.named m i) ∧
    r'.toProbeValues = r.toProbeValues

theorem MaterialStore.Persists.refl (s : MaterialStore) : s.Persists s :=
  fun r hr => ⟨r, hr, fun _ _ => rfl, rfl⟩

theorem MaterialStore.Persists.trans {a b c : MaterialStore} (h : a.Persists b) (h' : b.Persists c) :
    a.Persists c := by
  intro r hr
  obtain ⟨r', hr', hn, hp⟩ := h r hr
  obtain ⟨r'', hr'', hn', hp'⟩ := h' r' hr'
  exact ⟨r'', hr'', fun m i => (hn' m i).trans (hn m i), hp'.trans hp⟩

section

variable [UnicodeData]

/-! ## Programs -/

abbrev MaterialProg := Prog MaterialOp MaterialOp.Ret

/-- The part of a person.
mirrors materials.py:419-423 -/
def describeByUser (i : InstallationId) (current : Material) (description : List Char)
    (tags : List (List Char)) (shotBoundariesMs : Option (List Nat)) (describedAt : Option Time) :
    MaterialProg (Except MaterialFailure Material) :=
  if tags ≠ [] ∨ shotBoundariesMs ≠ none ∨ describedAt ≠ none then pure (.error .invalidQuery)
  else
    match current.withUserDescription description with
    | none => pure (.error .invalidModel)
    | some changed => do
      match ← Prog.op (MaterialOp.updateUserDescription changed i) with
      | .error e => pure (.error e)
      | .ok () => Prog.op (MaterialOp.get changed.materialId i)

/-- The part of the model.
mirrors materials.py:424-443 -/
def describeByAi (i : InstallationId) (current : Material) (description : List Char)
    (tags : List (List Char)) (shotBoundariesMs : Option (List Nat)) (describedAt : Option Time) :
    MaterialProg (Except MaterialFailure Material) :=
  match describedAt, shotBoundariesMs with
  | some describedAt, some (boundary :: boundaries) =>
    if current.descriptionSource = .user then pure (.error .descriptionProtected)
    else
      match current.withAiUnderstanding description tags (boundary :: boundaries) describedAt with
      | none => pure (.error .invalidModel)
      | some changed => do
        match ← Prog.op (MaterialOp.updateAiUnderstanding changed i) with
        | .error e => pure (.error e)
        | .ok () =>
          match ← Prog.op (MaterialOp.get changed.materialId i) with
          | .error e => pure (.error e)
          | .ok stored =>
            if stored.descriptionSource = .user then pure (.error .descriptionProtected)
            else pure (.ok stored)
  | _, _ => pure (.error .invalidQuery)

/-- mirrors materials.py:398-446 -/
def updateUnderstanding (i : InstallationId) (m : MaterialId) (source : DescriptionSource)
    (description : List Char) (tags : List (List Char)) (shotBoundariesMs : Option (List Nat))
    (describedAt : Option Time) : MaterialProg (Except MaterialFailure Material) := do
  match ← Prog.op (MaterialOp.get m i) with
  | .error e => pure (.error e)
  | .ok current =>
    match source with
    | .user => describeByUser i current description tags shotBoundariesMs describedAt
    | .ai => describeByAi i current description tags shotBoundariesMs describedAt

/-- mirrors materials.py:448-470 -/
def updateSpeechAnalysis (i : InstallationId) (m : MaterialId) (v : SpeechAnalysisValues) :
    MaterialProg (Except MaterialFailure Material) := do
  match ← Prog.op (MaterialOp.get m i) with
  | .error e => pure (.error e)
  | .ok current =>
    match current.withSpeechAnalysis v with
    | none => pure (.error .invalidModel)
    | some changed =>
      match ← Prog.op (MaterialOp.updateSpeechAnalysis changed i) with
      | .error e => pure (.error e)
      | .ok () => Prog.op (MaterialOp.get changed.materialId i)

/-- From the changed materials on.
mirrors material_repository.py:529-617 -/
def storeWriteback (writeback : SmartEditMaterialWriteback) (i : InstallationId)
    (changed : List Material) : MaterialProg (Except MaterialFailure (List Material)) := do
  let rows ← if writeback.narrations = [] then pure [] else
    Prog.op (MaterialOp.selectNarrations (writeback.narrations.map (·.materialId))
      (writeback.narrations.map (·.contentDigest)) i)
  match newNarrations rows i writeback.narrations with
  | .error e => pure (.error e)
  | .ok narrations =>
    match ← Prog.op (MaterialOp.commit writeback changed narrations i) with
    | .error e => pure (.error e)
    | .ok () => pure (.ok (changed ++ writeback.narrations))

/-- mirrors material_repository.py:444-633 -/
def applySmartEditWriteback (writeback : SmartEditMaterialWriteback) (i : InstallationId) :
    MaterialProg (Except MaterialFailure (List Material)) := do
  let rows ← Prog.op (MaterialOp.selectAnalyses (writeback.analyses.map (·.materialId)) i)
  match rows.mapM MaterialRecord.hydrate with
  | .error e => pure (.error e)
  | .ok stored =>
    if stored.length ≠ writeback.analyses.length then pure (.error .notFound)
    else
      match writeback.analyses.mapM (changedAnalysis stored) with
      | .error e => pure (.error e)
      | .ok changed => storeWriteback writeback i changed

/-- The writers of materials. -/
inductive MaterialOffered : MaterialProg Unit → Prop where
  | updateUnderstanding (i : InstallationId) (m : MaterialId) (source : DescriptionSource)
      (description : List Char) (tags : List (List Char)) (shotBoundariesMs : Option (List Nat))
      (describedAt : Option Time) :
      MaterialOffered (updateUnderstanding i m source description tags shotBoundariesMs
        describedAt >>= fun _ => pure ())
  | updateSpeechAnalysis (i : InstallationId) (m : MaterialId) (v : SpeechAnalysisValues) :
      MaterialOffered (updateSpeechAnalysis i m v >>= fun _ => pure ())
  | applySmartEditWriteback (writeback : SmartEditMaterialWriteback) (i : InstallationId) :
      MaterialOffered (applySmartEditWriteback writeback i >>= fun _ => pure ())

/-! ## What a transaction does to a row -/

/-- The row an entry of a writeback is about. -/
def entryOf (i : InstallationId) (r : MaterialRecord)
    (e : SmartEditMaterialAnalysisWriteback × Material) : Bool :=
  r.named e.2.materialId i && r.contentDigest = e.1.contentDigest

/-- The columns a call assigns in a row, where it goes through. -/
def MaterialOp.assigns : MaterialOp → MaterialRecord → Option MaterialValues
  | .updateUserDescription m i, r =>
    if r.named m.materialId i then some (descriptionValues m) else none
  | .updateAiUnderstanding m i, r =>
    if r.named m.materialId i ∧ r.descriptionSource ≠ .user then some (understandingValues m)
    else none
  | .updateSpeechAnalysis m i, r =>
    if r.named m.materialId i then some (speechAnalysisValues m) else none
  | .commit writeback changed _ i, r =>
    ((writeback.analyses.zip changed).find? (entryOf i r)).map fun e => writebackValues e.1 e.2
  | _, _ => none

/-- What a call that goes through makes of a row. -/
def MaterialOp.image (o : MaterialOp) (r : MaterialRecord) : MaterialRecord :=
  match o.assigns r with
  | none => r
  | some v => v.set r

def MaterialOp.inserted : MaterialOp → List MaterialRecord
  | .commit _ _ narrations i => narrations.map fun n => ⟨n.toMaterialFields, i⟩
  | _ => []

/-- The call went through. -/
structure WentThrough (o : MaterialOp) (s s' : MaterialStore) : Prop where
  rows : s'.materials.rows = s.materials.rows.map o.image ++ o.inserted

theorem image_named {o : MaterialOp} {r : MaterialRecord} {m : MaterialId} {i : InstallationId} :
    (o.image r).named m i = r.named m i := by
  unfold MaterialOp.image
  split <;> rfl

theorem image_probe {o : MaterialOp} {r : MaterialRecord} :
    (o.image r).toProbeValues = r.toProbeValues := by
  unfold MaterialOp.image
  split <;> rfl

theorem updateWhere_image {s : MaterialStore} {p : MaterialRecord → Bool} {v : MaterialValues}
    {o : MaterialOp} (h : ∀ r, o.assigns r = if p r then some v else none)
    (hi : o.inserted = []) : WentThrough o s (s.updateWhere p v).2 := by
  constructor
  rw [hi, List.append_nil]
  refine List.map_congr_left fun r _ => ?_
  unfold MaterialOp.image
  rw [h]
  by_cases hp : p r = true <;> simp [hp]

theorem insertNarrations_rows {i : InstallationId} {narrations : List Material}
    {s s' : MaterialStore} (h : MaterialStore.insertNarrations i narrations s = .ok s') :
    s'.materials.rows = s.materials.rows ++ narrations.map fun n => ⟨n.toMaterialFields, i⟩ := by
  induction narrations generalizing s with
  | nil =>
    cases h
    simp
  | cons n narrations ih =>
    unfold MaterialStore.insertNarrations at h
    split at h
    · cases h
    · next s₁ hins =>
      rw [ih h, insert_eq_ok hins]
      simp

section Updates

variable {i : InstallationId} {entries : List (SmartEditMaterialAnalysisWriteback × Material)}
  {s s' : MaterialStore}

/-- What the updates of a writeback make of a row. -/
def entryImage (i : InstallationId)
    (entries : List (SmartEditMaterialAnalysisWriteback × Material)) (r : MaterialRecord) :
    MaterialRecord :=
  match entries.find? (entryOf i r) with
  | none => r
  | some e => (writebackValues e.1 e.2).set r

/-- No two entries are about one row, so that each row is written at most once. -/
theorem updateAnalyses_eq_ok (h : MaterialStore.updateAnalyses i entries s = .ok s')
    (hd : (entries.map (·.2.materialId)).Nodup) :
    s'.materials.rows = s.materials.rows.map (entryImage i entries) ∧
      ∀ e ∈ entries, ∃ r ∈ s.materials, entries.find? (entryOf i r) = some e := by
  induction entries generalizing s with
  | nil =>
    cases h
    have hid : entryImage i [] = id := rfl
    rw [hid, List.map_id]
    exact ⟨rfl, fun e he => absurd he List.not_mem_nil⟩
  | cons e entries ih =>
    obtain ⟨hfresh, hd⟩ := List.nodup_cons.1 hd
    unfold MaterialStore.updateAnalyses at h
    dsimp only at h
    split at h
    · cases h
    next hcount =>
    obtain ⟨hrows, hfound⟩ := ih h hd
    have hafter : ∀ r, entryImage i entries
        (if entryOf i r e then (writebackValues e.1 e.2).set r else r) =
          entryImage i (e :: entries) r := by
      intro r
      by_cases he : entryOf i r e = true
      · have hnone : entries.find? (entryOf i ((writebackValues e.1 e.2).set r)) = none := by
          refine List.find?_eq_none.2 fun x hx hmatch => hfresh ?_
          have hid := (of_decide_eq_true (Bool.and_eq_true_iff.1 he).1).1
          have hid' := (of_decide_eq_true (Bool.and_eq_true_iff.1 hmatch).1).1
          exact List.mem_map.2 ⟨x, hx, hid'.symm.trans hid⟩
        rw [if_pos he]
        simp [entryImage, hnone, he]
      · simp [entryImage, he]
    constructor
    · rw [hrows]
      show List.map _ (List.map _ _) = _
      rw [List.map_map]
      exact List.map_congr_left fun r _ => hafter r
    · intro x hx
      rcases List.mem_cons.1 hx with rfl | hx
      · obtain ⟨r, hr, hp⟩ := List.countP_pos_iff.1
          (Nat.lt_of_lt_of_eq Nat.one_pos (Decidable.not_not.1 hcount).symm)
        exact ⟨r, hr, List.find?_cons_of_pos hp⟩
      · obtain ⟨r, hr, hfind⟩ := hfound x hx
        obtain ⟨r₀, hr₀, rfl⟩ := List.mem_map.1 hr
        change entries.find? (entryOf i (if entryOf i r₀ e then _ else r₀)) = some x at hfind
        have hmatch : entryOf i _ x = true := List.find?_some hfind
        have hother : entryOf i r₀ e ≠ true := by
          intro he
          have hid := (of_decide_eq_true (Bool.and_eq_true_iff.1 he).1).1
          have hid' := (of_decide_eq_true (Bool.and_eq_true_iff.1 hmatch).1).1
          rw [if_pos he] at hid'
          exact hfresh (List.mem_map.2 ⟨x, hx, hid'.symm.trans hid⟩)
        rw [if_neg hother] at hfind
        exact ⟨r₀, hr₀, (List.find?_cons_of_neg hother).trans hfind⟩

end Updates

/-- What a writeback that commits did. -/
theorem commit_eq_ok {s s' : MaterialStore} {writeback : SmartEditMaterialWriteback}
    {changed narrations : List Material} {i : InstallationId}
    (h : s.commit writeback changed narrations i = .ok s')
    (hd : (changed.map (·.materialId)).Nodup) :
    WentThrough (.commit writeback changed narrations i) s s' ∧
      ∀ e ∈ writeback.analyses.zip changed, ∃ r ∈ s.materials,
        (writeback.analyses.zip changed).find? (entryOf i r) = some e := by
  unfold MaterialStore.commit at h
  split at h
  · cases h
  next hlength =>
  have hlength := Decidable.not_not.1 hlength
  split at h
  · cases h
  next s₁ hupd =>
  have hids : ((writeback.analyses.zip changed).map (·.2.materialId)) =
      changed.map (·.materialId) := by
    have hsnd := List.map_snd_zip hlength.ge
    conv_rhs => rw [← hsnd, List.map_map]
    rfl
  obtain ⟨hrows, hfound⟩ := updateAnalyses_eq_ok hupd (hids ▸ hd)
  refine ⟨⟨?_⟩, hfound⟩
  rw [insertNarrations_rows h, hrows]
  congr 1
  refine List.map_congr_left fun r _ => ?_
  simp only [entryImage, MaterialOp.image, MaterialOp.assigns]
  cases (writeback.analyses.zip changed).find? (entryOf i r) <;> rfl

/-! ## Grounded calls -/

/-- The material is stored, and was probed like that. -/
def MaterialStore.Fits (s : MaterialStore) (m : Material) (i : InstallationId) : Prop :=
  ∃ r ∈ s.materials, r.named m.materialId i = true ∧ r.toProbeValues = m.toProbeValues

/-- The material an analysis made. -/
structure Consistent (a : SmartEditMaterialAnalysisWriteback) (m : Material) : Prop where
  materialId : m.materialId = a.materialId
  contentDigest : m.contentDigest = a.contentDigest
  speech : m.toSpeechAnalysisValues = a.toSpeechAnalysisValues
  understanding : a.descriptionSource = .ai → m.toUnderstandingValues = a.toUnderstandingValues

/-- What the service knows of the materials it writes. -/
def MaterialOp.Grounded : MaterialOp → MaterialStore → Prop
  | .updateUserDescription m i, s => m.descriptionSource = .user ∧ s.Fits m i
  | .updateAiUnderstanding m i, s | .updateSpeechAnalysis m i, s => s.Fits m i
  | .commit writeback changed narrations i, s =>
    List.Forall₂ Consistent writeback.analyses changed ∧ (∀ c ∈ changed, s.Fits c i) ∧
      ∀ n ∈ writeback.narrations, n ∈ narrations ∨ s.Fits n i
  | _, _ => True

/-- Every row is a material. -/
def MaterialStore.Readable (s : MaterialStore) : Prop :=
  ∀ r ∈ s.materials, ∃ m, r.hydrate = .ok m

theorem hydrate_eq_ok {r : MaterialRecord} {m : Material} :
    r.hydrate = .ok m ↔ m.toMaterialFields = r.toMaterialFields := by
  unfold MaterialRecord.hydrate
  constructor
  · intro h
    split at h <;> cases h
    next hmake => exact Material.make_eq_some hmake
  · intro h
    rw [← h, Material.make_valid m.valid]

theorem readable_iff {s : MaterialStore} :
    s.Readable ↔ ∀ r ∈ s.materials, r.toMaterialFields.Valid := by
  refine forall₂_congr fun r _ => ?_
  constructor
  · rintro ⟨m, hm⟩
    rw [← hydrate_eq_ok.1 hm]
    exact m.valid
  · exact fun hr => ⟨⟨_, hr⟩, hydrate_eq_ok.2 rfl⟩

namespace MaterialStore

theorem Fits.probe_eq {s : MaterialStore} {m : Material} {i : InstallationId} (h : s.Fits m i)
    {r : MaterialRecord} (hr : r ∈ s.materials) (hn : r.named m.materialId i = true) :
    r.toProbeValues = m.toProbeValues := by
  obtain ⟨r', hr', hn', hp⟩ := h
  rw [eq_of_named hr hr' hn hn', hp]

theorem Persists.fits {s s' : MaterialStore} (h : s.Persists s') {m : Material}
    {i : InstallationId} (hf : s.Fits m i) : s'.Fits m i := by
  obtain ⟨r, hr, hn, hp⟩ := hf
  obtain ⟨r', hr', hn', hp'⟩ := h r hr
  exact ⟨r', hr', (hn' _ _).trans hn, hp'.trans hp⟩

end MaterialStore

/-- The values are those of the material. -/
structure MaterialValues.From (v : MaterialValues) (m : Material) : Prop where
  speechAnalysis : ∀ x ∈ v.speechAnalysis, x = m.toSpeechAnalysisValues
  description : ∀ x ∈ v.description, x = m.toDescriptionValues
  shotBoundariesMs : ∀ x ∈ v.shotBoundariesMs, x = m.shotBoundariesMs

theorem descriptionValues_from (m : Material) : (descriptionValues m).From m := by
  constructor <;> simp [descriptionValues]

theorem understandingValues_from (m : Material) : (understandingValues m).From m := by
  constructor <;> simp [understandingValues]

theorem speechAnalysisValues_from (m : Material) : (speechAnalysisValues m).From m := by
  constructor <;> simp [speechAnalysisValues]

theorem writebackValues_from (a : SmartEditMaterialAnalysisWriteback) (m : Material) :
    (writebackValues a m).From m := by
  unfold writebackValues
  split
  · constructor <;> simp [speechAnalysisValues, understandingValues, MaterialValues.update]
  · exact speechAnalysisValues_from m

/-- Columns of a material go into any row that was probed like it. -/
theorem MaterialValues.From.set_valid {v : MaterialValues} {m : Material} (hv : v.From m)
    {r : MaterialRecord} (hr : r.toMaterialFields.Valid)
    (hp : r.toProbeValues = m.toProbeValues) : (v.set r).toMaterialFields.Valid := by
  obtain ⟨a, ha, hpa, hspeech⟩ : ∃ a : MaterialFields, a.Valid ∧
      r.toProbeValues = a.toProbeValues ∧
        v.speechAnalysis.getD r.toSpeechAnalysisValues = a.toSpeechAnalysisValues := by
    cases h : v.speechAnalysis with
    | none => exact ⟨r.toMaterialFields, hr, rfl, rfl⟩
    | some x => exact ⟨m.toMaterialFields, m.valid, hp, hv.speechAnalysis x h⟩
  obtain ⟨b, hb, hdescription⟩ : ∃ b : MaterialFields, b.Valid ∧
      v.description.getD r.toDescriptionValues = b.toDescriptionValues := by
    cases h : v.description with
    | none => exact ⟨r.toMaterialFields, hr, rfl⟩
    | some x => exact ⟨m.toMaterialFields, m.valid, hv.description x h⟩
  obtain ⟨c, hc, hpc, hshots⟩ : ∃ c : MaterialFields, c.Valid ∧
      r.toProbeValues = c.toProbeValues ∧
        v.shotBoundariesMs.getD r.shotBoundariesMs = c.shotBoundariesMs := by
    cases h : v.shotBoundariesMs with
    | none => exact ⟨r.toMaterialFields, hr, rfl, rfl⟩
    | some x => exact ⟨m.toMaterialFields, m.valid, hp, hv.shotBoundariesMs x h⟩
  exact valid_of_groups ha hb hc hpa hpc hspeech hdescription hshots

/-- A grounded call writes columns of a material that was probed like the row. -/
theorem MaterialOp.Grounded.from {o : MaterialOp} {s : MaterialStore} (h : o.Grounded s)
    {r : MaterialRecord} (hr : r ∈ s.materials) {v : MaterialValues} (hv : o.assigns r = some v) :
    ∃ m, v.From m ∧ r.toProbeValues = m.toProbeValues := by
  cases o with
  | get | selectAnalyses | selectNarrations => cases hv
  | updateUserDescription m i =>
    obtain ⟨hn, hv⟩ := Option.ite_none_right_eq_some.1 hv
    cases hv
    exact ⟨m, descriptionValues_from m, h.2.probe_eq hr hn⟩
  | updateAiUnderstanding m i =>
    obtain ⟨hn, hv⟩ := Option.ite_none_right_eq_some.1 hv
    cases hv
    exact ⟨m, understandingValues_from m, h.probe_eq hr hn.1⟩
  | updateSpeechAnalysis m i =>
    obtain ⟨hn, hv⟩ := Option.ite_none_right_eq_some.1 hv
    cases hv
    exact ⟨m, speechAnalysisValues_from m, h.probe_eq hr hn⟩
  | commit writeback changed narrations i =>
    obtain ⟨e, he, rfl⟩ := Option.map_eq_some_iff.1 hv
    have hchanged : e.2 ∈ changed := (List.of_mem_zip (List.mem_of_find?_eq_some he)).2
    have hmatch : entryOf i r e = true := List.find?_some he
    have hn := (Bool.and_eq_true_iff.1 hmatch).1
    exact ⟨e.2, writebackValues_from e.1 e.2, (h.2.1 e.2 hchanged).probe_eq hr hn⟩

theorem Consistent.nodup {writeback : SmartEditMaterialWriteback} {changed : List Material}
    (h : List.Forall₂ Consistent writeback.analyses changed) :
    (changed.map (·.materialId)).Nodup := by
  have hids : changed.map (·.materialId) = writeback.analyses.map (·.materialId) := by
    refine List.forall₂_eq_eq_eq ▸ List.forall₂_map_left_iff.2 (List.forall₂_map_right_iff.2 ?_)
    exact (h.imp fun _ _ hc => hc.materialId).flip
  rw [hids]
  exact writeback.analysisIds

/-- A transaction is refused, or does to each row what the call says. -/
theorem exec_cases {o : MaterialOp} {s : MaterialStore} (h : o.Grounded s) :
    (MaterialStore.exec o s).2 = s ∨ WentThrough o s (MaterialStore.exec o s).2 := by
  cases o with
  | get | selectAnalyses | selectNarrations => exact .inl rfl
  | updateUserDescription m i =>
    simp only [MaterialStore.exec, MaterialStore.updateUserDescription]
    split
    · exact .inl rfl
    · unfold MaterialStore.updateUnderstandingFields
      dsimp only
      split
      · exact .inr (updateWhere_image (fun r => by simp [MaterialOp.assigns]) rfl)
      · split <;> exact .inl rfl
  | updateAiUnderstanding m i =>
    simp only [MaterialStore.exec, MaterialStore.updateAiUnderstanding]
    split
    · exact .inl rfl
    · unfold MaterialStore.updateUnderstandingFields
      dsimp only
      split
      · exact .inr (updateWhere_image (fun r => by simp [MaterialOp.assigns]) rfl)
      · split <;> exact .inl rfl
  | updateSpeechAnalysis m i =>
    simp only [MaterialStore.exec, MaterialStore.updateSpeechAnalysis]
    split
    · exact .inr (updateWhere_image (fun r => rfl) rfl)
    · exact .inl rfl
  | commit writeback changed narrations i =>
    cases hc : s.commit writeback changed narrations i with
    | error e =>
      left
      simp only [MaterialStore.exec, hc]
      rfl
    | ok s' =>
      right
      simp only [MaterialStore.exec, hc]
      exact (commit_eq_ok hc (Consistent.nodup h.1)).1

/-! ## What the calls keep -/

theorem WentThrough.mem {o : MaterialOp} {s s' : MaterialStore} (h : WentThrough o s s')
    {r : MaterialRecord} :
    r ∈ s'.materials ↔ (∃ r₀ ∈ s.materials, o.image r₀ = r) ∨ r ∈ o.inserted := by
  rw [Table.mem_def, h.rows, List.mem_append, List.mem_map]
  exact Iff.rfl

theorem inserted_valid {o : MaterialOp} {r : MaterialRecord} (h : r ∈ o.inserted) :
    r.toMaterialFields.Valid := by
  cases o with
  | commit writeback changed narrations i =>
    obtain ⟨n, -, rfl⟩ := List.mem_map.1 h
    exact n.valid
  | _ => cases h

theorem materials_guarantee : Prog.Guarantee MaterialStore.exec MaterialStore.Readable
    MaterialStore.Persists MaterialOp.Grounded where
  refl := MaterialStore.Persists.refl
  trans _ _ _ := MaterialStore.Persists.trans
  keeps o s hs hg := by
    rcases exec_cases hg with h | h
    · rw [h]
      exact hs
    rw [readable_iff] at hs ⊢
    intro r hr
    rcases h.mem.1 hr with ⟨r₀, hr₀, rfl⟩ | hins
    · unfold MaterialOp.image
      split
      · exact hs r₀ hr₀
      · next v hv =>
        obtain ⟨m, hm, hp⟩ := hg.from hr₀ hv
        exact hm.set_valid (hs r₀ hr₀) hp
    · exact inserted_valid hins
  moves o s _ hg := by
    rcases exec_cases hg with h | h
    · rw [h]
      exact .refl s
    · exact fun r hr => ⟨o.image r, h.mem.2 (.inl ⟨r, hr, rfl⟩), fun _ _ => image_named, image_probe⟩

/-! ## What the service reads and makes -/

theorem get_fits {s : MaterialStore} {m : MaterialId} {i : InstallationId} {current : Material}
    (h : s.get m i = .ok current) : s.Fits current i := by
  unfold MaterialStore.get at h
  split at h
  · cases h
  · next r hfind =>
    obtain ⟨hr, hn⟩ := Table.mem_of_find? hfind
    have hfields := hydrate_eq_ok.1 h
    refine ⟨r, hr, ?_, by rw [hfields]⟩
    rw [hfields]
    exact decide_eq_true ⟨rfl, (of_decide_eq_true hn).2⟩

theorem MaterialStore.Fits.congr {s : MaterialStore} {m m' : Material} {i : InstallationId}
    (h : s.Fits m i) (hid : m'.materialId = m.materialId)
    (hp : m'.toProbeValues = m.toProbeValues) : s.Fits m' i := by
  unfold MaterialStore.Fits
  rw [hid, hp]
  exact h

/-- Another material of the same probing. -/
structure SameProbe (m m' : Material) : Prop where
  materialId : m'.materialId = m.materialId
  probe : m'.toProbeValues = m.toProbeValues

theorem withUserDescription_probe {m m' : Material} {description : List Char}
    (h : m.withUserDescription description = some m') :
    m'.descriptionSource = .user ∧ SameProbe m m' := by
  have hm := Material.make_eq_some h
  exact ⟨by rw [hm], by rw [hm], by rw [hm]⟩

theorem withAiUnderstanding_probe {m m' : Material} {description : List Char}
    {tags : List (List Char)} {shots : List Nat} {at' : Time}
    (h : m.withAiUnderstanding description tags shots at' = some m') : SameProbe m m' := by
  unfold Material.withAiUnderstanding at h
  split at h
  · cases h
    exact ⟨rfl, rfl⟩
  · have hm := Material.make_eq_some h
    exact ⟨by rw [hm], by rw [hm]⟩

theorem withSpeechAnalysis_eq {m m' : Material} {v : SpeechAnalysisValues}
    (h : m.withSpeechAnalysis v = some m') :
    SameProbe m m' ∧ m'.toSpeechAnalysisValues = v ∧
      m'.toUnderstandingValues = m.toUnderstandingValues := by
  have hm := Material.make_eq_some h
  exact ⟨⟨by rw [hm], by rw [hm]⟩, by rw [hm], by rw [hm]⟩

theorem SameProbe.fits {s : MaterialStore} {m m' : Material} {i : InstallationId}
    (h : SameProbe m m') (hf : s.Fits m i) : s.Fits m' i := hf.congr h.materialId h.probe

/-- What a material that an analysis was judged against becomes. -/
theorem judgeAnalysis_eq_ok {current changed : Material}
    {a : SmartEditMaterialAnalysisWriteback} (h : judgeAnalysis current a = .ok changed) :
    SameProbe current changed ∧ current.contentDigest = a.contentDigest ∧
      (a.descriptionSource = .ai → changed.toUnderstandingValues = a.toUnderstandingValues) := by
  unfold judgeAnalysis at h
  split at h
  · cases h
  next hdigest =>
  have hdigest := Decidable.not_not.1 hdigest
  split at h
  · next huser =>
    split at h <;> cases h
    exact ⟨⟨rfl, rfl⟩, hdigest, fun hai => by rw [huser] at hai; cases hai⟩
  next hai =>
  split at h
  · cases h
  next hsource =>
  split at h
  · next hnone =>
    split at h <;> cases h
    next hsame =>
    refine ⟨⟨rfl, rfl⟩, hdigest, fun hai' => ?_⟩
    have hcheck : a.validateDescription = true := a.valid.description
    simp only [not_or, Decidable.not_not] at hsame
    simp only [DescriptionValues.validateDescription, decide_eq_true_eq] at hcheck
    obtain ⟨htags, hat⟩ := hcheck.2.2.2.2.1 hnone
    have hsame_source : current.descriptionSource = a.descriptionSource := by
      cases hc : current.descriptionSource with
      | ai => exact hai'.symm
      | user => exact absurd hc hsource
    refine UnderstandingValues.ext ?_ ?_ hsame_source ?_ hsame.2.2.1
    · exact hsame.1.trans hnone.symm
    · exact hsame.2.1.trans htags.symm
    · exact hsame.2.2.2.trans hat.symm
  · cases h
  · next description at' hdescription hat =>
    split at h <;> cases h
    next hmake =>
    refine ⟨withAiUnderstanding_probe hmake, hdigest, fun hai => ?_⟩
    unfold Material.withAiUnderstanding at hmake
    rw [if_neg hsource] at hmake
    have hm := Material.make_eq_some hmake
    rw [hm, ← hdescription, ← hat, ← hai]

theorem changedAnalysis_eq_ok {stored : List Material} {changed : Material}
    {a : SmartEditMaterialAnalysisWriteback} (h : changedAnalysis stored a = .ok changed) :
    Consistent a changed ∧ ∃ m ∈ stored, SameProbe m changed := by
  unfold changedAnalysis at h
  split at h
  · cases h
  next current hfind =>
  have hid : current.materialId = a.materialId := by
    have := List.find?_some hfind
    exact of_decide_eq_true this
  obtain ⟨judged, hjudged, h⟩ := bind_eq_ok.1 h
  split at h <;> cases h
  next hspeech =>
  obtain ⟨hprobe, hdigest, hai⟩ := judgeAnalysis_eq_ok hjudged
  obtain ⟨hprobe', hv, hu⟩ := withSpeechAnalysis_eq hspeech
  have hp : changed.toProbeValues = current.toProbeValues := hprobe'.probe.trans hprobe.probe
  have hm : changed.materialId = current.materialId := hprobe'.materialId.trans hprobe.materialId
  refine ⟨⟨hm.trans hid, ?_, hv, fun h => hu.trans (hai h)⟩, current,
    List.mem_of_find?_eq_some hfind, hm, hp⟩
  rw [hp, hdigest]

theorem changedAnalyses_eq_ok {stored changed : List Material}
    {analyses : List SmartEditMaterialAnalysisWriteback}
    (h : analyses.mapM (changedAnalysis stored) = .ok changed) :
    List.Forall₂ Consistent analyses changed ∧ ∀ c ∈ changed, ∃ m ∈ stored, SameProbe m c := by
  have hall := mapM_eq_ok.1 h
  refine ⟨hall.imp fun a c hc => (changedAnalysis_eq_ok hc).1, fun c hc => ?_⟩
  obtain ⟨a, -, ha⟩ := forall₂_mem_right hall hc
  exact (changedAnalysis_eq_ok ha).2

theorem judgeNarration_eq_ok {rows : List MaterialRecord} {i : InstallationId}
    {narration : Material} (h : judgeNarration rows i narration = .ok true) :
    ∃ r ∈ rows, r.installationId = i ∧ narration.toMaterialFields = r.toMaterialFields := by
  unfold judgeNarration at h
  split at h
  · next existing hfind =>
    split at h
    · cases h
    next hi =>
    obtain ⟨m, hm, h⟩ := bind_eq_ok.1 h
    split at h
    · cases h
    next hsame =>
    rw [Decidable.not_not.1 hsame] at hm
    exact ⟨existing, List.mem_of_find?_eq_some hfind, Decidable.not_not.1 hi,
      hydrate_eq_ok.1 hm⟩
  · split at h <;> cases h

/-- A narration is stored already or has to be. -/
theorem newNarrations_eq_ok {rows : List MaterialRecord} {i : InstallationId}
    {narrations new : List Material} (h : newNarrations rows i narrations = .ok new) :
    ∀ n ∈ narrations, n ∈ new ∨
      ∃ r ∈ rows, r.installationId = i ∧ n.toMaterialFields = r.toMaterialFields := by
  induction narrations generalizing new with
  | nil => exact fun n hn => absurd hn List.not_mem_nil
  | cons narration narrations ih =>
    obtain ⟨stored, hstored, h⟩ := bind_eq_ok.1 h
    obtain ⟨rest, hrest, h⟩ := bind_eq_ok.1 h
    intro n hn
    have htail : n ∈ narrations → n ∈ new ∨
        ∃ r ∈ rows, r.installationId = i ∧ n.toMaterialFields = r.toMaterialFields := by
      intro hn
      refine (ih hrest n hn).imp_left fun hmem => ?_
      cases stored <;> cases h
      · exact List.mem_cons_of_mem _ hmem
      · exact hmem
    rcases List.mem_cons.1 hn with rfl | hn
    · cases stored with
      | true => exact .inr (judgeNarration_eq_ok hstored)
      | false =>
        cases h
        exact .inl List.mem_cons_self
    · exact htail hn

theorem fits_of_row {s : MaterialStore} {r : MaterialRecord} {m : Material} {i : InstallationId}
    (hr : r ∈ s.materials) (hi : r.installationId = i)
    (hm : m.toMaterialFields = r.toMaterialFields) : s.Fits m i := by
  refine ⟨r, hr, ?_, by rw [hm]⟩
  rw [hm]
  exact decide_eq_true ⟨rfl, hi⟩

/-! ## Every write of the service is grounded -/

/-- The calls of the program are grounded, whatever others do between them. -/
abbrev Grounds {α : Type} (p : MaterialProg α) (s : MaterialStore) : Prop :=
  p.safe MaterialStore.exec MaterialStore.Readable MaterialStore.Persists MaterialOp.Grounded s

theorem grounds_done {α : Type} {p : MaterialProg α} {s : MaterialStore} (h : Grounds p s) :
    Grounds (p >>= fun _ => pure ()) s :=
  Prog.wp_bind (Prog.wp_mono h (fun _ _ _ => trivial) fun _ => id)

theorem grounds_get {m : MaterialId} {i : InstallationId} {s : MaterialStore} :
    Grounds (Prog.op (MaterialOp.get m i)) s := fun _ _ _ => ⟨trivial, trivial⟩

theorem describeByUser_grounds {i : InstallationId} {current : Material} {s : MaterialStore}
    (h : s.Fits current i) (description : List Char) (tags : List (List Char))
    (shots : Option (List Nat)) (at' : Option Time) :
    Grounds (describeByUser i current description tags shots at') s := by
  unfold describeByUser
  split
  · exact trivial
  split
  · exact trivial
  next changed hmake =>
  obtain ⟨hsource, hprobe⟩ := withUserDescription_probe hmake
  refine Prog.wp_op fun s' _ hr => ⟨⟨hsource, hr.fits (hprobe.fits h)⟩, ?_⟩
  split
  · exact trivial
  · exact grounds_get

theorem describeByAi_grounds {i : InstallationId} {current : Material} {s : MaterialStore}
    (h : s.Fits current i) (description : List Char) (tags : List (List Char))
    (shots : Option (List Nat)) (at' : Option Time) :
    Grounds (describeByAi i current description tags shots at') s := by
  unfold describeByAi
  split
  swap
  · exact trivial
  split
  · exact trivial
  split
  · exact trivial
  next changed hmake =>
  refine Prog.wp_op fun s' _ hr => ⟨hr.fits ((withAiUnderstanding_probe hmake).fits h), ?_⟩
  split
  · exact trivial
  refine Prog.wp_op fun s'' _ _ => ⟨trivial, ?_⟩
  split
  · exact trivial
  · split <;> exact trivial

theorem updateUnderstanding_grounds (i : InstallationId) (m : MaterialId)
    (source : DescriptionSource) (description : List Char) (tags : List (List Char))
    (shots : Option (List Nat)) (at' : Option Time) (s : MaterialStore) :
    Grounds (updateUnderstanding i m source description tags shots at') s := by
  refine Prog.wp_op fun s' _ _ => ⟨trivial, ?_⟩
  split
  · exact trivial
  next current hget =>
  have hfits : s'.Fits current i := get_fits hget
  cases source with
  | user => exact describeByUser_grounds hfits description tags shots at'
  | ai => exact describeByAi_grounds hfits description tags shots at'

theorem updateSpeechAnalysis_grounds (i : InstallationId) (m : MaterialId)
    (v : SpeechAnalysisValues) (s : MaterialStore) : Grounds (updateSpeechAnalysis i m v) s := by
  refine Prog.wp_op fun s' _ _ => ⟨trivial, ?_⟩
  split
  · exact trivial
  next current hget =>
  have hfits : s'.Fits current i := get_fits hget
  split
  · exact trivial
  next changed hmake =>
  refine Prog.wp_op fun s'' _ hr => ⟨hr.fits ((withSpeechAnalysis_eq hmake).1.fits hfits), ?_⟩
  split
  · exact trivial
  · exact grounds_get

theorem storeWriteback_grounds {writeback : SmartEditMaterialWriteback} {i : InstallationId}
    {changed : List Material} {s : MaterialStore}
    (hall : List.Forall₂ Consistent writeback.analyses changed)
    (hfits : ∀ c ∈ changed, s.Fits c i) : Grounds (storeWriteback writeback i changed) s := by
  -- from the rows on
  have hrest : ∀ (rows : List MaterialRecord) (s' : MaterialStore), s.Persists s' →
      (∀ r ∈ rows, r ∈ s'.materials) → Grounds (do
        match newNarrations rows i writeback.narrations with
        | .error e => pure (.error e)
        | .ok narrations =>
          match ← Prog.op (MaterialOp.commit writeback changed narrations i) with
          | .error e => pure (.error e)
          | .ok () => pure (.ok (changed ++ writeback.narrations)) :
          MaterialProg (Except MaterialFailure (List Material))) s' := by
    intro rows s' hr hrows
    split
    · exact trivial
    next narrations hnew =>
    refine Prog.wp_op fun s'' _ hr' => ?_
    refine ⟨⟨hall, fun c hc => hr'.fits (hr.fits (hfits c hc)), fun n hn => ?_⟩, ?_⟩
    · refine (newNarrations_eq_ok hnew n hn).imp_right fun ⟨r, hmem, hi, he⟩ => ?_
      exact hr'.fits (fits_of_row (hrows r hmem) hi he)
    · split <;> exact trivial
  unfold storeWriteback
  split
  · exact hrest [] s (.refl s) fun r hr => absurd hr List.not_mem_nil
  · intro s' _ hr
    exact ⟨trivial, hrest _ s' hr fun r hr => (List.mem_filter.1 hr).1⟩

theorem applySmartEditWriteback_grounds (writeback : SmartEditMaterialWriteback)
    (i : InstallationId) (s : MaterialStore) :
    Grounds (applySmartEditWriteback writeback i) s := by
  refine Prog.wp_op fun s' _ _ => ⟨trivial, ?_⟩
  split
  · exact trivial
  next stored hstored =>
  split
  · exact trivial
  split
  · exact trivial
  next changed hchanged =>
  obtain ⟨hall, hfrom⟩ := changedAnalyses_eq_ok hchanged
  refine storeWriteback_grounds hall fun c hc => ?_
  obtain ⟨m, hm, hprobe⟩ := hfrom c hc
  obtain ⟨r, hr, he⟩ := forall₂_mem_right (mapM_eq_ok.1 hstored) hm
  obtain ⟨hmem, hi⟩ := List.mem_filter.1 hr
  exact hprobe.fits (fits_of_row hmem (of_decide_eq_true hi).1 (hydrate_eq_ok.1 he))

theorem offered_safe {p : MaterialProg Unit} (h : MaterialOffered p) (s : MaterialStore) :
    Grounds p s := by
  cases h with
  | updateUnderstanding => exact grounds_done (updateUnderstanding_grounds _ _ _ _ _ _ _ s)
  | updateSpeechAnalysis => exact grounds_done (updateSpeechAnalysis_grounds _ _ _ s)
  | applySmartEditWriteback => exact grounds_done (applySmartEditWriteback_grounds _ _ s)

end
end AutomationTool.Editing
