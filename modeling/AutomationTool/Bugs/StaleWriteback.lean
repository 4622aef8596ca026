import AutomationTool.Core.Schedule
import AutomationTool.Editing.MaterialService
import AutomationTool.Editing.TimelineService

/-!
# A writeback that overwrites what a person wrote

Behaviour (material_repository.py:444-633):
`apply_smart_edit_writeback` reads the materials `FOR UPDATE`, judges them, and then updates
them by id and digest. SQLite has no `FOR UPDATE` and the transaction begins with the first
update, so a person may describe a material in between; the update writes the model's
description over theirs. An analysis without a description writes back the understanding that
was read.

Evidence: "Lock, validate and persist one generated draft as a single transaction"; the update
of `update_ai_understanding`, whose condition leaves out what a person wrote and whose
docstring says why a snapshot is not enough.

Counterexample: a person describes the material between the two.

`writes_kept`: while no analysed material was described by a person since it was read, nor,
where the analysis has no description, understood otherwise, every writer leaves alone what is
not its own.
-/
namespace AutomationTool.Bugs.StaleWriteback

open Protocol Editing

/-! ## What a writer may change -/

inductive ColumnGroup where
  | description | shotBoundaries | speechAnalysis
  deriving DecidableEq

def ColumnGroup.Same (r r' : MaterialRecord) : ColumnGroup → Prop
  | .description => r'.toDescriptionValues = r.toDescriptionValues
  | .shotBoundaries => r'.shotBoundariesMs = r.shotBoundariesMs
  | .speechAnalysis => r'.toSpeechAnalysisValues = r.toSpeechAnalysisValues

section

variable [UnicodeData]

/-- The groups of a row a call is there to write. -/
def Owns (r : MaterialRecord) : MaterialOp → ColumnGroup → Prop
  | .updateUserDescription m i, g => r.named m.materialId i = true ∧ g = .description
  | .updateAiUnderstanding m i, g => r.named m.materialId i = true ∧ g ≠ .speechAnalysis
  | .updateSpeechAnalysis m i, g => r.named m.materialId i = true ∧ g = .speechAnalysis
  | .commit writeback _ _ i, g => ∃ a ∈ writeback.analyses, r.named a.materialId i = true ∧
      (g = .speechAnalysis ∨ a.descriptionSource = .ai ∧ a.aiDescription ≠ none)
  | _, _ => False

/-- A person writes. -/
def ByUser : MaterialOp → Prop
  | .updateUserDescription .. => True
  | _ => False

/-- A row before and after a call. -/
structure RowKept (o : MaterialOp) (r r' : MaterialRecord) : Prop where
  named : ∀ m i, r'.named m i = r.named m i
  probe : r'.toProbeValues = r.toProbeValues
  groups : ∀ g, ¬Owns r o g → g.Same r r'
  /-- What a person wrote is theirs. -/
  described : r.descriptionSource = .user → ¬ByUser o →
    r'.toUnderstandingValues = r.toUnderstandingValues
  stays : r.descriptionSource = .user → r'.descriptionSource = .user

/-- All of a writeback is stored. -/
structure Applied (writeback : SmartEditMaterialWriteback) (i : InstallationId)
    (s s' : MaterialStore) : Prop where
  analyses : ∀ a ∈ writeback.analyses, ∃ r ∈ s'.materials, r.named a.materialId i = true ∧
    r.contentDigest = a.contentDigest ∧ r.toSpeechAnalysisValues = a.toSpeechAnalysisValues ∧
    (a.descriptionSource = .ai → r.toUnderstandingValues = a.toUnderstandingValues)
  narrations : ∀ n ∈ writeback.narrations, ∃ r ∈ s'.materials,
    r.named n.materialId i = true ∧ r.toProbeValues = n.toProbeValues ∧
    ((∀ r₀ ∈ s.materials, r₀.named n.materialId i = false) →
      r.toMaterialFields = n.toMaterialFields)

/-- A writeback is stored as a whole, or not at all. -/
def Whole : (o : MaterialOp) → o.Ret → MaterialStore → MaterialStore → Prop
  | .commit writeback _ _ i, .ok _, s, s' => Applied writeback i s s'
  | .commit .., .error _, s, s' => s' = s
  | _, _, _, _ => True

structure Kept (o : MaterialOp) (reply : o.Ret) (s s' : MaterialStore) : Prop where
  rows : ∀ r ∈ s.materials, ∃ r' ∈ s'.materials, RowKept o r r'
  whole : Whole o reply s s'

/-- The condition: of the materials a writeback is about to write what a model understood, no
person has described any, and those it has no description of are understood as they were. -/
def Timely : MaterialOp → MaterialStore → Prop
  | .commit writeback _ _ i, s =>
    ∀ a ∈ writeback.analyses, a.descriptionSource = .ai → ∀ r ∈ s.materials.rows,
      r.named a.materialId i = true → r.descriptionSource ≠ .user ∧
        (a.aiDescription = none → r.toUnderstandingValues = a.toUnderstandingValues)
  | _, _ => True

instance (o : MaterialOp) (s : MaterialStore) : Decidable (Timely o s) :=
  match o with
  | .commit .. => inferInstanceAs (Decidable (∀ a ∈ _, _))
  | .get .. | .updateUserDescription .. | .updateAiUnderstanding .. | .updateSpeechAnalysis .. |
    .selectAnalyses .. | .selectNarrations .. => .isTrue trivial

/-! ## One call -/

theorem rowKept_refl (o : MaterialOp) (r : MaterialRecord) : RowKept o r r where
  named _ _ := rfl
  probe := rfl
  groups g _ := by cases g <;> exact rfl
  described _ _ := rfl
  stays h := h

theorem zip_consistent {analyses : List SmartEditMaterialAnalysisWriteback}
    {changed : List Material} (h : List.Forall₂ Consistent analyses changed)
    {e : SmartEditMaterialAnalysisWriteback × Material} (he : e ∈ analyses.zip changed) :
    e.1 ∈ analyses ∧ Consistent e.1 e.2 := by
  induction h with
  | nil => cases he
  | cons hc _ ih =>
    rcases List.mem_cons.1 he with rfl | he
    · exact ⟨List.mem_cons_self, hc⟩
    · exact ⟨List.mem_cons_of_mem _ (ih he).1, (ih he).2⟩

/-- An entry of a timely writeback. -/
theorem writeback_rowKept {writeback : SmartEditMaterialWriteback} {changed : List Material}
    {narrations : List Material} {i : InstallationId} {s : MaterialStore} {r : MaterialRecord}
    {a : SmartEditMaterialAnalysisWriteback} {m : Material}
    (ht : Timely (.commit writeback changed narrations i) s) (hr : r ∈ s.materials)
    (ha : a ∈ writeback.analyses) (hc : Consistent a m) (hn : r.named m.materialId i = true) :
    RowKept (.commit writeback changed narrations i) r ((writebackValues a m).set r) := by
  have hn : r.named a.materialId i = true := hc.materialId ▸ hn
  have hspeech : Owns r (.commit writeback changed narrations i) .speechAnalysis :=
    ⟨a, ha, hn, .inl rfl⟩
  unfold writebackValues
  split
  · next hai =>
    obtain ⟨hsource, hnone⟩ := ht a ha hai r hr hn
    have hsame : ∀ g, ¬Owns r (.commit writeback changed narrations i) g → a.aiDescription = none := by
      intro g hg
      by_contra hsome
      exact hg ⟨a, ha, hn, .inr ⟨hai, hsome⟩⟩
    refine ⟨fun _ _ => rfl, rfl, fun g hg => ?_, fun h => absurd h hsource,
      fun h => absurd h hsource⟩
    have hu : m.toUnderstandingValues = r.toUnderstandingValues :=
      (hc.understanding hai).trans (hnone (hsame g hg)).symm
    cases g with
    | speechAnalysis => exact absurd hspeech hg
    | description => exact congrArg UnderstandingValues.toDescriptionValues hu
    | shotBoundaries => exact congrArg UnderstandingValues.shotBoundariesMs hu
  · refine ⟨fun _ _ => rfl, rfl, fun g hg => ?_, fun _ _ => rfl, fun h => h⟩
    cases g with
    | speechAnalysis => exact absurd hspeech hg
    | description | shotBoundaries => exact rfl

theorem image_rowKept {o : MaterialOp} {s : MaterialStore} {r : MaterialRecord}
    (hg : o.Grounded s) (ht : Timely o s) (hr : r ∈ s.materials) : RowKept o r (o.image r) := by
  unfold MaterialOp.image
  split
  · exact rowKept_refl o r
  next v hv =>
  cases o with
  | get | selectAnalyses | selectNarrations => cases hv
  | updateUserDescription m i =>
    obtain ⟨hn, hv⟩ := Option.ite_none_right_eq_some.1 hv
    cases hv
    refine ⟨fun _ _ => rfl, rfl, fun g h => ?_, fun _ h => absurd trivial h, fun _ => hg.1⟩
    cases g with
    | description => exact absurd ⟨hn, rfl⟩ h
    | shotBoundaries | speechAnalysis => exact rfl
  | updateAiUnderstanding m i =>
    obtain ⟨⟨hn, hsource⟩, hv⟩ := Option.ite_none_right_eq_some.1 hv
    cases hv
    refine ⟨fun _ _ => rfl, rfl, fun g h => ?_, fun h => absurd h hsource,
      fun h => absurd h hsource⟩
    cases g with
    | speechAnalysis => exact rfl
    | description | shotBoundaries => exact absurd ⟨hn, by decide⟩ h
  | updateSpeechAnalysis m i =>
    obtain ⟨hn, hv⟩ := Option.ite_none_right_eq_some.1 hv
    cases hv
    refine ⟨fun _ _ => rfl, rfl, fun g h => ?_, fun _ _ => rfl, fun h => h⟩
    cases g with
    | speechAnalysis => exact absurd ⟨hn, rfl⟩ h
    | description | shotBoundaries => exact rfl
  | commit writeback changed narrations i =>
    obtain ⟨e, he, rfl⟩ := Option.map_eq_some_iff.1 hv
    have hmatch : entryOf i r e = true := List.find?_some he
    obtain ⟨ha, hc⟩ := zip_consistent hg.1 (List.mem_of_find?_eq_some he)
    exact writeback_rowKept ht hr ha hc (Bool.and_eq_true_iff.1 hmatch).1

theorem commit_applied {s s' : MaterialStore} {writeback : SmartEditMaterialWriteback}
    {changed narrations : List Material} {i : InstallationId}
    (hg : MaterialOp.Grounded (.commit writeback changed narrations i) s)
    (h : s.commit writeback changed narrations i = .ok s') : Applied writeback i s s' := by
  obtain ⟨hthrough, hfound⟩ := commit_eq_ok h (Consistent.nodup hg.1)
  constructor
  · intro a ha
    obtain ⟨m, hm, hc⟩ : ∃ m, (a, m) ∈ writeback.analyses.zip changed ∧ Consistent a m := by
      obtain ⟨n, hn, rfl⟩ := List.getElem_of_mem ha
      have hn' : n < changed.length := hg.1.length_eq ▸ hn
      exact ⟨changed[n], List.mem_iff_getElem.2 ⟨n, by simp [hn, hn'], by simp⟩,
        hg.1.get hn hn'⟩
    obtain ⟨r, hr, hfind⟩ := hfound _ hm
    have hmatch : entryOf i r (a, m) = true := List.find?_some hfind
    obtain ⟨hn, hdigest⟩ := Bool.and_eq_true_iff.1 hmatch
    have himage : MaterialOp.image (.commit writeback changed narrations i) r =
        (writebackValues a m).set r := by
      simp only [MaterialOp.image, MaterialOp.assigns, hfind, Option.map_some]
    refine ⟨_, hthrough.mem.2 (.inl ⟨r, hr, rfl⟩), ?_, ?_, ?_, ?_⟩
    · rw [image_named, ← hc.materialId]
      exact hn
    · rw [image_probe]
      exact of_decide_eq_true hdigest
    · rw [himage, ← hc.speech]
      unfold writebackValues
      split <;> rfl
    · intro hai
      rw [himage, ← hc.understanding hai]
      unfold writebackValues
      rw [if_pos hai]
      rfl
  · intro n hn
    rcases hg.2.2 n hn with hnew | ⟨r, hr, hname, hp⟩
    · refine ⟨⟨n.toMaterialFields, i⟩, hthrough.mem.2 (.inr ?_), decide_eq_true ⟨rfl, rfl⟩, rfl,
        fun _ => rfl⟩
      exact List.mem_map.2 ⟨n, hnew, rfl⟩
    · refine ⟨_, hthrough.mem.2 (.inl ⟨r, hr, rfl⟩), image_named.trans hname,
        image_probe.trans hp, fun hnone => ?_⟩
      rw [hnone r hr] at hname
      cases hname

theorem call_kept {o : MaterialOp} {s : MaterialStore} (hg : o.Grounded s) (ht : Timely o s) :
    Kept o (MaterialStore.exec o s).1 s (MaterialStore.exec o s).2 := by
  constructor
  · intro r hr
    rcases exec_cases hg with h | h
    · rw [h]
      exact ⟨r, hr, rowKept_refl o r⟩
    · exact ⟨o.image r, h.mem.2 (.inl ⟨r, hr, rfl⟩), image_rowKept hg ht hr⟩
  · cases o with
    | commit writeback changed narrations i =>
      simp only [MaterialStore.exec]
      cases hc : s.commit writeback changed narrations i with
      | error e => exact rfl
      | ok s' => exact commit_applied hg hc
    | _ => exact trivial

/-! ## Every run -/

/-- Any writers, on any store whose rows are materials. -/
def materialSystem : LTS (Pool MaterialStore MaterialOp MaterialOp.Ret)
    (PoolLabel MaterialOp MaterialOp.Ret) :=
  pool MaterialStore.Readable MaterialStore.exec MaterialOffered

end

/-! ## A description written in between -/

open Editing.Shelf
open scoped Editing.Racing

/-- What a model saw in it. -/
def analysis : SmartEditMaterialAnalysisWriteback where
  hasSpeech := false
  speechSegmentsMs := []
  speechTranscript := none
  aiDescription := some ['s', 'e', 'a']
  aiTags := []
  descriptionSource := .ai
  describedAt := some 5
  shotBoundariesMs := [0]
  materialId := 7
  contentDigest := List.replicate 64 'a'
  valid := by decide +kernel

def writeback : SmartEditMaterialWriteback where
  analyses := [analysis]
  narrations := []
  analyses_le := by decide
  narrations_le := by decide
  validNarrations _ h := nomatch h
  nonempty := .inl (List.cons_ne_nil _ _)
  analysisIds := by decide
  narrationIds := .nil
  narrationDigests := .nil
  ids_disjoint := by simp
  digests_disjoint := by simp

theorem library_readable : library.Readable := by
  refine readable_iff.2 fun r hr => ?_
  obtain rfl := List.mem_singleton.1 hr
  decide +kernel

def writes : MaterialProg Unit := applySmartEditWriteback writeback 1 >>= fun _ => pure ()

def describes : MaterialProg Unit :=
  updateUnderstanding 1 7 .user ['m', 'i', 'n', 'e'] [] none none >>= fun _ => pure ()

def play (turns : List (Turn MaterialOp MaterialOp.Ret)) :
    Pool MaterialStore MaterialOp MaterialOp.Ret :=
  (Pool.play MaterialStore.exec turns ⟨library, []⟩).2

theorem play_reachable {turns : List (Turn MaterialOp MaterialOp.Ret)}
    (ho : Offers MaterialOffered turns)
    (ht : Pool.meetsAll MaterialStore.exec Timely turns ⟨library, []⟩) :
    (materialSystem.restrict (PoolLabel.meets Timely)).Reachable (play turns) :=
  ⟨_, _, ⟨library_readable, rfl⟩, Pool.run_play ho ht⟩

/-- The writeback alone, then the person. -/
def inTurn : Pool MaterialStore MaterialOp MaterialOp.Ret :=
  play (alone 0 writes 2 ++ alone 1 describes 3)

/-- The person, after the writeback has read the material. -/
def between : Pool MaterialStore MaterialOp MaterialOp.Ret :=
  play (alone 0 writes 1 ++ alone 1 describes 3)

def described : MaterialRecord :=
  { footage with aiDescription := some ['m', 'i', 'n', 'e'], descriptionSource := .user }

end AutomationTool.Bugs.StaleWriteback
