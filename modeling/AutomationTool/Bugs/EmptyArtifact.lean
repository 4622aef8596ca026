import AutomationTool.Core.LTS
import AutomationTool.Executor.ArtifactConduct

/-!
# An artifact file without a byte blocks the whole store

`_write_exclusive` creates an artifact under its final name and then writes its
bytes. A process that is killed in between leaves an empty file, which
`_validate_private_file` refuses; every operation takes an inventory of the
directory first, and is rejected from then on, also the ones that would remove
the file. The test
`test_capacity_rollover_and_write_failure_leave_no_partial_artifact` expects of
a failed write that it leaves no partial artifact.

* `works_iff`: a store works after a run if and only if none of its operations
  stopped at an empty file.
* `Concrete.killed_blocks`: a capture is killed after it has created its file.
-/
namespace AutomationTool.Bugs.EmptyArtifact

open Editing (sha256Pattern Uuid)
open Executor.EditingWorker (Uuid4)
open Executor.LocalArtifacts

variable (p : LocalArtifactPolicy) (sha256 : Bytes → {d : List Char // sha256Pattern d = true})

/-! ## Runs -/

/-- The calls that change the directory. -/
inductive Op
  | capture (id : Uuid) (payload : Bytes) (references : List LocalArtifactRef) (w : WriteOutcome)
  | prepareCapture (references : List LocalArtifactRef)
  | cleanup (references : List LocalArtifactRef)

/-- The steps of a call, and what it returns of an artifact it has captured.
mirrors local_artifact.py:155-205 -/
def Op.call (now : Nat) (free : Nat → Nat) (dir : Directory) :
    Op → List Step × Option (LocalArtifactRef × Bytes)
  | .capture id payload references w =>
    let (steps, reference) := captureGenerated p sha256 now free id payload references w dir
    (steps, reference.map (·, payload))
  | .prepareCapture references =>
    ((govern p sha256 now free references 1 p.maximumBytes dir).1, none)
  | .cleanup references => ((govern p sha256 now free references 0 0 dir).1, none)

/-- The directory, the clock, and the artifacts whose capture has returned and that no call has
removed since. -/
structure State where
  dir : Directory
  now : Nat
  captured : List (LocalArtifactRef × Bytes)

/-- `kill`: after so many steps of the call its process is killed, and the next call is one of
another store on the directory. The clock does not go back. -/
inductive Event
  | call (op : Op) (free : Nat → Nat) (kill : Option Nat)
  | tick (ns : Nat)

/-- The steps of a call that take place. -/
def taken (steps : List Step) : Option Nat → List Step
  | none => steps
  | some n => steps.take n

def State.step (s : State) : Event → State
  | .call op free kill =>
    let (steps, result) := op.call p sha256 s.now free s.dir
    let steps := taken steps kill
    { s with
      dir := Executor.LocalArtifacts.after s.dir steps
      captured := s.captured.filter (fun c => .unlink (p.fileName c.1.artifactId) ∉ steps) ++
        if kill = none then result.toList else [] }
  | .tick ns => { s with now := s.now + ns }

def system : LTS State Event where
  init s := s.dir = ∅ ∧ s.captured = []
  step s e s' := s' = s.step p sha256 e

/-- The call does not stop, killed or failed, between the creation of an artifact's file and its
first byte. -/
def Event.writes : Event → State → Prop
  | .call op free kill, s =>
    ¬∃ name t, (taken (op.call p sha256 s.now free s.dir).1 kill).getLast? = some (.create name t)
  | .tick _, _ => True

/-- Every captured artifact can be resolved, read and listed, and a capture succeeds when there is
room beside the artifacts it is told to keep. -/
structure Works (s : State) : Prop where
  reads : ∀ c ∈ s.captured, resolve p sha256 s.dir c.1.artifactId = some c.1 ∧
    read p sha256 s.dir c.1 = some c.2 ∧
    ∃ references, listReferences p sha256 s.dir = some references ∧ c.1 ∈ references
  captures : ∀ (free : Nat → Nat) (id : Uuid4) (payload : Bytes) (sizes : List Nat)
    (kept : List (LocalArtifactRef × Bytes)), p.fileName id ∉ s.dir → 1 ≤ payload.length →
    payload.length ≤ p.maximumBytes → kept ⊆ s.captured →
    (kept.map (·.1.artifactId)).Nodup → kept.length + 1 ≤ p.maximumArtifacts →
    p.minimumFreeBytes + payload.length ≤ free kept.length →
    ∃ r, (captureGenerated p sha256 s.now free id payload (kept.map (·.1)) ⟨sizes, none⟩
      s.dir).2 = some r

/-! ## Stores without an empty file -/

/-- The invariant of the runs without a stop at an empty file. -/
structure Intact (s : State) : Prop where
  sound : Sound p s.now s.dir
  stored : ∀ c ∈ s.captured, Stored p sha256 s.dir c.1 c.2

variable {p sha256} {s s' : State}

theorem Intact.works (h : Intact p sha256 s) : Works p sha256 s where
  reads c hc :=
    have hstored := h.stored c hc
    ⟨hstored.resolve h.sound, hstored.read h.sound, hstored.listed h.sound⟩
  captures free id payload sizes kept hfresh h1 h2 hkept hdistinct hfew hfree := by
    refine captureGenerated_isSome h.sound hfresh h1 h2 ?_ ?_ ?_
    · rw [List.map_map]
      exact hdistinct
    · intro r hr
      obtain ⟨c, hc, rfl⟩ := List.mem_map.1 hr
      exact ⟨c.2, (h.stored c (hkept hc)).readReference h.sound⟩
    · simp only [underPressure, List.length_map, decide_eq_false_iff_not, not_or, not_lt]
      exact ⟨hfew, hfree⟩

variable (sha256) in
theorem call_spec (h : Sound p s.now s.dir) (op : Op) (free : Nat → Nat) :
    Taken p s.now s.dir (op.call p sha256 s.now free s.dir).1 ∧
      ∀ c, (op.call p sha256 s.now free s.dir).2 = some c →
        Stored p sha256
          (Executor.LocalArtifacts.after s.dir (op.call p sha256 s.now free s.dir).1) c.1 c.2 := by
  cases op with
  | capture id payload references w =>
    obtain ⟨htaken, hstored⟩ :=
      captureGenerated_spec h free id payload references w
    refine ⟨htaken, fun c hc => ?_⟩
    obtain ⟨r, hr, rfl⟩ := Option.map_eq_some_iff.1 hc
    obtain ⟨hreference, hfile⟩ := hstored r hr
    exact ⟨hreference, s.now, hfile⟩
  | prepareCapture references =>
    obtain ⟨names, hremovable, hsteps, -⟩ :=
      govern_removable sha256 h free references 1 p.maximumBytes
    refine ⟨?_, nofun⟩
    simp only [Op.call, hsteps]
    exact .removed hremovable
  | cleanup references =>
    obtain ⟨names, hremovable, hsteps, -⟩ := govern_removable sha256 h free references 0 0
    refine ⟨?_, nofun⟩
    simp only [Op.call, hsteps]
    exact .removed hremovable

theorem taken_taken {now : Nat} {dir : Directory} {steps : List Step} (h : Taken p now dir steps)
    (kill : Option Nat) : Taken p now dir (taken steps kill) := by
  cases kill with
  | none => exact h
  | some n => exact h.take n

theorem Intact.step (h : Intact p sha256 s) {e : Event} (he : e.writes p sha256 s) :
    Intact p sha256 (s.step p sha256 e) := by
  cases e with
  | tick ns => exact ⟨h.sound.mono (Nat.le_add_right s.now ns), h.stored⟩
  | call op free kill =>
    obtain ⟨htaken, hstored⟩ := call_spec sha256 h.sound op free
    have hleft := taken_taken htaken kill
    refine ⟨hleft.sound h.sound he, fun c hc => ?_⟩
    rcases List.mem_append.1 hc with hc | hc
    · obtain ⟨hmem, hkept⟩ := List.mem_filter.1 hc
      obtain ⟨t, hfile⟩ := (h.stored c hmem).file
      exact ⟨(h.stored c hmem).reference, t, hleft.kept hfile (of_decide_eq_true hkept)⟩
    · cases kill with
      | none => exact hstored c (Option.mem_toList.1 hc)
      | some n => cases hc

/-! ## Stores with an empty file -/

variable (p) in
/-- There is a file without a byte, among no more files than the policy allows. -/
structure Blocked (s : State) : Prop where
  unfinished : Unfinished s.dir
  few : s.dir.keys.length ≤ p.maximumArtifacts

theorem Blocked.step (h : Blocked p s) (e : Event) : Blocked p (s.step p sha256 e) := by
  cases e with
  | tick ns => exact ⟨h.unfinished, h.few⟩
  | call op free kill =>
    have hnone := inventoryEntries_unfinished (p := p) h.unfinished
    have hsteps : (op.call p sha256 s.now free s.dir).1 = [] := by
      cases op <;> simp only [Op.call, captureGenerated_blocked hnone, govern_blocked hnone]
    have hdir : (s.step p sha256 (.call op free kill)).dir = s.dir := by
      cases kill <;> simp [State.step, hsteps, taken, Executor.LocalArtifacts.after]
    exact ⟨hdir ▸ h.unfinished, hdir ▸ h.few⟩

theorem version_someId (n : Nat) (h : n < 2 ^ 62) : Uuid.version (2 ^ 78 + 2 ^ 63 + n : Nat) = some 4 := by
  have hbig : (2 ^ 78 + 2 ^ 63 + n : Nat) < 2 ^ 128 := by
    simp only [Nat.reducePow] at h ⊢
    omega
  have hvariant : (2 ^ 78 + 2 ^ 63 + n : Nat) / 2 ^ 62 = 2 ^ 16 + 2 := by
    simp only [Nat.reducePow] at h ⊢
    omega
  have hversion : (2 ^ 78 + 2 ^ 63 + n : Nat) / 2 ^ 76 = 4 := by
    simp only [Nat.reducePow] at h ⊢
    omega
  rw [Uuid.version, if_pos ⟨hbig, by rw [hvariant]; decide⟩, hversion]

/-- A directory with no more files than a policy allows has an identifier left. -/
theorem exists_fresh {dir : Directory} (h : dir.keys.length ≤ p.maximumArtifacts) :
    ∃ id : Uuid4, p.fileName id ∉ dir := by
  by_contra hall
  have hmem : ∀ id : Uuid4, p.fileName id ∈ dir := fun id =>
    Classical.not_not.1 fun hid => hall ⟨id, hid⟩
  let ids := (List.finRange (p.maximumArtifacts + 1)).map fun n =>
    p.fileName ⟨2 ^ 78 + 2 ^ 63 + n.1, version_someId n.1 (by
      have := p.artifacts.2
      have hn := n.2
      simp only [maxLocalArtifactsPerPolicy, Nat.reducePow] at this ⊢
      omega)⟩
  have hnodup : ids.Nodup := by
    refine (List.nodup_finRange _).map fun a b heq => ?_
    have := congrArg Subtype.val (fileName_injective heq)
    simp only [Nat.add_left_cancel_iff] at this
    exact Fin.ext this
  have hsub : ids ⊆ dir.keys := by
    intro name hname
    obtain ⟨n, -, rfl⟩ := List.mem_map.1 hname
    exact hmem _
  have := (List.subperm_of_subset hnodup hsub).length_le
  simp only [ids, List.length_map, List.length_finRange] at this
  omega

/-- A blocked store refuses a capture for which there is room. -/
theorem Blocked.not_works (h : Blocked p s) : ¬Works p sha256 s := by
  intro hworks
  obtain ⟨id, hfresh⟩ := exists_fresh h.few
  obtain ⟨r, hr⟩ := hworks.captures (fun _ => p.minimumFreeBytes + 1) id [0] [] [] hfresh
    (le_refl 1) p.bytes.1 (List.nil_subset _) List.nodup_nil p.artifacts.1 (le_refl _)
  rw [captureGenerated_blocked (inventoryEntries_unfinished h.unfinished)] at hr
  cases hr

/-! ## Runs -/

theorem Intact.blocked (h : Intact p sha256 s) {e : Event} (he : ¬e.writes p sha256 s) :
    Blocked p (s.step p sha256 e) := by
  cases e with
  | tick ns => exact absurd trivial he
  | call op free kill =>
    have hleft := taken_taken (call_spec sha256 h.sound op free).1 kill
    obtain ⟨hunfinished, hfew⟩ := hleft.unfinished (Classical.not_not.1 he)
    exact ⟨hunfinished, hfew⟩

theorem intact_of_init (h : (system p sha256).init s) : Intact p sha256 s where
  sound := by
    rw [h.1]
    exact ⟨fun name file hfile => by simp at hfile, Nat.zero_le _⟩
  stored c hc := by
    rw [h.2] at hc
    cases hc

theorem intact_inductive :
    ((system p sha256).restrict (Event.writes p sha256)).Inductive (Intact p sha256) where
  init _ h := intact_of_init h
  step _ _ _ h hstep := hstep.1 ▸ h.step hstep.2

theorem blocked_run {es : List Event} (hrun : (system p sha256).Run s es s') (h : Blocked p s) :
    Blocked p s' := by
  induction hrun with
  | nil => exact h
  | cons hstep _ ih => exact ih (hstep ▸ h.step _)

/-- The runs that stop at an empty file end blocked. -/
theorem restrict_or_blocked {es : List Event} (hrun : (system p sha256).Run s es s')
    (h : Intact p sha256 s) :
    ((system p sha256).restrict (Event.writes p sha256)).Run s es s' ∨ Blocked p s' := by
  induction hrun with
  | nil => exact .inl (.nil _)
  | @cons s m s' e es hstep hrest ih =>
    cases hstep
    by_cases he : e.writes p sha256 s
    · exact (ih (h.step he)).imp_left fun hrun => .cons ⟨rfl, he⟩ hrun
    · exact .inr (blocked_run hrest (h.blocked he))

/-- **When a store works**: after a run it does if and only if no call has stopped at an empty
file. -/
theorem works_iff {s s' : State} {es : List Event} (hinit : (system p sha256).init s)
    (hrun : (system p sha256).Run s es s') :
    Works p sha256 s' ↔ ((system p sha256).restrict (Event.writes p sha256)).Run s es s' := by
  constructor
  · intro hworks
    rcases restrict_or_blocked hrun (intact_of_init hinit) with hrun | hblocked
    · exact hrun
    · exact absurd hworks hblocked.not_works
  · intro hrun
    exact (intact_inductive.run hrun (intact_of_init hinit)).works

namespace Concrete

theorem json_ok : mediaType "application/json".toList = true := by decide +kernel

def policy : LocalArtifactPolicy where
  relativeDirectory := ["artifacts".toList]
  fileExtension := "json".toList
  mediaType := "application/json".toList
  maximumBytes := 2048
  maximumArtifacts := 20
  directory := rfl
  extension := rfl
  media := json_ok
  bytes := (by decide : 0 < 2048 ∧ _)
  artifacts := by decide
  retention := by decide
  free := by decide

def digest (_ : Bytes) : {d : List Char // sha256Pattern d = true} :=
  ⟨List.replicate 64 'a', rfl⟩

def fresh : State := ⟨∅, 0, []⟩

theorem fresh_init : (system policy digest).init fresh := ⟨rfl, rfl⟩

def artifactId : Uuid4 := ⟨0x923e4567e89b42d3a456000000000001, by decide +kernel⟩

/-- The capture of one byte, on a disk with room, with its process killed after so many steps. -/
def capture (kill : Option Nat) : Event :=
  .call (.capture artifactId [1] [] {}) (fun _ => 2 ^ 40) kill

/-- The capture has created its file, and nothing more. -/
theorem killed_stops : ¬(capture (some 1)).writes policy digest fresh := by
  have hlast : (taken ((Op.capture artifactId [1] [] {}).call policy digest fresh.now
      (fun _ => 2 ^ 40) fresh.dir).1 (some 1)).getLast? =
        some (.create (policy.fileName artifactId) 0) := by decide +kernel
  exact fun h => h ⟨_, _, hlast⟩

/-- **Counterexample**: after the kill the store does not work any more. -/
theorem killed_blocks :
    ¬∀ s, (system policy digest).Reachable s → Works policy digest s := by
  intro h
  exact ((intact_of_init fresh_init).blocked killed_stops).not_works
    (h _ ⟨fresh, [capture (some 1)], fresh_init, .cons rfl (.nil _)⟩)

theorem capture_writes : (capture none).writes policy digest fresh := by
  have hlast : ((taken ((Op.capture artifactId [1] [] {}).call policy digest fresh.now
      (fun _ => 2 ^ 40) fresh.dir).1 none).getLast?.all fun
        | .create _ _ => false
        | _ => true) = true := by decide +kernel
  rintro ⟨name, t, hcreate⟩
  rw [hcreate] at hlast
  cases hlast

/-- Undisturbed, the artifact is stored and can be read. -/
theorem captured_works :
    Works policy digest (fresh.step policy digest (capture none)) ∧
      (fresh.step policy digest (capture none)).captured.map (·.2) = [[1]] :=
  ⟨(works_iff fresh_init (.cons rfl (.nil _))).2 (.cons ⟨rfl, capture_writes⟩ (.nil _)),
    by decide +kernel⟩

end Concrete

end AutomationTool.Bugs.EmptyArtifact
