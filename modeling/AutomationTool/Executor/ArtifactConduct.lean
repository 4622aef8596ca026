import AutomationTool.Executor.ArtifactInventory

/-!
# What the operations of an artifact store leave

`Taken` are the steps of an operation wherever it was cut: some artifacts are
removed, and then a new one is written, as far as it got.

* `Taken.sound`: finished artifacts are left, unless it was cut where the new
  file had no byte yet (`Taken.unfinished`).
* `Taken.kept`: an artifact that was not removed is as it was.
* `captureGenerated_spec`, `captureGenerated_isSome`: what a capture stores, and
  when it succeeds.
* `Stored.resolve`, `Stored.read`, `Stored.listed`: what is stored can be read.
-/
namespace AutomationTool.Executor.LocalArtifacts

open Editing (Uuid sha256Pattern)
open EditingWorker (Uuid4)
open MaterialPaths (usableIdentifier)

variable {p : LocalArtifactPolicy} {sha256 : Bytes → {d : List Char // sha256Pattern d = true}}

/-! ## Steps on the directory -/

theorem after_append (dir : Directory) (steps more : List Step) :
    after dir (steps ++ more) = after (after dir steps) more := List.foldl_append ..

theorem after_unlink_of_notMem {dir : Directory} {names : List (List Char)} {name : List Char}
    (h : name ∉ names) : (after dir (names.map .unlink)).lookup name = dir.lookup name := by
  induction names generalizing dir with
  | nil => rfl
  | cons n names ih =>
    rw [List.mem_cons, not_or] at h
    exact (ih h.2).trans (AList.lookup_erase_ne h.1)

theorem after_unlink_of_mem {dir : Directory} {names : List (List Char)} {name : List Char}
    (h : name ∈ names) : (after dir (names.map .unlink)).lookup name = none := by
  induction names generalizing dir with
  | nil => cases h
  | cons n names ih =>
    show (after (dir.erase n) (names.map .unlink)).lookup name = none
    by_cases hmem : name ∈ names
    · exact ih hmem
    · rcases List.mem_cons.1 h with rfl | h
      · rw [after_unlink_of_notMem hmem, AList.lookup_erase]
      · exact absurd h hmem

/-- Unlinking only removes. -/
theorem lookup_of_after_unlink {dir : Directory} {names : List (List Char)} {name : List Char}
    {file : File} (h : (after dir (names.map .unlink)).lookup name = some file) :
    dir.lookup name = some file := by
  by_cases hmem : name ∈ names
  · rw [after_unlink_of_mem hmem] at h
    cases h
  · rwa [after_unlink_of_notMem hmem] at h

theorem keys_after_unlink {dir : Directory} {names : List (List Char)} (hnodup : names.Nodup)
    (hmem : ∀ name ∈ names, name ∈ dir) :
    (after dir (names.map .unlink)).keys.length + names.length = dir.keys.length := by
  induction names generalizing dir with
  | nil => rfl
  | cons n names ih =>
    rw [List.nodup_cons] at hnodup
    have hrest : ∀ name ∈ names, name ∈ dir.erase n := fun name hname =>
      AList.mem_erase.2 ⟨fun heq => hnodup.1 (heq ▸ hname), hmem name (List.mem_cons_of_mem _ hname)⟩
    have hin := AList.mem_keys.1 (hmem n List.mem_cons_self)
    have hpos := List.length_pos_of_mem hin
    have hlength := ih hnodup.2 hrest
    rw [AList.keys_erase, @List.length_erase_of_mem _ instBEqOfDecidableEq _ _ _ hin] at hlength
    rw [List.length_cons]
    show (after (dir.erase n) (names.map .unlink)).keys.length + (names.length + 1) = _
    omega

/-- A file that is created and written has what was written so far. -/
theorem after_write {dir : Directory} (name : List Char) (now : Nat) (written : List Bytes) :
    after dir (.create name now :: written.map fun piece => .append name piece now) =
      dir.insert name ⟨written.flatten, now⟩ := by
  have happend (bytes : Bytes) : after (dir.insert name ⟨bytes, now⟩)
      (written.map fun piece => .append name piece now) =
        dir.insert name ⟨bytes ++ written.flatten, now⟩ := by
    induction written generalizing bytes with
    | nil => simp [after]
    | cons piece written ih =>
      have hstep : Step.apply (dir.insert name ⟨bytes, now⟩) (.append name piece now) =
          dir.insert name ⟨bytes ++ piece, now⟩ := by
        simp [Step.apply]
      show after (Step.apply (dir.insert name ⟨bytes, now⟩) (.append name piece now)) _ = _
      rw [hstep, ih, List.flatten_cons, List.append_assoc]
  exact happend []

theorem pieces_flatten (payload : Bytes) (sizes : List Nat) :
    (pieces payload sizes).flatten = payload ∧ ∀ piece ∈ pieces payload sizes, piece ≠ [] := by
  induction sizes generalizing payload with
  | nil =>
    unfold pieces
    split <;> simp_all
  | cons n sizes ih =>
    unfold pieces
    split
    · simp_all
    · rename_i hne
      obtain ⟨hflatten, hpieces⟩ := ih (payload.drop (n + 1))
      refine ⟨by rw [List.flatten_cons, hflatten, List.take_append_drop], fun piece hpiece => ?_⟩
      rcases List.mem_cons.1 hpiece with rfl | hpiece
      · simp [hne]
      · exact hpieces piece hpiece

/-! ## What is left of an operation that is cut -/

/-- Distinct files of the directory, to be removed. -/
structure Removable (dir : Directory) (names : List (List Char)) : Prop where
  nodup : names.Nodup
  present : ∀ name ∈ names, name ∈ dir

theorem Removable.take {dir : Directory} {names : List (List Char)} (h : Removable dir names)
    (n : Nat) : Removable dir (names.take n) where
  nodup := h.nodup.sublist (List.take_sublist n names)
  present name hname := h.present name (List.mem_of_mem_take hname)

def unlinking (names : List (List Char)) : List Step := names.map .unlink

def writing (name : List Char) (now : Nat) (written : List Bytes) : List Step :=
  .create name now :: written.map fun piece => .append name piece now

variable (p) in
/-- A new artifact may be written once `names` have been removed. -/
structure Writable (dir : Directory) (names : List (List Char)) (id : Uuid4)
    (written : List Bytes) : Prop extends Removable dir names where
  room : dir.keys.length - names.length + 1 ≤ p.maximumArtifacts
  fresh : p.fileName id ∉ after dir (unlinking names)
  pieces : ∀ piece ∈ written, piece ≠ []
  size : written.flatten.length ≤ p.maximumBytes

theorem Writable.take {dir : Directory} {names : List (List Char)} {id : Uuid4}
    {written : List Bytes} (h : Writable p dir names id written) (n : Nat) :
    Writable p dir names id (written.take n) where
  toRemovable := h.toRemovable
  room := h.room
  fresh := h.fresh
  pieces piece hpiece := h.pieces piece (List.mem_of_mem_take hpiece)
  size := by
    have hsplit : written.flatten = (written.take n).flatten ++ (written.drop n).flatten := by
      rw [← List.flatten_append, List.take_append_drop]
    have := h.size
    rw [hsplit, List.length_append] at this
    omega

variable (p) in
/-- The steps that took place of an operation on a directory: artifacts are removed, and then a new
one may be written, as far as it goes. -/
inductive Taken (now : Nat) (dir : Directory) : List Step → Prop
  | removed {names : List (List Char)} (h : Removable dir names) : Taken now dir (unlinking names)
  | written {names : List (List Char)} {id : Uuid4} {written : List Bytes}
      (h : Writable p dir names id written) :
      Taken now dir (unlinking names ++ writing (p.fileName id) now written)
  | undone {names : List (List Char)} {id : Uuid4} {written : List Bytes}
      (h : Writable p dir names id written) :
      Taken now dir (unlinking names ++ writing (p.fileName id) now written ++
        [.unlink (p.fileName id)])

variable {now : Nat} {dir : Directory}

theorem Writable.taken_take {names : List (List Char)} {id : Uuid4} {written : List Bytes}
    (h : Writable p dir names id written) (n : Nat) :
    Taken p now dir ((unlinking names ++ writing (p.fileName id) now written).take n) := by
  have hlength : (unlinking names).length = names.length := List.length_map _
  rw [List.take_append, hlength]
  cases hn : n - names.length with
  | zero =>
    rw [List.take_zero, List.append_nil, unlinking, ← List.map_take]
    exact .removed (h.toRemovable.take n)
  | succ k =>
    rw [List.take_of_length_le (by omega), writing, List.take_succ_cons, ← List.map_take]
    exact .written (h.take k)

/-- So is what is left of it when it is cut earlier. -/
theorem Taken.take {steps : List Step} (h : Taken p now dir steps) (n : Nat) :
    Taken p now dir (steps.take n) := by
  cases h with
  | removed h =>
    rw [unlinking, ← List.map_take]
    exact .removed (h.take n)
  | written h => exact h.taken_take n
  | @undone names id written h =>
    rw [List.take_append]
    cases hn : n - (unlinking names ++ writing (p.fileName id) now written).length with
    | zero =>
      rw [List.take_zero, List.append_nil]
      exact h.taken_take n
    | succ k =>
      rw [List.take_of_length_le (by omega), List.take_succ_cons, List.take_nil]
      exact .undone h

theorem Removable.sound {names : List (List Char)} (h : Removable dir names)
    (hsound : Sound p now dir) : Sound p now (after dir (unlinking names)) where
  files name file hlookup := hsound.files name file (lookup_of_after_unlink hlookup)
  few := by
    have := keys_after_unlink h.nodup h.present
    have := hsound.few
    unfold unlinking
    omega

theorem Writable.keys_insert {names : List (List Char)} {id : Uuid4} {written : List Bytes}
    (h : Writable p dir names id written) (file : File) :
    ((after dir (unlinking names)).insert (p.fileName id) file).keys.length =
      dir.keys.length - names.length + 1 := by
  have hkeys := keys_after_unlink h.nodup h.present
  have hfresh : p.fileName id ∉ (after dir (unlinking names)).keys := h.fresh
  rw [AList.keys_insert, List.length_cons, @List.erase_of_not_mem _ instBEqOfDecidableEq _ _ _ hfresh]
  unfold unlinking
  omega

/-- The directory with the new file is as good, once the file has a byte. -/
theorem Writable.sound {names : List (List Char)} {id : Uuid4} {written : List Bytes}
    (h : Writable p dir names id written) (hsound : Sound p now dir) (hne : written ≠ []) :
    Sound p now ((after dir (unlinking names)).insert (p.fileName id) ⟨written.flatten, now⟩) := by
  have hrest := h.toRemovable.sound hsound
  constructor
  · intro name file hlookup
    by_cases hname : name = p.fileName id
    · rw [hname, AList.lookup_insert] at hlookup
      cases hlookup
      refine ⟨⟨id, hname⟩, decide_eq_true ⟨?_, h.size⟩, le_refl now⟩
      rw [Nat.one_le_iff_ne_zero, Ne, List.length_eq_zero_iff]
      obtain ⟨piece, hpiece⟩ := List.exists_mem_of_ne_nil written hne
      exact fun hnil => h.pieces piece hpiece (List.flatten_eq_nil_iff.1 hnil piece hpiece)
    · rw [AList.lookup_insert_ne hname] at hlookup
      exact hrest.files name file hlookup
  · rw [h.keys_insert]
    exact h.room

/-- Where an operation stops that has begun to write. -/
theorem getLast?_writing (steps : List Step) (name : List Char) (now : Nat) (written : List Bytes) :
    (∃ n t, (steps ++ writing name now written).getLast? = some (.create n t)) ↔ written = [] := by
  constructor
  · rintro ⟨n, t, h⟩
    by_contra hne
    obtain ⟨last, hlast⟩ := List.getLast?_isSome.2 hne |> Option.isSome_iff_exists.1
    simp [writing, List.getLast?_append, List.getLast?_cons, hlast] at h
  · rintro rfl
    exact ⟨name, now, by simp [writing]⟩

theorem Writable.after_eq {names : List (List Char)} {id : Uuid4} {written : List Bytes} (now : Nat) :
    after dir (unlinking names ++ writing (p.fileName id) now written) =
      (after dir (unlinking names)).insert (p.fileName id) ⟨written.flatten, now⟩ := by
  rw [after_append, writing, after_write]

/-- An operation that does not stop at an empty file leaves finished artifacts. -/
theorem Taken.sound {steps : List Step} (h : Taken p now dir steps) (hsound : Sound p now dir)
    (hstop : ¬∃ name t, steps.getLast? = some (.create name t)) : Sound p now (after dir steps) := by
  cases h with
  | removed h => exact h.sound hsound
  | written h =>
    rw [Writable.after_eq]
    exact h.sound hsound fun hnil => hstop ((getLast?_writing _ _ _ _).2 hnil)
  | @undone names id written h =>
    rw [after_append, Writable.after_eq]
    have hrest := h.toRemovable.sound hsound
    show Sound p now (((after dir (unlinking names)).insert (p.fileName id)
      ⟨written.flatten, now⟩).erase (p.fileName id))
    constructor
    · intro name file hlookup
      by_cases hname : name = p.fileName id
      · rw [hname, AList.lookup_erase] at hlookup
        cases hlookup
      · rw [AList.lookup_erase_ne hname, AList.lookup_insert_ne hname] at hlookup
        exact hrest.files name file hlookup
    · have hfresh : p.fileName id ∉ (after dir (unlinking names)).keys := h.fresh
      rw [AList.keys_erase, AList.keys_insert, @List.erase_cons_head _ instBEqOfDecidableEq,
        @List.erase_of_not_mem _ instBEqOfDecidableEq _ _ _ hfresh]
      exact hrest.few

/-- One that stops at an empty file leaves it, beside no more files than the policy allows. -/
theorem Taken.unfinished {steps : List Step} (h : Taken p now dir steps)
    (hstop : ∃ name t, steps.getLast? = some (.create name t)) :
    Unfinished (after dir steps) ∧ (after dir steps).keys.length ≤ p.maximumArtifacts := by
  cases h with
  | @removed names h =>
    obtain ⟨name, t, hlast⟩ := hstop
    obtain ⟨n, -, hn⟩ := List.mem_map.1 (List.mem_of_getLast? hlast)
    cases hn
  | @written names id written h =>
    rw [Writable.after_eq, (getLast?_writing _ _ _ _).1 hstop]
    refine ⟨⟨p.fileName id, ⟨[], now⟩, AList.lookup_insert _, rfl⟩, ?_⟩
    rw [h.keys_insert]
    exact h.room
  | undone h =>
    obtain ⟨name, t, hlast⟩ := hstop
    simp at hlast

/-- What an operation does not unlink it leaves as it was. -/
theorem Taken.kept {steps : List Step} (h : Taken p now dir steps) {name : List Char} {file : File}
    (hlookup : dir.lookup name = some file) (hkept : .unlink name ∉ steps) :
    (after dir steps).lookup name = some file := by
  have hrest {names : List (List Char)} (hnames : .unlink name ∉ unlinking names) :
      (after dir (unlinking names)).lookup name = some file := by
    rw [unlinking, after_unlink_of_notMem fun hmem => hnames (List.mem_map_of_mem hmem)]
    exact hlookup
  have hother {names : List (List Char)} {id : Uuid4} {written : List Bytes}
      (h : Writable p dir names id written) (hnames : .unlink name ∉ unlinking names) :
      name ≠ p.fileName id := by
    intro heq
    have hin := AList.lookup_isSome.1 (Option.isSome_of_mem (hrest hnames))
    exact h.fresh (heq ▸ hin)
  cases h with
  | removed h => exact hrest hkept
  | written h =>
    have hnames := fun hmem => hkept (List.mem_append_left _ hmem)
    rw [Writable.after_eq, AList.lookup_insert_ne (hother h hnames)]
    exact hrest hnames
  | @undone names id written h =>
    have hnames := fun hmem => hkept (List.mem_append_left _ (List.mem_append_left _ hmem))
    rw [after_append, Writable.after_eq]
    show (((after dir (unlinking names)).insert (p.fileName id)
      ⟨written.flatten, now⟩).erase (p.fileName id)).lookup name = some file
    rw [AList.lookup_erase_ne (hother h hnames), AList.lookup_insert_ne (hother h hnames)]
    exact hrest hnames

/-! ## Operations -/

variable (sha256) in
theorem govern_removable (h : Sound p now dir) (free : Nat → Nat)
    (references : List LocalArtifactRef) (reserveArtifacts reserveBytes : Nat) :
    ∃ names, Removable dir names ∧
      (govern p sha256 now free references reserveArtifacts reserveBytes dir).1 = unlinking names ∧
      ∀ result, (govern p sha256 now free references reserveArtifacts reserveBytes dir).2 = some result →
        dir.keys.length - names.length + reserveArtifacts ≤ p.maximumArtifacts := by
  obtain ⟨ids, hnodup, hmem, hsteps, hroom⟩ :=
    @govern_spec p sha256 now dir h free references reserveArtifacts reserveBytes
  refine ⟨ids.map p.fileName, ⟨hnodup.map fun a b => fileName_injective, ?_⟩, ?_, ?_⟩
  · intro name hname
    obtain ⟨id, hid, rfl⟩ := List.mem_map.1 hname
    exact hmem id hid
  · rw [hsteps, unlinking, List.map_map]
    rfl
  · intro result hresult
    have := hroom result hresult
    simp only [underPressure, decide_eq_false_iff_not, not_or, not_lt, List.length_map] at this ⊢
    exact this.1

/-- Without an inventory nothing is done. -/
theorem govern_blocked (h : inventoryEntries p dir = none) (now : Nat) (free : Nat → Nat)
    (references : List LocalArtifactRef) (reserveArtifacts reserveBytes : Nat) :
    govern p sha256 now free references reserveArtifacts reserveBytes dir = ([], none) := by
  simp [govern, h]

theorem captureGenerated_blocked (h : inventoryEntries p dir = none) (now : Nat) (free : Nat → Nat)
    (id : Uuid) (payload : Bytes) (references : List LocalArtifactRef) (w : WriteOutcome) :
    captureGenerated p sha256 now free id payload references w dir = ([], none) := by
  unfold captureGenerated
  cases usableIdentifier id with
  | none => rfl
  | some artifactId =>
    simp only [govern_blocked h]
    split <;> rfl

/-- The pieces of a payload, up to some of them, may be written. -/
theorem writable_pieces {names : List (List Char)} {id : Uuid4} {payload : Bytes}
    (h : Removable dir names) (hroom : dir.keys.length - names.length + 1 ≤ p.maximumArtifacts)
    (hfresh : p.fileName id ∉ after dir (unlinking names))
    (hsize : payload.length ≤ p.maximumBytes) (sizes : List Nat) :
    Writable p dir names id (pieces payload sizes) where
  toRemovable := h
  room := hroom
  fresh := hfresh
  pieces := (pieces_flatten payload sizes).2
  size := by rwa [(pieces_flatten payload sizes).1]

/-- A write leaves what may be left, and one that goes through leaves its payload. -/
theorem writeExclusive_spec (now : Nat) (id : Uuid4) {names : List (List Char)} {payload : Bytes}
    (h : Removable dir names) (hroom : dir.keys.length - names.length + 1 ≤ p.maximumArtifacts)
    (hsize : payload.length ≤ p.maximumBytes) (w : WriteOutcome) :
    let written := writeExclusive now (p.fileName id) payload w (after dir (unlinking names))
    Taken p now dir (unlinking names ++ written.1) ∧
      (written.2 = true → after dir (unlinking names ++ written.1) =
        (after dir (unlinking names)).insert (p.fileName id) ⟨payload, now⟩) := by
  unfold writeExclusive
  by_cases hfresh : p.fileName id ∈ after dir (unlinking names)
  · rw [if_pos hfresh]
    refine ⟨?_, nofun⟩
    rw [List.append_nil]
    exact .removed h
  · rw [if_neg hfresh]
    have hwritable := writable_pieces h hroom hfresh hsize w.sizes
    cases w.fails with
    | none =>
      refine ⟨.written hwritable, fun _ => ?_⟩
      have hflatten := (pieces_flatten payload w.sizes).1
      exact (Writable.after_eq now).trans (by rw [hflatten])
    | some failure =>
      obtain ⟨n, unlinked⟩ := failure
      refine ⟨?_, nofun⟩
      simp only [← List.map_take]
      cases unlinked with
      | true =>
        rw [if_pos rfl, ← List.append_assoc]
        exact .undone (hwritable.take n)
      | false =>
        rw [if_neg (by decide), List.append_nil]
        exact .written (hwritable.take n)

theorem readStable_insert (name : List Char) {payload : Bytes} (h1 : 1 ≤ payload.length)
    (h2 : payload.length ≤ p.maximumBytes) :
    readStable p (dir.insert name ⟨payload, now⟩) name = some payload := by
  simp [readStable, validPrivateFile, h1, h2]

/-- A write that goes through makes a capture that returns a reference to its payload. -/
theorem captureGenerated_written {free : Nat → Nat} {id : Uuid4} {payload : Bytes}
    {references : List LocalArtifactRef} {w : WriteOutcome} {governed written : List Step}
    {result : LocalArtifactCleanupResult} (h1 : 1 ≤ payload.length)
    (h2 : payload.length ≤ p.maximumBytes)
    (hgovern : govern p sha256 now free references 1 payload.length dir = (governed, some result))
    (hwrite : writeExclusive now (p.fileName id) payload w (after dir governed) = (written, true))
    (hafter : after dir (governed ++ written) =
      (after dir governed).insert (p.fileName id) ⟨payload, now⟩) :
    captureGenerated p sha256 now free id payload references w dir =
      (governed ++ written, reference p sha256 id payload) := by
  have hid : usableIdentifier id = some id := by simp [usableIdentifier, id.2]
  simp [captureGenerated, hid, h1, h2, hgovern, hwrite, hafter, readStable_insert]

/-- A capture leaves what may be left, and what it returns is stored. -/
theorem captureGenerated_spec (h : Sound p now dir) (free : Nat → Nat) (id : Uuid) (payload : Bytes)
    (references : List LocalArtifactRef) (w : WriteOutcome) :
    let call := captureGenerated p sha256 now free id payload references w dir
    Taken p now dir call.1 ∧
      ∀ r, call.2 = some r → reference p sha256 r.artifactId payload = some r ∧
        (after dir call.1).lookup (p.fileName r.artifactId) = some ⟨payload, now⟩ := by
  have hnothing : Taken p now dir (unlinking []) := .removed ⟨List.nodup_nil, nofun⟩
  by_cases husable : ∃ artifactId : Uuid4, artifactId.1 = id
  swap
  · have hid : usableIdentifier id = none := dif_neg fun hid => husable ⟨⟨id, hid⟩, rfl⟩
    simp only [captureGenerated, hid]
    exact ⟨hnothing, nofun⟩
  obtain ⟨artifactId, rfl⟩ := husable
  have hid : usableIdentifier artifactId = some artifactId := by
    simp [usableIdentifier, artifactId.2]
  by_cases hsize : 1 ≤ payload.length ∧ payload.length ≤ p.maximumBytes
  swap
  · simp only [captureGenerated, hid, hsize, not_false_eq_true, if_true]
    exact ⟨hnothing, nofun⟩
  obtain ⟨names, hremovable, hsteps, hroom⟩ :=
    govern_removable sha256 h free references 1 payload.length
  cases hgovern : govern p sha256 now free references 1 payload.length dir with
  | mk governed result =>
    rw [hgovern] at hsteps hroom
    change governed = unlinking names at hsteps
    subst hsteps
    cases result with
    | none =>
      simp only [captureGenerated, hid, hsize, and_self, not_true_eq_false, if_false, hgovern]
      exact ⟨.removed hremovable, nofun⟩
    | some result =>
      obtain ⟨htaken, hafter⟩ := writeExclusive_spec now artifactId hremovable
        (hroom result rfl) hsize.2 w
      cases hwrite : writeExclusive now (p.fileName artifactId) payload w
          (after dir (unlinking names)) with
      | mk written went =>
        rw [hwrite] at htaken hafter
        cases went with
        | false =>
          simp only [captureGenerated, hid, hsize, and_self, not_true_eq_false, if_false, hgovern,
            hwrite]
          exact ⟨htaken, nofun⟩
        | true =>
          have hcall := captureGenerated_written hsize.1 hsize.2 hgovern hwrite (hafter rfl)
          simp only [hcall]
          refine ⟨htaken, fun r hr => ?_⟩
          obtain ⟨hsame, -⟩ := reference_fields hr
          rw [hsame, hafter rfl, AList.lookup_insert]
          exact ⟨hr, rfl⟩

/-- A capture succeeds when there is room beside the artifacts that must stay. -/
theorem captureGenerated_isSome (h : Sound p now dir) {free : Nat → Nat} {id : Uuid4}
    {payload : Bytes} {references : List LocalArtifactRef} {sizes : List Nat}
    (hfresh : p.fileName id ∉ dir) (h1 : 1 ≤ payload.length) (h2 : payload.length ≤ p.maximumBytes)
    (hdistinct : (references.map (·.artifactId)).Nodup)
    (hread : ∀ r ∈ references, ∃ payload, readReference p sha256 dir r = some payload)
    (hroom : underPressure p free 1 payload.length references.length = false) :
    ∃ r, (captureGenerated p sha256 now free id payload references ⟨sizes, none⟩ dir).2 = some r := by
  have hfew : references.length ≤ p.maximumArtifacts := by
    simp only [underPressure, decide_eq_false_iff_not, not_or, not_lt] at hroom
    omega
  obtain ⟨result, hresult⟩ := govern_isSome h hdistinct hfew hread hroom
  obtain ⟨names, hremovable, hsteps, hcount⟩ :=
    govern_removable sha256 h free references 1 payload.length
  have hgovern : govern p sha256 now free references 1 payload.length dir =
      (unlinking names, some result) := Prod.ext hsteps hresult
  have hfresh' : p.fileName id ∉ after dir (unlinking names) := by
    rw [← AList.lookup_eq_none] at hfresh ⊢
    by_contra hne
    obtain ⟨file, hfile⟩ := Option.ne_none_iff_exists'.1 hne
    rw [lookup_of_after_unlink hfile] at hfresh
    cases hfresh
  have hwrite : writeExclusive now (p.fileName id) payload ⟨sizes, none⟩ (after dir (unlinking names))
      = (writing (p.fileName id) now (pieces payload sizes), true) := if_neg hfresh'
  have hafter : after dir (unlinking names ++ writing (p.fileName id) now (pieces payload sizes)) =
      (after dir (unlinking names)).insert (p.fileName id) ⟨payload, now⟩ := by
    rw [Writable.after_eq, (pieces_flatten payload sizes).1]
  obtain ⟨r, hr⟩ := @reference_isSome p sha256 id payload h1 h2
  exact ⟨r, by rw [captureGenerated_written h1 h2 hgovern hwrite hafter, hr]⟩

/-! ## What is stored can be read -/

variable (p sha256) in
/-- The directory has the payload that a reference stands for. -/
structure Stored (dir : Directory) (r : LocalArtifactRef) (payload : Bytes) : Prop where
  reference : reference p sha256 r.artifactId payload = some r
  file : ∃ t, dir.lookup (p.fileName r.artifactId) = some ⟨payload, t⟩

section

variable {r : LocalArtifactRef} {payload : Bytes} (hsound : Sound p now dir)
  (h : Stored p sha256 dir r payload)

include hsound h

theorem Stored.readStable : readStable p dir (p.fileName r.artifactId) = some payload := by
  obtain ⟨t, hfile⟩ := h.file
  have hvalid := (hsound.files _ _ hfile).2.1
  simp [LocalArtifacts.readStable, hfile, hvalid]

theorem Stored.readReference : readReference p sha256 dir r = some payload := by
  obtain ⟨t, hfile⟩ := h.file
  obtain ⟨-, hmedia, hsize, hpath⟩ := reference_fields h.reference
  have hvalid := (hsound.files _ _ hfile).2.1
  simp only [validPrivateFile, decide_eq_true_eq] at hvalid
  have hread := h.readStable hsound
  unfold LocalArtifacts.readReference
  rw [if_neg (by simp only [hmedia, hpath, hsize, ne_eq, not_true_eq_false, false_or]; omega), hread]
  simp [h.reference]

theorem Stored.resolve : resolve p sha256 dir r.artifactId = some r := by
  obtain ⟨entries, hentries, -⟩ := inventoryEntries_sound hsound
  simp [LocalArtifacts.resolve, hentries, h.readStable hsound, h.reference]

theorem Stored.read : read p sha256 dir r = some payload := by
  obtain ⟨entries, hentries, -⟩ := inventoryEntries_sound hsound
  simp [LocalArtifacts.read, hentries, h.readReference hsound]

theorem Stored.listed : ∃ references, listReferences p sha256 dir = some references ∧ r ∈ references := by
  obtain ⟨entries, hentries, hlookup, hperm⟩ := inventoryEntries_sound hsound
  have hread : ∀ e ∈ entries, ∃ r, (do
      let payload ← LocalArtifacts.readStable p dir (p.fileName e.artifactId)
      LocalArtifacts.reference p sha256 e.artifactId payload) = some r := by
    intro e he
    have hfile := hlookup e he
    have hvalid := (hsound.files _ _ hfile).2.1
    have hsizes := of_decide_eq_true hvalid
    obtain ⟨r, hr⟩ := @reference_isSome p sha256 e.artifactId e.file.bytes hsizes.1 hsizes.2
    exact ⟨r, by simp [LocalArtifacts.readStable, hfile, hvalid, hr]⟩
  obtain ⟨references, hreferences⟩ := exists_mapM hread
  refine ⟨references, by unfold listReferences; rw [hentries]; exact hreferences, ?_⟩
  obtain ⟨t, hfile⟩ := h.file
  have hkey : p.fileName r.artifactId ∈ dir.keys := by
    rw [← AList.mem_keys, ← AList.lookup_isSome, hfile]
    rfl
  obtain ⟨e, he, hid⟩ := List.mem_map.1 (hperm.mem_iff.2 hkey)
  have hid := fileName_injective hid
  obtain ⟨r', hr', hread'⟩ := forall₂_mem_right (mapM_eq_some.1 hreferences).flip he
  rw [hid, h.readStable hsound] at hread'
  have hsame : r = r' := Option.some.inj (h.reference.symm.trans hread')
  exact hsame ▸ hr'

end

end AutomationTool.Executor.LocalArtifacts
