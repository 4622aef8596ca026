import AutomationTool.Executor.LocalArtifact

/-!
# The inventory of an artifact store

* `inventoryEntries_sound`: the inventory of a directory of finished artifacts
  lists its files; `inventoryEntries_unfinished`: with one file without a byte
  there is none.
* `govern_spec`: governance removes distinct artifacts, and when it goes through
  there is no pressure left.
* `govern_isSome`: it goes through when what it may not remove leaves room.
-/
namespace AutomationTool.Executor.LocalArtifacts

open Editing (Uuid sha256Pattern)
open EditingWorker (Uuid4)
open MaterialPaths (usableIdentifier version_lt)

variable {p : LocalArtifactPolicy} {sha256 : Bytes → {d : List Char // sha256Pattern d = true}}

/-! ## Names and references -/

theorem artifactIdFromName_fileName (id : Uuid4) :
    artifactIdFromName (p.fileName id) p.fileExtension = some id := by
  have hsuffix : (p.fileName id).dropSuffix? ('.' :: p.fileExtension) = some (Hex.hyphenated id) :=
    List.dropSuffix?_eq_some_iff.2 ⟨_, rfl, BEq.rfl⟩
  have hread := Hex.ofHyphenated_hyphenated (version_lt id.2)
  simp [artifactIdFromName, hsuffix, hread, id.2]

theorem fileName_injective {a b : Uuid4} (h : p.fileName a = p.fileName b) : a = b := by
  have ha := artifactIdFromName_fileName (p := p) a
  rw [h, artifactIdFromName_fileName] at ha
  exact (Option.some.inj ha).symm

theorem length_hyphenated (n : Nat) : (Hex.hyphenated n).length = 36 := by
  have h := Hex.length_digits 32 n
  simp [Hex.hyphenated, Hex.groups, List.intercalate, h]

theorem token_length {rest : Nat} {more : Char → Bool} {value : List Char}
    (h : token rest more value = true) : value.length ≤ rest + 1 := by
  cases value with
  | nil => cases h
  | cons c cs =>
    simp only [token, Bool.and_eq_true, decide_eq_true_eq] at h
    rw [List.length_cons]
    omega

/-- A policy's paths are ones a reference may have. -/
theorem relativePath_valid (id : Uuid4) :
    validArtifactRelativePath (p.relativePath id) id = true := by
  have hdirectory := p.directory
  simp only [validRelativeDirectory, decide_eq_true_eq] at hdirectory
  have hextension : p.fileExtension.length ≤ 16 := token_length p.extension
  have hname : (p.fileName id).length = 37 + p.fileExtension.length := by
    simp [LocalArtifactPolicy.fileName, length_hyphenated]
    omega
  have hlength : pathLength (p.relativePath id) ≤ maxRelativePathBytes := by
    have hpath := hdirectory.1
    simp only [pathLength, LocalArtifactPolicy.relativePath, List.map_append, List.sum_append,
      List.length_append, List.map_cons, List.map_nil, List.sum_cons, List.sum_nil, hname,
      List.length_singleton, maxRelativePathBytes] at hpath ⊢
    omega
  have hdrop : (p.fileName id).dropPrefix? (Hex.hyphenated id ++ ['.']) = some p.fileExtension :=
    List.dropPrefix?_eq_some_iff.2 ⟨Hex.hyphenated id ++ ['.'], by simp [LocalArtifactPolicy.fileName], BEq.rfl⟩
  have hparts : 2 ≤ (p.relativePath id).length := by
    have := hdirectory.2.1
    simp only [LocalArtifactPolicy.relativePath, List.length_append, List.length_singleton]
    omega
  unfold validArtifactRelativePath
  rw [decide_eq_true hlength, decide_eq_true hparts]
  simp only [LocalArtifactPolicy.relativePath, List.dropLast_concat, p.directory,
    List.getLast?_concat, Option.any_some, hdrop, p.extension, Bool.and_self]

theorem reference_isSome (id : Uuid4) {payload : Bytes} (h1 : 1 ≤ payload.length)
    (h2 : payload.length ≤ p.maximumBytes) : ∃ r, reference p sha256 id payload = some r := by
  unfold reference
  rw [dif_pos ⟨⟨h1, h2.trans p.bytes.2⟩, relativePath_valid id⟩]
  exact ⟨_, rfl⟩

theorem reference_fields {id : Uuid4} {payload : Bytes} {r : LocalArtifactRef}
    (h : reference p sha256 id payload = some r) :
    r.artifactId = id ∧ r.mediaType = p.mediaType ∧ r.sizeBytes = payload.length ∧
      r.relativePath = p.relativePath id := by
  unfold reference at h
  simp only at h
  split at h
  · cases h
    exact ⟨rfl, rfl, rfl, rfl⟩
  · cases h

/-! ## The inventory -/

variable (p) in
/-- Every file of the directory is a finished artifact of the policy from before `now`, and there
are not too many. -/
structure Sound (now : Nat) (dir : Directory) : Prop where
  files : ∀ name file, dir.lookup name = some file →
    (∃ id, name = p.fileName id) ∧ validPrivateFile p.maximumBytes file ∧ file.modifiedNs ≤ now
  few : dir.keys.length ≤ p.maximumArtifacts

theorem Sound.mono {now later : Nat} {dir : Directory} (h : Sound p now dir) (hle : now ≤ later) :
    Sound p later dir where
  files name file hlookup :=
    have ⟨hname, hvalid, hmodified⟩ := h.files name file hlookup
    ⟨hname, hvalid, hmodified.trans hle⟩
  few := h.few

/-- A file without a byte. -/
def Unfinished (dir : Directory) : Prop :=
  ∃ name file, dir.lookup name = some file ∧ file.bytes = []

variable (p) in
/-- What the inventory reads of one file. -/
def readEntry (e : Sigma fun _ : List Char => File) : Option Entry := do
  let artifactId ← artifactIdFromName e.1 p.fileExtension
  if validPrivateFile p.maximumBytes e.2 then some (⟨artifactId, e.2⟩ : Entry) else none

theorem inventoryEntries_eq (dir : Directory) :
    inventoryEntries p dir = (dir.entries.mapM (readEntry p)).bind fun entries =>
      if entries.length > p.maximumArtifacts then none
      else some (entries.insertionSort fun a b => a.artifactId.1 ≤ b.artifactId.1) := rfl

theorem readEntry_eq {id : Uuid4} {file : File} (h : validPrivateFile p.maximumBytes file = true) :
    readEntry p ⟨p.fileName id, file⟩ = some ⟨id, file⟩ := by
  simp [readEntry, artifactIdFromName_fileName, h]

theorem inventoryEntries_sound {now : Nat} {dir : Directory} (h : Sound p now dir) :
    ∃ entries, inventoryEntries p dir = some entries ∧
      (∀ e ∈ entries, dir.lookup (p.fileName e.artifactId) = some e.file) ∧
      (entries.map fun e => p.fileName e.artifactId).Perm dir.keys := by
  have hread : ∀ e ∈ dir.entries, ∃ entry, readEntry p e = some entry ∧
      e = ⟨p.fileName entry.artifactId, entry.file⟩ := by
    rintro ⟨name, file⟩ he
    obtain ⟨⟨id, hname⟩, hvalid, -⟩ := h.files name file (AList.mem_lookup_iff.2 he)
    cases hname
    exact ⟨⟨id, file⟩, readEntry_eq hvalid, rfl⟩
  obtain ⟨entries, hentries⟩ := exists_mapM fun e he => (hread e he).imp fun _ h => h.1
  have hpairs : List.Forall₂ (fun e entry => e = ⟨p.fileName entry.artifactId, entry.file⟩)
      dir.entries entries := by
    refine List.Forall₂.imp ?_
      ((List.forall₂_and_left dir.entries entries).2 ⟨hread, mapM_eq_some.1 hentries⟩)
    rintro e entry ⟨⟨entry', hentry', heq⟩, hentry⟩
    rw [hentry'] at hentry
    cases hentry
    exact heq
  have hnames : entries.map (fun e => p.fileName e.artifactId) = dir.keys :=
    map_eq_of_forall₂ hpairs fun e entry heq => by rw [heq]
  have hfew : ¬entries.length > p.maximumArtifacts := by
    have := h.few
    rw [← hnames, List.length_map] at this
    omega
  refine ⟨entries.insertionSort fun a b => a.artifactId.1 ≤ b.artifactId.1, ?_, ?_, ?_⟩
  · rw [inventoryEntries_eq, hentries]
    exact if_neg hfew
  · intro e he
    obtain ⟨e', he', heq⟩ := forall₂_mem_right hpairs ((List.mem_insertionSort _).1 he)
    exact AList.mem_lookup_iff.2 (heq ▸ he')
  · rw [← hnames]
    exact (List.perm_insertionSort _ entries).map _

theorem inventoryEntries_unfinished {dir : Directory} (h : Unfinished dir) :
    inventoryEntries p dir = none := by
  obtain ⟨name, file, hlookup, hbytes⟩ := h
  have hnone : readEntry p ⟨name, file⟩ = none := by
    have hinvalid : validPrivateFile p.maximumBytes file = false := by
      simp [validPrivateFile, hbytes]
    simp [readEntry, hinvalid]
  rw [inventoryEntries_eq]
  cases hentries : dir.entries.mapM (readEntry p) with
  | none => rfl
  | some entries =>
    obtain ⟨entry, -, hentry⟩ :=
      forall₂_mem_right (mapM_eq_some.1 hentries).flip (AList.mem_lookup_iff.1 hlookup)
    rw [hnone] at hentry
    cases hentry

/-! ## Governance -/

section

variable (free : Nat → Nat) (reserveArtifacts reserveBytes : Nat)

theorem relieve_spec (n : Nat) (candidates : List Entry) :
    (relieve p free reserveArtifacts reserveBytes n candidates).1 <+: candidates ∧
      ∀ m, (relieve p free reserveArtifacts reserveBytes n candidates).2 = some m →
        m = n - (relieve p free reserveArtifacts reserveBytes n candidates).1.length ∧
          underPressure p free reserveArtifacts reserveBytes m = false := by
  induction candidates generalizing n with
  | nil =>
    refine ⟨List.nil_prefix, fun m hm => ?_⟩
    cases hpressure : underPressure p free reserveArtifacts reserveBytes n with
    | true => simp [relieve, hpressure] at hm
    | false =>
      simp only [relieve, hpressure, Bool.false_eq_true, if_false, Option.some.injEq] at hm
      subst hm
      exact ⟨rfl, hpressure⟩
  | cons candidate candidates ih =>
    cases hpressure : underPressure p free reserveArtifacts reserveBytes n with
    | true =>
      obtain ⟨hfirst, hremaining⟩ := ih (n - 1)
      simp only [relieve, hpressure, if_true]
      refine ⟨List.cons_prefix_cons.2 ⟨rfl, hfirst⟩, fun m hm => ?_⟩
      obtain ⟨hcount, hfree⟩ := hremaining m hm
      refine ⟨?_, hfree⟩
      rw [List.length_cons]
      omega
    | false =>
      simp only [relieve, hpressure, Bool.false_eq_true, if_false]
      refine ⟨List.nil_prefix, fun m hm => ?_⟩
      cases hm
      exact ⟨rfl, hpressure⟩

/-- Removing every candidate is enough, so some of them are. -/
theorem relieve_isSome (n : Nat) (candidates : List Entry)
    (h : underPressure p free reserveArtifacts reserveBytes (n - candidates.length) = false) :
    ∃ m, (relieve p free reserveArtifacts reserveBytes n candidates).2 = some m := by
  induction candidates generalizing n with
  | nil => exact ⟨n, by simpa [relieve] using h⟩
  | cons candidate candidates ih =>
    cases hpressure : underPressure p free reserveArtifacts reserveBytes n with
    | true =>
      rw [List.length_cons] at h
      obtain ⟨m, hm⟩ := ih (n - 1) (by rw [Nat.sub_sub, Nat.add_comm 1]; exact h)
      exact ⟨m, by simp only [relieve, hpressure, if_true, hm]⟩
    | false => exact ⟨n, by simp [relieve, hpressure]⟩

end

/-- Elements that meet a condition and a prefix of the others are elements, in another order. -/
theorem filter_append_prefix {α : Type} {all taken others : List α} {f : α → Bool}
    (hall : all.Subperm others) (htaken : taken <+: all.filter (!f ·)) :
    (all.filter f ++ taken).Subperm others :=
  ((htaken.sublist.append_left _).subperm.trans (List.filter_append_perm f all).subperm).trans hall

theorem entries_nodup {entries : List Entry} {dir : Directory}
    (h : (entries.map fun e => p.fileName e.artifactId).Perm dir.keys) :
    (entries.map (·.artifactId)).Nodup := by
  have hkeys : ((entries.map (·.artifactId)).map p.fileName).Nodup := by
    rw [List.map_map]
    exact h.nodup_iff.2 dir.keys_nodup
  exact hkeys.of_map _

/-- What is removed are distinct artifacts, and governance that goes through has left no pressure. -/
theorem govern_spec {now : Nat} {dir : Directory} (h : Sound p now dir) (free : Nat → Nat)
    (references : List LocalArtifactRef) (reserveArtifacts reserveBytes : Nat) :
    ∃ ids : List Uuid4, ids.Nodup ∧ (∀ id ∈ ids, p.fileName id ∈ dir) ∧
      (govern p sha256 now free references reserveArtifacts reserveBytes dir).1 =
        ids.map (fun id => .unlink (p.fileName id)) ∧
      ∀ result, (govern p sha256 now free references reserveArtifacts reserveBytes dir).2 = some result →
        underPressure p free reserveArtifacts reserveBytes (dir.keys.length - ids.length) = false := by
  obtain ⟨entries, hentries, hlookup, hperm⟩ := inventoryEntries_sound h
  have hnothing : ∃ ids : List Uuid4, ids.Nodup ∧ (∀ id ∈ ids, p.fileName id ∈ dir) ∧
      ([] : List Step) = ids.map (fun id => .unlink (p.fileName id)) ∧
      ∀ result, (none : Option LocalArtifactCleanupResult) = some result →
        underPressure p free reserveArtifacts reserveBytes (dir.keys.length - ids.length) = false :=
    ⟨[], List.nodup_nil, nofun, rfl, nofun⟩
  unfold govern
  rw [hentries]
  simp only
  split
  · exact hnothing
  · cases protectedIds p sha256 dir references with
    | none => exact hnothing
    | some found =>
      let isExpired (e : Entry) : Bool := now - e.file.modifiedNs ≥ p.retentionSeconds * 1000000000
      let unprotected := (entries.insertionSort cleanupOrder).filter (·.artifactId ∉ found)
      let expired := unprotected.filter isExpired
      let candidates := unprotected.filter (!isExpired ·)
      let relieved :=
        relieve p free reserveArtifacts reserveBytes (entries.length - expired.length) candidates
      obtain ⟨hfirst, hremaining⟩ := relieve_spec (p := p) free reserveArtifacts reserveBytes
        (entries.length - expired.length) candidates
      have hsub : (expired ++ relieved.1).Subperm entries :=
        filter_append_prefix (List.filter_sublist.subperm.trans
          (List.perm_insertionSort cleanupOrder entries).subperm) hfirst
      obtain ⟨same, hsame, hsublist⟩ := hsub
      refine ⟨(expired ++ relieved.1).map (·.artifactId), (hsame.map _).nodup_iff.1
        ((entries_nodup hperm).sublist (hsublist.map _)), ?_, ?_, ?_⟩
      · intro id hid
        obtain ⟨e, he, rfl⟩ := List.mem_map.1 hid
        rw [← AList.lookup_isSome, hlookup e (hsublist.subset (hsame.mem_iff.2 he))]
        rfl
      · rw [List.map_map]
        rfl
      · intro result hresult
        obtain ⟨n, hn, -⟩ := Option.map_eq_some_iff.1 hresult
        obtain ⟨hcount, hfree⟩ := hremaining n hn
        have hlength := hperm.length_eq
        rw [List.length_map] at hlength
        rw [← hlength, List.length_map, List.length_append, Nat.sub_add_eq, ← hcount]
        exact hfree

/-- References that are stored protect their identifiers. -/
theorem foldlM_protected {dir : Directory} {references : List LocalArtifactRef} {found : List Uuid4}
    (hdistinct : (references.map (·.artifactId)).Nodup)
    (hfresh : ∀ r ∈ references, r.artifactId ∉ found)
    (hread : ∀ r ∈ references, ∃ payload, readReference p sha256 dir r = some payload) :
    references.foldlM (fun found r =>
      if r.artifactId ∈ found then none
      else (readReference p sha256 dir r).map fun _ => r.artifactId :: found) found =
        some ((references.map (·.artifactId)).reverse ++ found) := by
  induction references generalizing found with
  | nil => rfl
  | cons r references ih =>
    rw [List.map_cons, List.nodup_cons] at hdistinct
    obtain ⟨payload, hpayload⟩ := hread r List.mem_cons_self
    have hrest : ∀ r' ∈ references, r'.artifactId ∉ r.artifactId :: found := by
      intro r' hr' hmem
      rcases List.mem_cons.1 hmem with heq | hmem
      · exact hdistinct.1 (heq ▸ List.mem_map_of_mem hr')
      · exact hfresh r' (List.mem_cons_of_mem _ hr') hmem
    rw [List.foldlM_cons, if_neg (hfresh r List.mem_cons_self), hpayload]
    have := ih hdistinct.2 hrest fun r' hr' => hread r' (List.mem_cons_of_mem _ hr')
    simpa using this

theorem mem_of_readReference {dir : Directory} {r : LocalArtifactRef}
    (h : ∃ payload, readReference p sha256 dir r = some payload) :
    p.fileName r.artifactId ∈ dir.keys := by
  obtain ⟨payload, hpayload⟩ := h
  unfold readReference at hpayload
  split at hpayload
  · cases hpayload
  · obtain ⟨stored, hstored, -⟩ := Option.bind_eq_some_iff.1 hpayload
    obtain ⟨file, hfile, -⟩ := Option.bind_eq_some_iff.1 hstored
    rw [← AList.mem_keys, ← AList.lookup_isSome, hfile]
    rfl

/-- Governance goes through when the artifacts that must stay leave room. -/
theorem govern_isSome {now : Nat} {dir : Directory} (h : Sound p now dir) {free : Nat → Nat}
    {references : List LocalArtifactRef} {reserveArtifacts reserveBytes : Nat}
    (hdistinct : (references.map (·.artifactId)).Nodup) (hfew : references.length ≤ p.maximumArtifacts)
    (hread : ∀ r ∈ references, ∃ payload, readReference p sha256 dir r = some payload)
    (hroom : underPressure p free reserveArtifacts reserveBytes references.length = false) :
    ∃ result, (govern p sha256 now free references reserveArtifacts reserveBytes dir).2 = some result := by
  obtain ⟨entries, hentries, hlookup, hperm⟩ := inventoryEntries_sound h
  have hfound : protectedIds p sha256 dir references =
      some ((references.map (·.artifactId)).reverse ++ []) := by
    rw [protectedIds, if_neg (by omega)]
    exact foldlM_protected hdistinct (fun _ _ => List.not_mem_nil) hread
  rw [List.append_nil] at hfound
  generalize hids : (references.map (·.artifactId)).reverse = found at hfound
  have hold : (entries.any fun e => e.file.modifiedNs > now) = false := by
    simp only [List.any_eq_false, decide_eq_true_eq]
    intro e he
    have := (h.files _ _ (hlookup e he)).2.2
    omega
  -- Of the entries, the protected ones are as many as the references.
  have hprotected : (entries.filter (·.artifactId ∈ found)).length = references.length := by
    have hsame : ((entries.filter (·.artifactId ∈ found)).map (·.artifactId)).Perm found := by
      refine (List.perm_ext_iff_of_nodup ((entries_nodup hperm).sublist (List.filter_sublist.map _))
        (hids ▸ List.nodup_reverse.2 hdistinct)).2 fun id => ⟨fun hid => ?_, fun hid => ?_⟩
      · obtain ⟨e, he, rfl⟩ := List.mem_map.1 hid
        exact of_decide_eq_true (List.mem_filter.1 he).2
      · have hmem : id ∈ references.map (·.artifactId) := List.mem_reverse.1 (hids ▸ hid)
        obtain ⟨r, hr, rfl⟩ := List.mem_map.1 hmem
        obtain ⟨e, he, hid'⟩ := List.mem_map.1 (hperm.mem_iff.2 (mem_of_readReference (hread r hr)))
        have heq := fileName_injective hid'
        exact List.mem_map.2 ⟨e, List.mem_filter.2 ⟨he, decide_eq_true (heq ▸ hid)⟩, heq⟩
    rw [← List.length_map (·.artifactId), hsame.length_eq, ← hids, List.length_reverse,
      List.length_map]
  unfold govern
  rw [hentries]
  simp only [hold, Bool.false_eq_true, if_false, hfound]
  let isExpired (e : Entry) : Bool := now - e.file.modifiedNs ≥ p.retentionSeconds * 1000000000
  let unprotected := (entries.insertionSort cleanupOrder).filter (·.artifactId ∉ found)
  have hunprotected : unprotected.length + references.length = entries.length := by
    have hsorted := ((List.perm_insertionSort cleanupOrder entries).filter
      fun e => decide (e.artifactId ∉ found)).length_eq
    have hsplit := List.length_eq_length_filter_add (l := entries) fun e => decide (e.artifactId ∈ found)
    simp only [← decide_not] at hsplit
    simp only [unprotected, hsorted]
    omega
  have hparts := List.length_eq_length_filter_add (l := unprotected) isExpired
  obtain ⟨n, hn⟩ := relieve_isSome (p := p) free reserveArtifacts reserveBytes
    (entries.length - (unprotected.filter isExpired).length) (unprotected.filter (!isExpired ·)) (by
      rw [show entries.length - (unprotected.filter isExpired).length -
        (unprotected.filter (!isExpired ·)).length = references.length by omega]
      exact hroom)
  exact ⟨_, Option.map_eq_some_iff.2 ⟨n, hn, rfl⟩⟩

end AutomationTool.Executor.LocalArtifacts
