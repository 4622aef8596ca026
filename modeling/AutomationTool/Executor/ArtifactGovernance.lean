import AutomationTool.Executor.ArtifactConduct

/-!
# The governance of an artifact store

`Governing.govern` is `_govern` loop by loop: it removes from the list of entries
it goes through, sorts what is left again for every candidate, and measures the
disk each time. `free` is what the disk has left with so much in the directory.

* `Governing.relieve_eq`: the loop that sorts again removes a prefix of the
  entries it could remove at first; so `Governing.govern_eq`: `_govern` does what
  `LocalArtifacts.govern` does, where that looks up what the disk has left by the
  number of entries.
* `Governing.govern_exact`: what a call that returns has removed.
-/
namespace AutomationTool.Executor.LocalArtifacts

open Editing (Uuid sha256Pattern)
open EditingWorker (Uuid4)

deriving instance DecidableEq for File
deriving instance DecidableEq for Entry

variable {p : LocalArtifactPolicy} {sha256 : Bytes → {d : List Char // sha256Pattern d = true}}

/-! ## The loops -/

/-- The variables of `_govern`, and the directory. -/
structure Governing where
  dir : Directory
  entries : List Entry
  removedArtifacts : Nat := 0
  removedBytes : Nat := 0

namespace Governing

local instance : LawfulBEq Uuid4 := inferInstance

section

variable (p sha256)

/-- mirrors local_artifact.py:345-350 -/
def remove (s : Governing) (entry : Entry) : Governing where
  dir := s.dir.erase (p.fileName entry.artifactId)
  entries := s.entries.erase entry
  removedArtifacts := s.removedArtifacts + 1
  removedBytes := s.removedBytes + entry.file.bytes.length

def isExpired (now : Nat) (entry : Entry) : Bool :=
  now - entry.file.modifiedNs ≥ p.retentionSeconds * 1000000000

/-- mirrors local_artifact.py:352-357 -/
def expire (now : Nat) (found : List Uuid4) (s : Governing) : Governing :=
  (s.entries.insertionSort cleanupOrder).foldl (fun s entry =>
    if entry.artifactId ∉ found ∧ isExpired p now entry then s.remove p entry else s) s

variable (free : Directory → Nat) (reserveArtifacts reserveBytes : Nat)

/-- mirrors local_artifact.py:409-419 -/
def underPressure (s : Governing) : Bool :=
  LocalArtifacts.underPressure p (fun _ => free s.dir) reserveArtifacts reserveBytes s.entries.length

/-- The entries that are left, with whether there is no pressure any more.
mirrors local_artifact.py:359-370 -/
def relieve (found : List Uuid4) (s : Governing) : Governing × Bool :=
  if s.underPressure p free reserveArtifacts reserveBytes then
    match _h : (s.entries.insertionSort cleanupOrder).find? (·.artifactId ∉ found) with
    | none => (s, false)
    | some candidate => relieve found (s.remove p candidate)
  else (s, true)
termination_by s.entries.length
decreasing_by
  have hmem := (List.mem_insertionSort _).1 (List.mem_of_find?_eq_some _h)
  have hpos := List.length_pos_of_mem hmem
  simp only [remove, List.length_erase_of_mem hmem]
  omega

/-- mirrors local_artifact.py:316-381 -/
def govern (now : Nat) (references : List LocalArtifactRef) (dir : Directory) :
    Directory × Option LocalArtifactCleanupResult :=
  if ¬(reserveArtifacts ≤ 1 ∧ reserveBytes ≤ p.maximumBytes ∧
      (reserveArtifacts = 0 → reserveBytes = 0)) then
    (dir, none)
  else
    match inventoryEntries p dir with
    | none => (dir, none)
    | some entries =>
      if entries.any fun e => e.file.modifiedNs > now then (dir, none)
      else
        match protectedIds p sha256 dir references with
        | none => (dir, none)
        | some found =>
          let s : Governing := { dir, entries }
          match (s.expire p now found).relieve p free reserveArtifacts reserveBytes found with
          | (s, false) => (s.dir, none)
          | (s, true) =>
            if s.underPressure p free reserveArtifacts reserveBytes then (s.dir, none)
            else
              (s.dir, some
                { removedArtifacts := s.removedArtifacts
                  removedBytes := s.removedBytes
                  remainingArtifacts := s.entries.length })

end

/-! ## Removing -/

/-- The names of the files of some entries. -/
def names (p : LocalArtifactPolicy) (entries : List Entry) : List (List Char) :=
  entries.map fun e => p.fileName e.artifactId

@[simp] theorem names_append (entries more : List Entry) :
    names p (entries ++ more) = names p entries ++ names p more := List.map_append

/-- What is left when some entries have been removed one after the other. -/
theorem foldl_remove (gone : List Entry) (s : Governing) :
    gone.foldl (remove p) s =
      { dir := after s.dir (unlinking (names p gone))
        entries := s.entries.diff gone
        removedArtifacts := s.removedArtifacts + gone.length
        removedBytes := s.removedBytes + (gone.map (·.file.bytes.length)).sum } := by
  induction gone generalizing s with
  | nil => rfl
  | cons e gone ih =>
    rw [List.foldl_cons, ih]
    simp only [remove, List.diff_cons, List.length_cons, List.map_cons, List.sum_cons, mk.injEq]
    refine ⟨rfl, trivial, ?_, ?_⟩ <;> omega

theorem length_remove {gone : List Entry} {s : Governing} (h : gone.Subperm s.entries) :
    (gone.foldl (remove p) s).entries.length = s.entries.length - gone.length := by
  have hsplit := (List.subperm_append_diff_self_of_count_le (List.subperm_ext_iff.1 h)).length_eq
  rw [List.length_append] at hsplit
  rw [foldl_remove]
  exact Nat.eq_sub_of_add_eq' hsplit

theorem cleanupOrder_trans {a b c : Entry} (h1 : cleanupOrder a b) (h2 : cleanupOrder b c) :
    cleanupOrder a c := le_trans (α := ℕ ×ₗ ℕ) h1 h2

theorem cleanupOrder_total (a b : Entry) : cleanupOrder a b ∨ cleanupOrder b a :=
  le_total (α := ℕ ×ₗ ℕ) _ _

instance : IsTrans Entry cleanupOrder := ⟨fun _ _ _ => cleanupOrder_trans⟩
instance : Std.Total (α := Entry) cleanupOrder := ⟨cleanupOrder_total⟩

theorem artifactId_eq_of_cleanupOrder {a b : Entry} (h1 : cleanupOrder a b) (h2 : cleanupOrder b a) :
    a.artifactId = b.artifactId := by
  have heq := le_antisymm (α := ℕ ×ₗ ℕ) h1 h2
  exact Subtype.ext (congrArg (fun x : ℕ ×ₗ ℕ => (ofLex x).2) heq)

/-- Entries of distinct artifacts are sorted in one way, so that dropping some of them first is the
same as sorting first. -/
theorem insertionSort_filter {entries : List Entry} (h : (entries.map (·.artifactId)).Nodup)
    (f : Entry → Bool) :
    (entries.filter f).insertionSort cleanupOrder =
      (entries.insertionSort cleanupOrder).filter f := by
  have hperm : ((entries.filter f).insertionSort cleanupOrder).Perm
      ((entries.insertionSort cleanupOrder).filter f) :=
    (List.perm_insertionSort ..).trans ((List.perm_insertionSort ..).filter f).symm
  refine hperm.eq_of_pairwise (fun a b ha hb hab hba => ?_) (List.pairwise_insertionSort ..)
    ((List.pairwise_insertionSort ..).filter f)
  have ha := List.mem_of_mem_filter ((List.mem_insertionSort _).1 ha)
  have hb := (List.mem_insertionSort _).1 (List.mem_of_mem_filter hb)
  exact List.inj_on_of_nodup_map h ha hb (artifactId_eq_of_cleanupOrder hab hba)

/-! ## The loops remove prefixes -/

/-- The entries that the second loop may remove, oldest first. -/
def candidates (found : List Uuid4) (s : Governing) : List Entry :=
  (s.entries.insertionSort cleanupOrder).filter (·.artifactId ∉ found)

theorem candidates_subset {found : List Uuid4} {s : Governing} {e : Entry}
    (h : e ∈ s.candidates found) : e ∈ s.entries :=
  (List.mem_insertionSort _).1 (List.mem_of_mem_filter h)

/-- The candidates after some entries have been removed. -/
theorem candidates_remove {found : List Uuid4} {s : Governing}
    (h : (s.entries.map (·.artifactId)).Nodup) (gone : List Entry) :
    (gone.foldl (remove p) s).candidates found = (s.candidates found).filter (· ∉ gone) := by
  simp only [candidates, foldl_remove]
  rw [(List.Nodup.of_map _ h).sdiff_eq_filter, insertionSort_filter h, List.filter_filter,
    List.filter_filter]
  simp only [Bool.and_comm]

theorem entries_remove {s : Governing} (h : (s.entries.map (·.artifactId)).Nodup)
    (gone : List Entry) :
    ((gone.foldl (remove p) s).entries.map (·.artifactId)).Nodup := by
  rw [foldl_remove]
  exact h.sublist ((List.diff_sublist _ _).map _)

theorem candidates_nodup {found : List Uuid4} {s : Governing}
    (h : (s.entries.map (·.artifactId)).Nodup) : (s.candidates found).Nodup :=
  ((List.perm_insertionSort cleanupOrder s.entries).nodup_iff.2 (List.Nodup.of_map _ h)).filter _

/-- The candidates that the first loop removes. -/
def expiring (p : LocalArtifactPolicy) (now : Nat) (found : List Uuid4) (s : Governing) : List Entry :=
  (s.candidates found).filter (isExpired p now)

/-- The candidates that are left for the second loop. -/
def waiting (p : LocalArtifactPolicy) (now : Nat) (found : List Uuid4) (s : Governing) : List Entry :=
  (s.candidates found).filter (!isExpired p now ·)

theorem expire_eq (now : Nat) (found : List Uuid4) (s : Governing) :
    s.expire p now found = (s.expiring p now found).foldl (remove p) s := by
  rw [expiring, candidates, List.filter_filter, List.foldl_filter]
  simp only [expire, Bool.and_eq_true, decide_eq_true_eq, and_comm]

variable {free : Directory → Nat} {reserveArtifacts reserveBytes : Nat}

theorem relieve_unfold (found : List Uuid4) (s : Governing) :
    s.relieve p free reserveArtifacts reserveBytes found =
      if s.underPressure p free reserveArtifacts reserveBytes then
        match (s.candidates found).head? with
        | none => (s, false)
        | some candidate => (s.remove p candidate).relieve p free reserveArtifacts reserveBytes found
      else (s, true) := by
  rw [relieve, candidates, List.head?_filter]
  split
  · split <;> rename_i hfind <;> rw [hfind]
  · rfl

/-- The loop that goes through ends without pressure. -/
theorem relieve_room {found : List Uuid4} {s s' : Governing}
    (h : s.relieve p free reserveArtifacts reserveBytes found = (s', true)) :
    s'.underPressure p free reserveArtifacts reserveBytes = false := by
  induction s using relieve.induct p free reserveArtifacts reserveBytes found with
  | case1 s hpressure hfind =>
    rw [relieve_unfold, if_pos hpressure, candidates, List.head?_filter, hfind] at h
    cases h
  | case2 s hpressure candidate hfind ih =>
    rw [relieve_unfold, if_pos hpressure, candidates, List.head?_filter, hfind] at h
    exact ih h
  | case3 s hpressure =>
    rw [relieve_unfold, if_neg hpressure] at h
    cases h
    exact Bool.eq_false_of_not_eq_true hpressure

theorem underPressure_eq {s : Governing} {left : Nat → Nat}
    (h : left s.entries.length = free s.dir) :
    s.underPressure p free reserveArtifacts reserveBytes =
      LocalArtifacts.underPressure p left reserveArtifacts reserveBytes s.entries.length := by
  simp only [underPressure, LocalArtifacts.underPressure, h]

/-- The second loop removes candidates in the order they have at first. Of the disk only matters
what it has left after so many of them. -/
theorem relieve_eq {found : List Uuid4} {s : Governing}
    (h : (s.entries.map (·.artifactId)).Nodup) {waiting : List Entry}
    (hwaiting : s.candidates found = waiting) {left : Nat → Nat}
    (hleft : ∀ taken, taken <+: waiting →
      left (s.entries.length - taken.length) = free (taken.foldl (remove p) s).dir) :
    s.relieve p free reserveArtifacts reserveBytes found =
      let relieved :=
        LocalArtifacts.relieve p left reserveArtifacts reserveBytes s.entries.length waiting
      (relieved.1.foldl (remove p) s, relieved.2.isSome) := by
  have hfree := hleft [] List.nil_prefix
  rw [List.length_nil, Nat.sub_zero, List.foldl_nil] at hfree
  induction waiting generalizing s with
  | nil =>
    rw [relieve_unfold, underPressure_eq hfree, hwaiting]
    unfold LocalArtifacts.relieve
    split <;> rfl
  | cons candidate waiting ih =>
    rw [relieve_unfold, underPressure_eq hfree, hwaiting]
    unfold LocalArtifacts.relieve
    cases LocalArtifacts.underPressure p left reserveArtifacts reserveBytes s.entries.length with
    | false => rfl
    | true =>
      have hmem : candidate ∈ s.entries := candidates_subset (hwaiting ▸ List.mem_cons_self)
      have hnodup := @candidates_nodup found _ h
      rw [hwaiting, List.nodup_cons] at hnodup
      have hrest : (s.remove p candidate).candidates found = waiting := by
        have hremove := @candidates_remove p found _ h [candidate]
        rw [List.foldl_cons, List.foldl_nil, hwaiting] at hremove
        rw [hremove, List.filter_cons_of_neg (by simp), List.filter_eq_self]
        intro e he
        simp only [List.mem_singleton, decide_eq_true_eq]
        exact fun heq => hnodup.1 (heq ▸ he)
      have hlength : (s.remove p candidate).entries.length = s.entries.length - 1 :=
        List.length_erase_of_mem hmem
      have hleft' : ∀ taken, taken <+: waiting →
          left ((s.remove p candidate).entries.length - taken.length) =
            free (taken.foldl (remove p) (s.remove p candidate)).dir := by
        intro taken htaken
        have hsame := hleft (candidate :: taken) (List.cons_prefix_cons.2 ⟨rfl, htaken⟩)
        rw [List.length_cons, List.foldl_cons] at hsame
        rw [hlength, Nat.sub_sub, Nat.add_comm 1]
        exact hsame
      have hdistinct : ((s.remove p candidate).entries.map (·.artifactId)).Nodup :=
        entries_remove h [candidate]
      have hnext := ih hdistinct hrest hleft' (hleft' [] List.nil_prefix)
      rw [hlength] at hnext
      exact hnext

/-! ## What governance looks at -/

theorem fileName_of_artifactIdFromName {name : List Char} {id : Uuid4}
    (h : artifactIdFromName name p.fileExtension = some id) : name = p.fileName id := by
  obtain ⟨source, hsource, h⟩ := Option.bind_eq_some_iff.1 h
  obtain ⟨parsed, -, h⟩ := Option.bind_eq_some_iff.1 h
  obtain ⟨suffix, hname, hsuffix⟩ := List.dropSuffix?_eq_some_iff.1 hsource
  split at h
  · rename_i hparsed
    cases h
    rw [hname, LocalArtifactPolicy.fileName, hparsed.2, eq_of_beq hsuffix]
  · cases h

/-- A directory with an inventory, none of whose files is from later, has finished artifacts only. -/
theorem sound_of_inventoryEntries {now : Nat} {dir : Directory} {entries : List Entry}
    (h : inventoryEntries p dir = some entries)
    (hnow : (entries.any fun e => e.file.modifiedNs > now) = false) : Sound p now dir := by
  rw [inventoryEntries_eq] at h
  obtain ⟨read, hread, h⟩ := Option.bind_eq_some_iff.1 h
  split at h
  · cases h
  · rename_i hfew
    cases h
    have hpairs := mapM_eq_some.1 hread
    constructor
    · intro name file hlookup
      obtain ⟨entry, hmem, hentry⟩ := forall₂_mem_right hpairs.flip (AList.mem_lookup_iff.1 hlookup)
      obtain ⟨id, hid, hentry⟩ := Option.bind_eq_some_iff.1 hentry
      split at hentry
      · rename_i hvalid
        cases hentry
        have hold := List.any_eq_false.1 hnow ⟨id, file⟩ ((List.mem_insertionSort _).2 hmem)
        rw [decide_eq_true_eq, not_lt] at hold
        exact ⟨⟨id, fileName_of_artifactIdFromName hid⟩, hvalid, hold⟩
      · cases hentry
    · have hlength := hpairs.length_eq
      have hkeys : dir.keys.length = dir.entries.length := List.length_map _
      omega

theorem foldlM_found {dir : Directory} {references : List LocalArtifactRef}
    {before found : List Uuid4} (h : references.foldlM (fun found r =>
      if r.artifactId ∈ found then none
      else (readReference p sha256 dir r).map fun _ => r.artifactId :: found) before = some found) :
    (∀ id, id ∈ found ↔ id ∈ before ∨ ∃ r ∈ references, r.artifactId = id) ∧
      ∀ r ∈ references, p.fileName r.artifactId ∈ dir.keys := by
  induction references generalizing before with
  | nil =>
    cases h
    exact ⟨by simp, nofun⟩
  | cons r references ih =>
    rw [List.foldlM_cons] at h
    obtain ⟨next, hnext, h⟩ := Option.bind_eq_some_iff.1 h
    split at hnext
    · cases hnext
    · obtain ⟨payload, hpayload, rfl⟩ := Option.map_eq_some_iff.1 hnext
      obtain ⟨hfound, hstored⟩ := ih h
      refine ⟨fun id => ?_, ?_⟩
      · rw [hfound, List.mem_cons, List.exists_mem_cons_iff, eq_comm, or_assoc, or_left_comm]
      · rw [List.forall_mem_cons]
        exact ⟨mem_of_readReference ⟨payload, hpayload⟩, hstored⟩

/-- The identifiers found are those of the references, each of which is stored. -/
theorem protectedIds_spec {dir : Directory} {references : List LocalArtifactRef}
    {found : List Uuid4} (h : protectedIds p sha256 dir references = some found) :
    (∀ id, id ∈ found ↔ ∃ r ∈ references, r.artifactId = id) ∧
      ∀ r ∈ references, p.fileName r.artifactId ∈ dir.keys := by
  unfold protectedIds at h
  split at h
  · cases h
  · obtain ⟨hfound, hstored⟩ := foldlM_found h
    exact ⟨by simpa using hfound, hstored⟩

/-- While the loop goes on, there is pressure. -/
theorem relieve_pressed (left : Nat → Nat) (reserveArtifacts reserveBytes n : Nat)
    (waiting : List Entry) {shorter : List Entry}
    (h : shorter <+: (LocalArtifacts.relieve p left reserveArtifacts reserveBytes n waiting).1)
    (hne : shorter ≠ (LocalArtifacts.relieve p left reserveArtifacts reserveBytes n waiting).1) :
    LocalArtifacts.underPressure p left reserveArtifacts reserveBytes (n - shorter.length) = true := by
  induction waiting generalizing n shorter with
  | nil =>
    have hnil := List.prefix_nil.1 h
    exact absurd hnil hne
  | cons candidate waiting ih =>
    unfold LocalArtifacts.relieve at h hne
    cases hpressure : LocalArtifacts.underPressure p left reserveArtifacts reserveBytes n with
    | false =>
      rw [hpressure] at h hne
      exact absurd (List.prefix_nil.1 h) hne
    | true =>
      rw [hpressure] at h hne
      cases shorter with
      | nil => exact hpressure
      | cons first shorter =>
        obtain ⟨rfl, hrest⟩ := List.cons_prefix_cons.1 h
        have hne' := fun heq => hne (congrArg (first :: ·) heq)
        have hnext := ih (n - 1) hrest hne'
        rw [List.length_cons, Nat.add_comm, ← Nat.sub_sub]
        exact hnext

/-! ## The call -/

/-- A call that returns has gone through its loops. -/
theorem govern_loops {now : Nat} {references : List LocalArtifactRef} {dir dir' : Directory}
    {result : LocalArtifactCleanupResult}
    (h : govern p sha256 free reserveArtifacts reserveBytes now references dir = (dir', some result)) :
    ∃ entries found s, inventoryEntries p dir = some entries ∧
      (entries.any fun e => e.file.modifiedNs > now) = false ∧
      protectedIds p sha256 dir references = some found ∧
      (({ dir, entries } : Governing).expire p now found).relieve p free reserveArtifacts
        reserveBytes found = (s, true) ∧
      s.underPressure p free reserveArtifacts reserveBytes = false ∧ dir' = s.dir ∧
      result =
        { removedArtifacts := s.removedArtifacts
          removedBytes := s.removedBytes
          remainingArtifacts := s.entries.length } := by
  unfold govern at h
  split at h
  · cases h
  · cases hentries : inventoryEntries p dir with
    | none =>
      rw [hentries] at h
      cases h
    | some entries =>
      rw [hentries] at h
      simp only at h
      cases hnow : entries.any fun e => decide (e.file.modifiedNs > now) with
      | true =>
        rw [hnow] at h
        cases h
      | false =>
        rw [hnow] at h
        cases hfound : protectedIds p sha256 dir references with
        | none =>
          rw [hfound] at h
          cases h
        | some found =>
          rw [hfound] at h
          simp only [Bool.false_eq_true, if_false] at h
          split at h
          · cases h
          · rename_i s hrun
            cases hroom : s.underPressure p free reserveArtifacts reserveBytes with
            | true =>
              rw [hroom] at h
              cases h
            | false =>
              rw [hroom] at h
              cases h
              exact ⟨entries, found, s, rfl, hnow, rfl, hrun, hroom, rfl, rfl⟩

theorem candidates_subperm (now : Nat) (found : List Uuid4) (s : Governing) :
    (s.expiring p now found ++ s.waiting p now found).Subperm s.entries :=
  (List.filter_append_perm _ _).subperm.trans (List.filter_sublist.subperm.trans
    (List.perm_insertionSort cleanupOrder s.entries).subperm)

/-- What the disk has left by the number of entries, when they are removed in the order of the
loops. -/
def leftAfter (p : LocalArtifactPolicy) (free : Directory → Nat) (now : Nat) (found : List Uuid4)
    (s : Governing) (stored : Nat) : Nat :=
  free (after s.dir (unlinking (names p
    ((s.expiring p now found ++ s.waiting p now found).take (s.entries.length - stored)))))

theorem leftAfter_eq {now : Nat} {found : List Uuid4} {s : Governing} {taken : List Entry}
    (h : taken <+: s.waiting p now found) :
    leftAfter p free now found s
        (s.entries.length - (s.expiring p now found).length - taken.length) =
      free (after s.dir (unlinking (names p (s.expiring p now found ++ taken)))) := by
  have htotal := (candidates_subperm (p := p) now found s).length_le
  have hfew := h.length_le
  rw [List.length_append] at htotal
  have hcount : s.entries.length - (s.entries.length - (s.expiring p now found).length -
      taken.length) = (s.expiring p now found).length + taken.length := by
    omega
  have htake : (s.waiting p now found).take taken.length = taken := (List.prefix_iff_eq_take.1 h).symm
  rw [leftAfter, hcount, List.take_length_add_append, htake]

/-- The loops remove what has expired and then candidates that have not. -/
theorem loops_eq {s : Governing} (h : (s.entries.map (·.artifactId)).Nodup) {now : Nat}
    {found : List Uuid4} {pressed : List Entry} {remaining : Option Nat}
    (hrelieve : LocalArtifacts.relieve p (leftAfter p free now found s) reserveArtifacts reserveBytes
      (s.entries.length - (s.expiring p now found).length) (s.waiting p now found) =
        (pressed, remaining)) :
    (s.expire p now found).relieve p free reserveArtifacts reserveBytes found =
      ((s.expiring p now found ++ pressed).foldl (remove p) s, remaining.isSome) := by
  have hlength := length_remove (p := p)
    ((List.sublist_append_left _ (s.waiting p now found)).subperm.trans
      (candidates_subperm (p := p) now found s))
  have hwaiting : ((s.expiring p now found).foldl (remove p) s).candidates found =
      s.waiting p now found := by
    rw [candidates_remove h]
    refine List.filter_congr fun e he => ?_
    simp [expiring, he]
  have hleft : ∀ taken, taken <+: s.waiting p now found →
      leftAfter p free now found s
        (((s.expiring p now found).foldl (remove p) s).entries.length - taken.length) =
          free (taken.foldl (remove p) ((s.expiring p now found).foldl (remove p) s)).dir := by
    intro taken htaken
    rw [hlength, leftAfter_eq htaken, ← List.foldl_append, foldl_remove]
  rw [expire_eq, relieve_eq (entries_remove h _) hwaiting hleft, hlength, hrelieve,
    List.foldl_append]

/-- An accepted call does what `LocalArtifacts.govern` does. -/
theorem govern_eq {now : Nat} {references : List LocalArtifactRef} {dir : Directory}
    (haccepted : reserveArtifacts ≤ 1 ∧ reserveBytes ≤ p.maximumBytes ∧
      (reserveArtifacts = 0 → reserveBytes = 0)) :
    ∃ left : Nat → Nat,
      govern p sha256 free reserveArtifacts reserveBytes now references dir =
        (after dir (LocalArtifacts.govern p sha256 now left references reserveArtifacts
            reserveBytes dir).1,
          (LocalArtifacts.govern p sha256 now left references reserveArtifacts reserveBytes dir).2) := by
  unfold govern LocalArtifacts.govern
  rw [if_neg (not_not_intro haccepted)]
  cases hentries : inventoryEntries p dir with
  | none => exact ⟨fun _ => 0, rfl⟩
  | some entries =>
    simp only
    cases hnow : entries.any fun e => decide (e.file.modifiedNs > now) with
    | true => exact ⟨fun _ => 0, rfl⟩
    | false =>
      simp only [Bool.false_eq_true, if_false]
      cases protectedIds p sha256 dir references with
      | none => exact ⟨fun _ => 0, rfl⟩
      | some found =>
        simp only
        have hsound := sound_of_inventoryEntries hentries hnow
        obtain ⟨entries', hentries', -, hperm⟩ := inventoryEntries_sound hsound
        rw [hentries] at hentries'
        cases hentries'
        let s : Governing := { dir, entries }
        refine ⟨leftAfter p free now found s, ?_⟩
        change _ =
          let relieved := LocalArtifacts.relieve p (leftAfter p free now found s) reserveArtifacts
            reserveBytes (entries.length - (s.expiring p now found).length) (s.waiting p now found)
          let removed := s.expiring p now found ++ relieved.1
          (after dir (removed.map fun e => .unlink (p.fileName e.artifactId)),
            relieved.2.map fun n =>
              (⟨removed.length, (removed.map (·.file.bytes.length)).sum, n⟩ :
                LocalArtifactCleanupResult))
        cases hrelieve : LocalArtifacts.relieve p (leftAfter p free now found s) reserveArtifacts
            reserveBytes (entries.length - (s.expiring p now found).length)
            (s.waiting p now found) with
        | mk pressed remaining =>
          have hloops := loops_eq (s := s) (entries_nodup hperm) hrelieve
          obtain ⟨hfirst, hremaining⟩ := relieve_spec (p := p) (leftAfter p free now found s)
            reserveArtifacts reserveBytes (entries.length - (s.expiring p now found).length)
            (s.waiting p now found)
          rw [hrelieve] at hfirst hremaining
          rw [hloops]
          have hunlinking (gone : List Entry) : unlinking (names p gone) =
              gone.map fun e => .unlink (p.fileName e.artifactId) := List.map_map
          cases remaining with
          | none =>
            simp only [Option.isSome_none, foldl_remove, hunlinking, Option.map_none]
            rfl
          | some n =>
            have hroom := relieve_room hloops
            have hlength := length_remove (p := p)
              (((List.prefix_append_right_inj _).2 hfirst).sublist.subperm.trans
                (candidates_subperm now found s))
            obtain ⟨hcount, -⟩ := hremaining n rfl
            simp only [Option.isSome_some, hroom, Bool.false_eq_true, if_false, hlength,
              Option.map_some]
            rw [foldl_remove, hunlinking, hcount, List.length_append, Nat.sub_add_eq]
            simp [s]

/-! ## What governance removes -/

/-- The limits hold with the reservation. -/
def Room (p : LocalArtifactPolicy) (free : Directory → Nat) (reserveArtifacts reserveBytes : Nat)
    (dir : Directory) : Prop :=
  dir.keys.length + reserveArtifacts ≤ p.maximumArtifacts ∧
    p.minimumFreeBytes + reserveBytes ≤ free dir

/-- An artifact of the directory that none of the references protects. -/
structure Unprotected (p : LocalArtifactPolicy) (dir : Directory)
    (references : List LocalArtifactRef) (e : Entry) : Prop where
  stored : dir.lookup (p.fileName e.artifactId) = some e.file
  free : ∀ r ∈ references, r.artifactId ≠ e.artifactId

section

variable {entries : List Entry} {dir : Directory}
  (hperm : (names p entries).Perm dir.keys)

include hperm

theorem removable_names {gone : List Entry} (h : gone.Subperm entries) :
    Removable dir (names p gone) := by
  obtain ⟨same, hsame, hsublist⟩ := h
  have hnames : (names p same).Perm (names p gone) := hsame.map _
  have hsub : (names p same).Sublist (names p entries) := hsublist.map _
  constructor
  · exact hnames.nodup_iff.1 ((hperm.nodup_iff.2 dir.keys_nodup).sublist hsub)
  · intro name hname
    exact AList.mem_keys.2 (hperm.subset (hsub.subset (hnames.mem_iff.2 hname)))

theorem keys_remove {gone : List Entry} (h : gone.Subperm entries) :
    (after dir (unlinking (names p gone))).keys.length = entries.length - gone.length := by
  have hremovable := removable_names hperm h
  have hkeys := keys_after_unlink hremovable.nodup hremovable.present
  have htotal := hperm.length_eq
  rw [names, List.length_map] at hkeys htotal
  unfold unlinking
  rw [names]
  omega

/-- The entries are the artifacts of the directory. -/
theorem mem_entries_iff (hlookup : ∀ e ∈ entries, dir.lookup (p.fileName e.artifactId) = some e.file)
    (e : Entry) : e ∈ entries ↔ dir.lookup (p.fileName e.artifactId) = some e.file := by
  constructor
  · exact hlookup e
  · intro hstored
    have hkey : p.fileName e.artifactId ∈ dir.keys :=
      AList.mem_keys.1 (AList.lookup_isSome.1 (Option.isSome_of_mem hstored))
    obtain ⟨e', he', hname⟩ := List.mem_map.1 (hperm.mem_iff.2 hkey)
    have hid := fileName_injective hname
    have hfile := hlookup e' he'
    rw [hid, hstored, Option.some.injEq] at hfile
    obtain ⟨id, file⟩ := e
    obtain ⟨id', file'⟩ := e'
    cases hid
    cases hfile
    exact he'

end

/-- `_capture_generated`, cut anywhere, keeps to the number of artifacts. -/
theorem captureGenerated_few {now : Nat} {dir : Directory} (h : Sound p now dir) (later : Nat)
    (left : Nat → Nat) (id : Uuid) (payload : Bytes) (references : List LocalArtifactRef)
    (w : WriteOutcome) (cut : Nat) :
    (after dir ((captureGenerated p sha256 later left id payload references w dir).1.take
      cut)).keys.length ≤ p.maximumArtifacts := by
  by_cases hlater : Sound p later dir
  · have htaken := (@captureGenerated_spec _ sha256 _ _ hlater left id payload references w).1.take cut
    by_cases hstop : ∃ name t, ((captureGenerated p sha256 later left id payload references w
        dir).1.take cut).getLast? = some (.create name t)
    · exact (htaken.unfinished hstop).2
    · exact (htaken.sound hlater hstop).few
  · -- The clock has gone back behind a file.
    obtain ⟨entries, hentries, -⟩ := inventoryEntries_sound h
    have hnewer : (entries.any fun e => decide (e.file.modifiedNs > later)) = true :=
      Bool.eq_true_of_not_eq_false fun hnow => hlater (sound_of_inventoryEntries hentries hnow)
    have hrefused : LocalArtifacts.govern p sha256 later left references 1 payload.length dir =
        ([], none) := by
      simp only [LocalArtifacts.govern, hentries, hnewer, if_true]
    have hnothing : (captureGenerated p sha256 later left id payload references w dir).1 = [] := by
      unfold captureGenerated
      cases MaterialPaths.usableIdentifier id with
      | none => rfl
      | some artifactId =>
        simp only [hrefused]
        split <;> rfl
    rw [hnothing, List.take_nil]
    exact h.few

section

variable {references : List LocalArtifactRef} {found : List Uuid4} {s : Governing} {now : Nat}
  (hperm : (names p s.entries).Perm s.dir.keys)

include hperm

theorem underPressure_leftAfter {taken : List Entry} (h : taken <+: s.waiting p now found) :
    LocalArtifacts.underPressure p (leftAfter p free now found s) reserveArtifacts reserveBytes
        (s.entries.length - (s.expiring p now found).length - taken.length) = false ↔
      Room p free reserveArtifacts reserveBytes
        (after s.dir (unlinking (names p (s.expiring p now found ++ taken)))) := by
  have hsub : (s.expiring p now found ++ taken).Subperm s.entries :=
    ((List.prefix_append_right_inj _).2 h).sublist.subperm.trans (candidates_subperm now found s)
  have hkeys := keys_remove hperm hsub
  rw [List.length_append, Nat.sub_add_eq] at hkeys
  rw [Room, hkeys, LocalArtifacts.underPressure, leftAfter_eq h]
  simp only [decide_eq_false_iff_not, not_or, not_lt]

theorem mem_candidates_iff
    (hlookup : ∀ e ∈ s.entries, s.dir.lookup (p.fileName e.artifactId) = some e.file)
    (hfound : ∀ id, id ∈ found ↔ ∃ r ∈ references, r.artifactId = id) (e : Entry) :
    e ∈ s.candidates found ↔ Unprotected p s.dir references e := by
  rw [candidates, List.mem_filter, List.mem_insertionSort, mem_entries_iff hperm hlookup,
    decide_eq_true_eq, hfound]
  constructor
  · intro ⟨hstored, hfree⟩
    exact ⟨hstored, fun r hr heq => hfree ⟨r, hr, heq⟩⟩
  · intro h
    exact ⟨h.stored, fun ⟨r, hr, heq⟩ => h.free r hr heq⟩

end

/-- A call that returns has removed what had expired of the artifacts that no reference protects, and
then the oldest others until the limits held, and has left everything else as it was. -/
theorem govern_exact {now : Nat} {references : List LocalArtifactRef} {dir dir' : Directory}
    {result : LocalArtifactCleanupResult}
    (h : govern p sha256 free reserveArtifacts reserveBytes now references dir = (dir', some result)) :
    ∃ expired pressed kept : List Entry,
      (∀ e, e ∈ expired ↔ Unprotected p dir references e ∧ isExpired p now e) ∧
      (∀ e, e ∈ pressed ++ kept ↔ Unprotected p dir references e ∧ ¬isExpired p now e) ∧
      ((expired ++ pressed ++ kept).map (·.artifactId)).Nodup ∧
      (pressed ++ kept).Pairwise cleanupOrder ∧
      (∀ name, dir'.lookup name =
        if name ∈ names p (expired ++ pressed) then none else dir.lookup name) ∧
      Room p free reserveArtifacts reserveBytes dir' ∧
      (∀ shorter, shorter <+: pressed → shorter ≠ pressed →
        ¬Room p free reserveArtifacts reserveBytes
          (after dir (unlinking (names p (expired ++ shorter))))) ∧
      (∀ r ∈ references, p.fileName r.artifactId ∈ dir' ∧
        dir'.lookup (p.fileName r.artifactId) = dir.lookup (p.fileName r.artifactId)) ∧
      result =
        { removedArtifacts := (expired ++ pressed).length
          removedBytes := ((expired ++ pressed).map (·.file.bytes.length)).sum
          remainingArtifacts := dir'.keys.length } ∧
      ∀ (later : Nat) (left : Nat → Nat) (id : Uuid) (payload : Bytes)
        (others : List LocalArtifactRef) (w : WriteOutcome) (cut : Nat),
        (after dir' ((captureGenerated p sha256 later left id payload others w dir').1.take
          cut)).keys.length ≤ p.maximumArtifacts := by
  obtain ⟨entries, found, s', hentries, hnow, hfound, hrun, -, rfl, rfl⟩ := govern_loops h
  have hsound := sound_of_inventoryEntries hentries hnow
  obtain ⟨entries', hentries', hlookup, hperm⟩ := inventoryEntries_sound hsound
  rw [hentries] at hentries'
  cases hentries'
  obtain ⟨hids, hstored⟩ := protectedIds_spec hfound
  let s : Governing := { dir, entries }
  have hmem := mem_candidates_iff (s := s) hperm hlookup hids
  cases hrelieve : LocalArtifacts.relieve p (leftAfter p free now found s) reserveArtifacts
      reserveBytes (entries.length - (s.expiring p now found).length) (s.waiting p now found) with
  | mk pressed remaining =>
    obtain ⟨hfirst, hremaining⟩ := relieve_spec (p := p) (leftAfter p free now found s)
      reserveArtifacts reserveBytes (entries.length - (s.expiring p now found).length)
      (s.waiting p now found)
    have hpressed (shorter : List Entry) := @relieve_pressed p (leftAfter p free now found s)
      reserveArtifacts reserveBytes (entries.length - (s.expiring p now found).length)
      (s.waiting p now found) shorter
    rw [hrelieve] at hfirst hremaining hpressed
    rw [loops_eq (s := s) (entries_nodup hperm) hrelieve, foldl_remove] at hrun
    obtain ⟨rfl, hsome⟩ := Prod.mk.inj hrun
    obtain ⟨m, rfl⟩ := Option.isSome_iff_exists.1 hsome
    obtain ⟨hm, hpressure⟩ := hremaining m rfl
    obtain ⟨kept, hkept⟩ := id hfirst
    have hall := candidates_subperm (p := p) now found s
    have hgone : (s.expiring p now found ++ pressed).Subperm entries :=
      ((List.prefix_append_right_inj _).2 hfirst).sublist.subperm.trans hall
    have hfree : ∀ e ∈ s.expiring p now found ++ pressed, Unprotected p dir references e := by
      intro e he
      rcases List.mem_append.1 he with he | he
      · exact (hmem e).1 (List.mem_of_mem_filter he)
      · exact (hmem e).1 (List.mem_of_mem_filter (hfirst.subset he))
    refine ⟨s.expiring p now found, pressed, kept, fun e => ?_, fun e => ?_, ?_, ?_, fun name => ?_,
      ?_, fun shorter hshorter hne => ?_, fun r hr => ?_, ?_, ?_⟩
    · rw [expiring, List.mem_filter, hmem]
    · rw [hkept, waiting, List.mem_filter, hmem, Bool.not_eq_true', Bool.not_eq_true]
    · rw [List.append_assoc, hkept]
      have hnames : (((s.expiring p now found ++ s.waiting p now found).map
          (·.artifactId)).map p.fileName).Nodup := by
        rw [List.map_map]
        exact (removable_names hperm hall).nodup
      exact hnames.of_map _
    · rw [hkept]
      exact ((List.pairwise_insertionSort ..).filter _).filter _
    · split
      · rename_i hname
        exact after_unlink_of_mem hname
      · rename_i hname
        exact after_unlink_of_notMem hname
    · rw [hm] at hpressure
      exact (underPressure_leftAfter (s := s) hperm hfirst).1 hpressure
    · intro hroom'
      have hstill := hpressed shorter hshorter hne
      rw [(underPressure_leftAfter (s := s) hperm (hshorter.trans hfirst)).2 hroom'] at hstill
      cases hstill
    · have hname : p.fileName r.artifactId ∉ names p (s.expiring p now found ++ pressed) := by
        intro hname
        obtain ⟨e, he, hid⟩ := List.mem_map.1 hname
        exact (hfree e he).free r hr (fileName_injective hid).symm
      have hsame := @after_unlink_of_notMem dir _ _ hname
      refine ⟨?_, hsame⟩
      rw [← AList.lookup_isSome]
      show ((after dir _).lookup _).isSome
      rw [unlinking, hsame, AList.lookup_isSome]
      exact AList.mem_keys.2 (hstored r hr)
    · have hkeys := keys_remove hperm hgone
      have hlength := length_remove (p := p) (s := s) hgone
      rw [foldl_remove] at hlength
      rw [LocalArtifactCleanupResult.mk.injEq]
      exact ⟨Nat.zero_add _, Nat.zero_add _, hlength.trans hkeys.symm⟩
    · intro later left id payload others w cut
      exact captureGenerated_few ((removable_names hperm hgone).sound hsound) ..

end Governing

namespace Governed

def policy : LocalArtifactPolicy where
  relativeDirectory := ["artifacts".toList]
  fileExtension := "json".toList
  mediaType := "application/json".toList
  maximumBytes := 2048
  maximumArtifacts := 4
  retentionSeconds := 1
  minimumFreeBytes := 0
  directory := by decide
  extension := by decide
  media := by decide +kernel
  bytes := by decide
  artifacts := by decide
  retention := by decide
  free := by decide

def digest (_ : Bytes) : {d : List Char // sha256Pattern d = true} :=
  ⟨List.replicate 64 'a', by decide⟩

def artifact (n : Fin 4) : Uuid4 :=
  ⟨0x923e4567e89b42d3a456000000000000 + n.1, by revert n; decide +kernel⟩

/-- Four artifacts of two bytes each, the first two of which are old. -/
def dir : Directory :=
  [(0, 0), (1, 1), (2, 1500000000), (3, 1600000000)].foldl (fun dir (n, time) =>
    dir.insert (policy.fileName (artifact n)) ⟨[1, 2], time⟩) ∅

/-- A disk of ten bytes. -/
def disk (dir : Directory) : Nat := 10 - (dir.entries.map (·.2.bytes.length)).sum

/-- The first artifact is to stay. -/
def kept : List LocalArtifactRef := (reference policy digest (artifact 0) [1, 2]).toList

/-- The second artifact has expired, and the third has to go for the five bytes. -/
theorem governed_exact : ∃ result,
    (Governing.govern policy digest disk 1 5 2000000000 kept dir).2 = some result ∧
      result.removedArtifacts = 2 ∧
      Governing.Room policy disk 1 5 (Governing.govern policy digest disk 1 5 2000000000 kept dir).1 := by
  have hresult : (Governing.govern policy digest disk 1 5 2000000000 kept dir).2 =
      some ⟨2, 4, 2⟩ := by decide +kernel
  obtain ⟨_, _, _, -, -, -, -, -, hroom, -⟩ :=
    Governing.govern_exact (Prod.ext rfl hresult :
      Governing.govern policy digest disk 1 5 2000000000 kept dir = (_, some ⟨2, 4, 2⟩))
  exact ⟨_, hresult, rfl, hroom⟩

end Governed

end AutomationTool.Executor.LocalArtifacts
