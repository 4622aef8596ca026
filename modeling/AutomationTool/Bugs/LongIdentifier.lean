import AutomationTool.ControlPlane.DesktopUpdateCatalog

/-!
# A long numeric identifier

Behaviour (application/desktop_updates.py:41-89):
`parse` accepts a numeric prerelease identifier of any length, and `__lt__` reads two of them
with `int`, which refuses more than 4300 digits. The comparison of two accepted versions then
raises, and with it `find_update`.

Evidence: `parse` reads the core numbers itself, so that one that is too long makes the version
invalid; the API refuses an invalid version by `validate_canonical_semver` and calls
`find_update` outside of that check.

Counterexample: `1.0.0-111…1` with 4301 ones, and `1.0.0-1`.

`versions_exact`: versions are in a strict total order, that of their precedence, if and only if
each two are comparable; and a catalog returns the one greatest release in every order of its
releases if and only if the current version is comparable with all that suit and those that are
greater are comparable with each other.
-/
namespace AutomationTool.Bugs.LongIdentifier

open ControlPlane.DesktopUpdates
open ControlPlane.DesktopUpdates.DesktopUpdateRelease (suits greater candidates maxFrom)

/-! ## The order of versions -/

/-- The comparison is a strict total order up to equality, and it is the precedence. -/
structure Ordered (S : Set SemVersion) : Prop where
  irreflexive : ∀ a ∈ S, a.lt a = some false
  transitive : ∀ a ∈ S, ∀ b ∈ S, ∀ c ∈ S, a.lt b = some true → b.lt c = some true →
    a.lt c = some true
  /-- Exactly one of less, equal and greater. -/
  trichotomous : ∀ a ∈ S, ∀ b ∈ S, ∃ less greater, a.lt b = some less ∧ a.gt b = some greater ∧
    [less, a.eq b, greater].count true = 1
  precedence : ∀ a ∈ S, ∀ b ∈ S, a.lt b = some true ↔ a.precedence < b.precedence

theorem lt_eq_some_true {a b : SemVersion} (h : a.Comparable b) :
    a.lt b = some true ↔ a.precedence < b.precedence := by
  obtain ⟨less, hless, hiff⟩ := SemVersion.lt_of_comparable h
  rw [hless, ← hiff, Option.some.injEq]

/-- Of two comparable versions one is less, or they are equal, or one is greater. -/
theorem one_of_three {a b : SemVersion} (h : a.Comparable b) :
    ∃ less greater, a.lt b = some less ∧ a.gt b = some greater ∧
      [less, a.eq b, greater].count true = 1 := by
  obtain ⟨less, hless, hlt⟩ := SemVersion.lt_of_comparable h
  obtain ⟨more, hmore, hgt⟩ := SemVersion.gt_of_comparable h
  refine ⟨less, more, hless, hmore, ?_⟩
  have heq := SemVersion.eq_iff (a := a) (b := b)
  obtain hcase | hcase | hcase := lt_trichotomy a.precedence b.precedence
  · rw [hlt.2 hcase, Bool.eq_false_iff.2 fun h => hcase.ne (heq.1 h),
      Bool.eq_false_iff.2 fun h => hcase.asymm (hgt.1 h)]
    rfl
  · rw [heq.2 hcase, Bool.eq_false_iff.2 fun h => (hlt.1 h).ne hcase,
      Bool.eq_false_iff.2 fun h => (hgt.1 h).ne' hcase]
    rfl
  · rw [hgt.2 hcase, Bool.eq_false_iff.2 fun h => hcase.ne' (heq.1 h),
      Bool.eq_false_iff.2 fun h => hcase.asymm (hlt.1 h)]
    rfl

theorem ordered_iff {S : Set SemVersion} :
    Ordered S ↔ ∀ a ∈ S, ∀ b ∈ S, a.Comparable b := by
  constructor
  · intro h a ha b hb
    obtain ⟨less, _, hless, _⟩ := h.trichotomous a ha b hb
    rw [SemVersion.comparable_iff, hless]
    rfl
  · intro h
    refine ⟨fun a ha => ?_, fun a ha b hb c hc hab hbc => ?_, fun a ha b hb => ?_,
      fun a ha b hb => ?_⟩
    · obtain ⟨less, hless, hiff⟩ := SemVersion.lt_of_comparable (h a ha a ha)
      rw [hless, Bool.eq_false_iff.2 fun h => lt_irrefl _ (hiff.1 h)]
    · rw [lt_eq_some_true (h a ha b hb)] at hab
      rw [lt_eq_some_true (h b hb c hc)] at hbc
      rw [lt_eq_some_true (h a ha c hc)]
      exact hab.trans hbc
    · exact one_of_three (h a ha b hb)
    · exact lt_eq_some_true (h a ha b hb)

/-! ## The selection -/

section

variable (catalog : DesktopUpdateCatalog) (channel target arch : String) (current : SemVersion)

/-- The answer is the one greatest of the releases that suit and are greater, or none where there
is none. -/
def Offers : Option DesktopUpdateRelease → Prop
  | none => ∀ r ∈ catalog.releases, ¬r.greater channel target arch current
  | some r => r ∈ catalog.releases ∧ r.greater channel target arch current ∧
    ∀ s ∈ catalog.releases, s.greater channel target arch current → s ≠ r →
      s.semVersion.precedence < r.semVersion.precedence

/-- The answer does not depend on the order of the releases. -/
def Found (text : List Char) : Prop :=
  ∃ answer, Offers catalog channel target arch current answer ∧
    ∀ reordered : DesktopUpdateCatalog, reordered.releases.Perm catalog.releases →
      reordered.findUpdate channel target arch text = some answer

/-- The versions a selection may compare. -/
structure AllComparable : Prop where
  suiting : ∀ r ∈ catalog.releases, r.suits channel target arch = true →
    current.Comparable r.semVersion
  greater : ∀ r ∈ catalog.releases, r.greater channel target arch current →
    ∀ s ∈ catalog.releases, s.greater channel target arch current →
      r.semVersion.Comparable s.semVersion

end

variable {catalog catalog' : DesktopUpdateCatalog} {channel target arch : String}
  {current : SemVersion} {text : List Char}

theorem AllComparable.perm (h : AllComparable catalog channel target arch current)
    (hperm : catalog'.releases.Perm catalog.releases) :
    AllComparable catalog' channel target arch current where
  suiting r hr := h.suiting r (hperm.subset hr)
  greater r hr hg s hs := h.greater r (hperm.subset hr) hg s (hperm.subset hs)

theorem Offers.perm {answer : Option DesktopUpdateRelease}
    (h : Offers catalog' channel target arch current answer)
    (hperm : catalog'.releases.Perm catalog.releases) :
    Offers catalog channel target arch current answer := by
  cases answer with
  | none => exact fun r hr => h r (hperm.symm.subset hr)
  | some r =>
    obtain ⟨hmem, hgreater, hmax⟩ := h
    exact ⟨hperm.subset hmem, hgreater, fun s hs => hmax s (hperm.symm.subset hs)⟩

theorem Offers.unique {answer answer' : Option DesktopUpdateRelease}
    (h : Offers catalog channel target arch current answer)
    (h' : Offers catalog channel target arch current answer') : answer = answer' := by
  cases answer with
  | none =>
    cases answer' with
    | none => rfl
    | some r => exact absurd h'.2.1 (h r h'.1)
  | some r =>
    cases answer' with
    | none => exact absurd h.2.1 (h' r h.1)
    | some r' =>
      by_contra hne
      have hr : r ≠ r' := fun heq => hne (by rw [heq])
      exact (h.2.2 r' h'.1 h'.2.1 hr.symm).asymm (h'.2.2 r h.1 h.2.1 hr)

theorem Target.name_injective : Function.Injective Target.name := by
  intro a b h
  cases a <;> cases b <;> first | rfl | exact absurd h (by decide)

theorem Arch.name_injective : Function.Injective Arch.name := by
  intro a b h
  cases a <;> cases b <;> first | rfl | exact absurd h (by decide)

/-- Two releases that suit one app differ in their precedence. -/
theorem precedence_ne {r s : DesktopUpdateRelease} (hr : r ∈ catalog.releases)
    (hs : s ∈ catalog.releases) (hne : s ≠ r) (hrs : r.suits channel target arch = true)
    (hss : s.suits channel target arch = true) :
    s.semVersion.precedence ≠ r.semVersion.precedence := by
  have hpairs := ((DesktopUpdateRelease.accepted_iff_pairwise []).1 catalog.accepted).2
  have hsymm : Std.Symm fun r s : DesktopUpdateRelease => r.sameIdentity s = false := by
    refine ⟨fun a b h => ?_⟩
    rw [DesktopUpdateRelease.sameIdentity_comm]
    exact h
  have hdiffer : s.sameIdentity r = false := hpairs.forall hs hr hne
  intro heq
  simp only [suits, Bool.and_eq_true, decide_eq_true_eq] at hrs hss
  obtain ⟨⟨hc, ht⟩, ha⟩ := hrs
  obtain ⟨⟨hc', ht'⟩, ha'⟩ := hss
  have hsame : s.sameIdentity r = true := by
    simp only [DesktopUpdateRelease.sameIdentity, Bool.and_eq_true, decide_eq_true_eq]
    exact ⟨⟨⟨hc'.trans hc.symm, Target.name_injective (ht'.trans ht.symm)⟩,
      Arch.name_injective (ha'.trans ha.symm)⟩, SemVersion.eq_iff.2 heq⟩
  rw [hsame] at hdiffer
  cases hdiffer

theorem findUpdate_offers (htext : SemVersion.parse text = some current)
    (h : AllComparable catalog channel target arch current) :
    ∃ answer, catalog.findUpdate channel target arch text = some answer ∧
      Offers catalog channel target arch current answer := by
  obtain ⟨found, hfound, hsub, hmem⟩ := DesktopUpdateRelease.candidates_eq h.suiting
  simp only [DesktopUpdateCatalog.findUpdate, htext, hfound, Option.bind_eq_bind,
    Option.bind_some]
  cases found with
  | nil =>
    refine ⟨none, rfl, fun r hr hgreater => ?_⟩
    exact absurd ((hmem r).2 ⟨hr, hgreater⟩) List.not_mem_nil
  | cons best rest =>
    have hall : ∀ r ∈ best :: rest, ∀ r' ∈ best :: rest, r.semVersion.Comparable r'.semVersion := by
      intro r hr r' hr'
      obtain ⟨hr, hg⟩ := (hmem r).1 hr
      obtain ⟨hr', hg'⟩ := (hmem r').1 hr'
      exact h.greater r hr hg r' hr' hg'
    obtain ⟨r, hmax, hr, hle⟩ := DesktopUpdateRelease.maxFrom_eq hall
    obtain ⟨hin, hg⟩ := (hmem r).1 hr
    refine ⟨some r, by simp only [hmax]; rfl, hin, hg, fun s hs hsg hne => ?_⟩
    exact lt_of_le_of_ne (hle s ((hmem s).2 ⟨hs, hsg⟩)) (precedence_ne hin hs hne hg.1 hsg.1)

/-- A greater release at the head is the first candidate. -/
theorem candidates_cons {r : DesktopUpdateRelease} {releases found : List DesktopUpdateRelease}
    (hg : r.greater channel target arch current)
    (h : candidates channel target arch current (r :: releases) = some found) :
    ∃ rest, found = r :: rest ∧ candidates channel target arch current releases = some rest := by
  rw [candidates, if_pos hg.1] at h
  obtain ⟨less, hless, h⟩ := Option.bind_eq_some_iff.1 h
  obtain ⟨rest, hrest, h⟩ := Option.bind_eq_some_iff.1 h
  have hcomparable : current.Comparable r.semVersion := by
    rw [SemVersion.comparable_iff, hless]
    rfl
  rw [(lt_eq_some_true hcomparable).2 hg.2] at hless
  cases hless
  cases h
  exact ⟨rest, rfl, hrest⟩

theorem candidates_of_findUpdate {answer : Option DesktopUpdateRelease}
    (htext : SemVersion.parse text = some current)
    (h : catalog.findUpdate channel target arch text = some answer) :
    ∃ found, candidates channel target arch current catalog.releases = some found ∧
      ∀ r rest, found = r :: rest → (maxFrom r rest).isSome = true := by
  simp only [DesktopUpdateCatalog.findUpdate, htext, Option.bind_eq_bind, Option.bind_some] at h
  obtain ⟨found, hfound, h⟩ := Option.bind_eq_some_iff.1 h
  refine ⟨found, hfound, ?_⟩
  intro r rest hcons
  subst hcons
  simp only at h
  obtain ⟨best, hbest, -⟩ := Option.map_eq_some_iff.1 h
  rw [hbest]
  rfl

/-- In an order in which two greater releases come first, they are compared. -/
theorem comparable_of_found (htext : SemVersion.parse text = some current)
    (h : Found catalog channel target arch current text) {r s : DesktopUpdateRelease}
    (hr : r ∈ catalog.releases) (hs : s ∈ catalog.releases)
    (hrg : r.greater channel target arch current) (hsg : s.greater channel target arch current) :
    r.semVersion.Comparable s.semVersion := by
  by_cases heq : s = r
  · rw [heq]
    exact .refl _
  · obtain ⟨before, after, hsplit⟩ := List.append_of_mem hr
    have hs' : s ∈ before ++ after := by
      rw [hsplit] at hs
      simpa [heq] using hs
    obtain ⟨before', after', hsplit'⟩ := List.append_of_mem hs'
    have hperm : (r :: s :: (before' ++ after')).Perm catalog.releases := by
      rw [hsplit]
      refine .trans ?_ List.perm_middle.symm
      rw [hsplit']
      exact List.perm_middle.symm.cons r
    obtain ⟨answer, -, hall⟩ := h
    have hfind := hall ⟨_, DesktopUpdateRelease.accepted_perm hperm.symm catalog.accepted⟩ hperm
    obtain ⟨found, hfound, hmax⟩ := candidates_of_findUpdate htext hfind
    obtain ⟨rest, rfl, hrest⟩ := candidates_cons hrg hfound
    obtain ⟨rest, rfl, -⟩ := candidates_cons hsg hrest
    have hsome := hmax _ _ rfl
    rw [maxFrom] at hsome
    cases hgt : s.semVersion.gt r.semVersion with
    | none =>
      rw [hgt] at hsome
      cases hsome
    | some more =>
      obtain ⟨less, hless, -⟩ := Option.map_eq_some_iff.1 hgt
      refine SemVersion.Comparable.symm ?_
      rw [SemVersion.comparable_iff, hless]
      rfl

theorem found_iff (htext : SemVersion.parse text = some current) :
    Found catalog channel target arch current text ↔
      AllComparable catalog channel target arch current := by
  constructor
  · intro h
    refine ⟨?_, fun r hr hrg s hs hsg => comparable_of_found htext h hr hs hrg hsg⟩
    obtain ⟨answer, -, hall⟩ := h
    obtain ⟨found, hfound, -⟩ := candidates_of_findUpdate htext (hall catalog (.refl _))
    exact DesktopUpdateRelease.comparable_of_candidates hfound
  · intro h
    obtain ⟨answer, -, hoffers⟩ := findUpdate_offers htext h
    refine ⟨answer, hoffers, fun reordered hperm => ?_⟩
    obtain ⟨answer', hfind, hoffers'⟩ := findUpdate_offers htext (h.perm hperm)
    rw [hfind, (hoffers'.perm hperm).unique hoffers]

/-- **Versions and updates**: where the comparison gets through, it is the strict total order of
precedence and the selection returns the one greatest release, and only there. -/
theorem versions_exact (S : Set SemVersion) (catalog : DesktopUpdateCatalog)
    (channel target arch : String) (text : List Char) (current : SemVersion) :
    (Ordered S ↔ ∀ a ∈ S, ∀ b ∈ S, a.Comparable b) ∧
    (∀ (value : List Char) (v : SemVersion), SemVersion.parse value = some v →
      ∃ w, SemVersion.parse (partition '+' value).1 = some w ∧ w.precedence = v.precedence) ∧
    (SemVersion.parse text = some current →
      (Found catalog channel target arch current text ↔
        AllComparable catalog channel target arch current)) :=
  ⟨ordered_iff, fun _ _ => SemVersion.precedence_parse, found_iff⟩

namespace Concrete

/-- `1.0.0-` before a numeric identifier of so many ones. -/
def ones (n : Nat) : List Char := [ '1', '.', '0', '.', '0', '-'] ++ List.replicate n '1'

def numbered (n : Nat) (h : validIdentifier false (List.replicate n '1') = true) : SemVersion where
  raw := ones n
  major := 1
  minor := 0
  patch := 0
  prerelease := some [List.replicate n '1']
  identifiers := by
    intro ids hids id hid
    cases hids
    cases List.mem_singleton.1 hid
    exact h

theorem validIdentifier_ones (n : Nat) :
    validIdentifier false (List.replicate (n + 1) '1') = true := by
  simp only [validIdentifier, Bool.and_eq_true, Bool.false_or, Bool.or_eq_true]
  refine ⟨⟨rfl, ?_⟩, .inr rfl⟩
  rw [List.all_eq_true]
  intro c hc
  rw [(List.mem_replicate.1 hc).2]
  rfl

theorem parse_ones (n : Nat) :
    SemVersion.parse (ones (n + 1)) = some (numbered (n + 1) (validIdentifier_ones n)) := by
  have hplus : partition '+' (ones (n + 1)) = (ones (n + 1), none) := by
    apply SemVersion.partition_of_not_mem
    simp [ones]
  have hminus : partition '-' (ones (n + 1)) =
      ([ '1', '.', '0', '.', '0'], some (List.replicate (n + 1) '1')) := rfl
  have hdots : (List.replicate (n + 1) '1').splitOn '.' = [List.replicate (n + 1) '1'] := by
    apply List.splitOn_eq_singleton
    simp
  have hvalid : validIdentifiers false (List.replicate (n + 1) '1') = true := by
    rw [validIdentifiers, hdots, List.all_cons, validIdentifier_ones n]
    rfl
  have hall : (some (List.replicate (n + 1) '1')).all (validIdentifiers false) = true := hvalid
  have hne : ones (n + 1) ≠ [] := nofun
  simp only [SemVersion.parse, if_neg hne, hplus, Option.any_none, Bool.false_eq_true, if_false,
    SemVersion.parseCore, hminus]
  have hcore : List.splitOn '.' [ '1', '.', '0', '.', '0'] = [[ '1'], [ '0'], [ '0']] := by decide
  simp only [hcore]
  rw [if_neg (by decide), dif_pos hall]
  simp only [Option.map_some, hdots]
  rfl

abbrev version (n : Nat) : SemVersion := numbered (n + 1) (validIdentifier_ones n)

theorem version_comparable {m n : Nat} (hm : m < maxStrDigits) (hn : n < maxStrDigits) :
    (version m).Comparable (version n) := by
  intro _ _ _ lefts hl rights hr left right hfirst _ _
  obtain ⟨hleft, hright, -⟩ := SemVersion.firstDifference_some hfirst
  cases hl
  cases hr
  rw [List.mem_singleton.1 hleft, List.mem_singleton.1 hright, List.length_replicate,
    List.length_replicate]
  exact ⟨hm, hn⟩

theorem version_not_comparable {m n : Nat} (hne : m ≠ n) (hm : maxStrDigits ≤ m) :
    ¬(version m).Comparable (version n) := by
  intro h
  have hdiffer : List.replicate (m + 1) '1' ≠ List.replicate (n + 1) '1' := by
    intro heq
    have hlen := congrArg List.length heq
    simp only [List.length_replicate] at hlen
    omega
  have hdigits : ∀ k, isDigits (List.replicate (k + 1) '1') = true := by
    intro k
    simp [isDigits, List.replicate_succ_ne_nil]
  have hlong := (h rfl rfl rfl _ rfl _ rfl _ _ (if_neg hdiffer) (hdigits m) (hdigits n)).1
  rw [List.length_replicate] at hlong
  omega

def release : DesktopUpdateRelease where
  version := ones 2
  channel := "stable"
  policy := .optional
  target := .darwin
  arch := .aarch64
  url := "https://updates.example/app"
  signature := "c2lnbmF0dXJl"
  sha256 := "00"
  sizeBytes := 1
  notes := none
  publishedAt := none
  validVersion := by rw [parse_ones]; rfl

theorem release_semVersion : release.semVersion = version 1 := by
  have h := Option.some_get release.validVersion
  exact Option.some.inj (h.trans (parse_ones 1))

def offered : DesktopUpdateCatalog := ⟨[release], rfl⟩

end Concrete

open Concrete in
/-- **Counterexample**: two accepted versions are not ordered, and no update is found. -/
theorem long_identifier_raises : ¬(∀ S : Set SemVersion, Ordered S) ∧
    ¬∀ (catalog : DesktopUpdateCatalog) (channel target arch : String) (text : List Char)
      (current : SemVersion), SemVersion.parse text = some current →
      Found catalog channel target arch current text := by
  have hno : ¬(version maxStrDigits).Comparable (version 1) :=
    version_not_comparable (by decide) (Nat.le_refl _)
  constructor
  · intro h
    refine hno (ordered_iff.1 (h {version maxStrDigits, version 1}) _ ?_ _ ?_)
    · exact Set.mem_insert _ _
    · exact Set.mem_insert_of_mem _ rfl
  · intro h
    have hfound := h offered "stable" "darwin" "aarch64" _ _ (parse_ones maxStrDigits)
    have hall := (found_iff (parse_ones maxStrDigits)).1 hfound
    have hcompare := hall.suiting release List.mem_cons_self (by decide)
    rw [release_semVersion] at hcompare
    exact hno hcompare

open Concrete in
/-- The update from `1.0.0-1` to `1.0.0-11` is found. -/
theorem short_identifier_found :
    Found offered "stable" "darwin" "aarch64" (version 0) (ones 1) := by
  have hexact := versions_exact ∅ offered "stable" "darwin" "aarch64" (ones 1) (version 0)
  refine (hexact.2.2 (parse_ones 0)).2 ⟨?_, ?_⟩
  · intro r hr _
    rw [List.mem_singleton.1 hr, release_semVersion]
    exact version_comparable (by decide) (by decide)
  · intro r hr _ s hs _
    rw [List.mem_singleton.1 hr, List.mem_singleton.1 hs]
    exact .refl _

end AutomationTool.Bugs.LongIdentifier
