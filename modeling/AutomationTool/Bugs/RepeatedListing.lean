import AutomationTool.Publishing.ArchiveReconciliation

/-!
# An archive listed twice counts twice

Behaviour (bilibili_archive_reconciliation.py:634-673):
the search for a lost archive adds the length of every page to `seen` and every matching row
to `candidates`, whatever archives the rows are of. An archive that another one pushes from
one page to the next is counted twice towards the total, so the search may end without
having seen all archives; a match listed twice is taken for two matches.

Evidence: the module docstring, "a complete enumeration without any candidate is the only
path that may settle the loss as failed"; the comment on a changed total, "absence can no
longer be proven from this pass".

Counterexample: two pages of one row each, a total of two, and both rows are of one foreign
archive: the search concludes that the job's archive does not exist.

`located_sound_iff`: what the search concludes is right exactly when the rows of the listing
name as many archives as the total, and a match listed twice is not the only one.
-/
namespace AutomationTool.Bugs.RepeatedListing

open Publishing

variable {pages : Nat → Except QuerySetback ArchiveListPage}

def rows (ps : List ArchiveListPage) : List ArchiveStatusSnapshot := ps.flatMap (·.items)

/-- The archives among some rows. -/
def distinct (items : List ArchiveStatusSnapshot) : List ResourceId :=
  (items.map (·.resourceId)).dedup

/-- The listing is read to its end, `left` pages at most, from page `n` on, `seen` rows
before it: the pages come with one total and no longer than their size, and their rows
reach that total with the last of them. -/
inductive Reads (pages : Nat → Except QuerySetback ArchiveListPage) (total : Nat) :
    Nat → Nat → Nat → List ArchiveListPage → Prop where
  | last {left n seen : Nat} {p : ArchiveListPage} (hp : pages n = .ok p) (ht : p.total = total)
      (hs : p.items.length ≤ p.pageSize) (hend : total ≤ seen + p.items.length) :
      Reads pages total (left + 1) n seen [p]
  | more {left n seen : Nat} {p : ArchiveListPage} {ps : List ArchiveListPage}
      (hp : pages n = .ok p) (ht : p.total = total) (hs : p.items.length ≤ p.pageSize)
      (hlt : seen + p.items.length < total) (hne : p.items ≠ [])
      (h : Reads pages total left (n + 1) (seen + p.items.length) ps) :
      Reads pages total (left + 1) n seen (p :: ps)

/-- `_locate_uncertain_archive` on the pages it is answered. -/
def located (policy : BilibiliReconciliationPolicy) (attempt : BilibiliPublishAttemptRecord)
    (pages : Nat → Except QuerySetback ArchiveListPage) : Located :=
  walk (m := Id) (isCandidate policy attempt) pages policy.maxListPages 1 none 0 []

/-- A listing was read to its end, its rows name as many archives as its total, and the
archives that match are as told. -/
def Proved (policy : BilibiliReconciliationPolicy) (attempt : BilibiliPublishAttemptRecord)
    (pages : Nat → Except QuerySetback ArchiveListPage) (told : List ResourceId → Prop) : Prop :=
  ∃ total ps, Reads pages total policy.maxListPages 1 0 ps ∧
    total ≤ (distinct (rows ps)).length ∧
    told (distinct ((rows ps).filter (isCandidate policy attempt)))

/-- What a conclusion needs. -/
def Sound (policy : BilibiliReconciliationPolicy) (attempt : BilibiliPublishAttemptRecord)
    (pages : Nat → Except QuerySetback ArchiveListPage) : Located → Prop
  | .absent => Proved policy attempt pages fun found => found = []
  | .archive a => Proved policy attempt pages fun found => found = [a]
  | .setback .ambiguousMatch => Proved policy attempt pages fun found => 2 ≤ found.length
  | .setback _ => True

/-! ## The walk -/

section

variable {c : ArchiveStatusSnapshot → Bool} {total left n seen : Nat} {expected : Option Nat}
  {candidates : List ArchiveStatusSnapshot}

theorem walk_error {setback : QuerySetback} (hp : pages n = .error setback) :
    walk (m := Id) c pages (left + 1) n expected seen candidates = .setback setback.decision := by
  unfold walk
  rw [hp]
  rfl

theorem walk_ok {p : ArchiveListPage} (hp : pages n = .ok p) :
    walk (m := Id) c pages (left + 1) n expected seen candidates =
      if expected.getD p.total ≠ p.total ∨ p.pageSize < p.items.length then
        .setback .stillUncertain
      else if p.total ≤ seen + p.items.length ∨ p.items = [] then
        conclude p.total (seen + p.items.length) (candidates ++ p.items.filter c)
      else walk (m := Id) c pages left (n + 1) (some p.total) (seen + p.items.length)
        (candidates ++ p.items.filter c) := by
  conv_lhs => unfold walk
  rw [hp]
  rfl

/-- The total of the pages before is the one of the listing. -/
def Expects (expected : Option Nat) (total : Nat) : Prop := ∀ t ∈ expected, t = total

theorem expects_iff {p : ArchiveListPage} :
    Expects expected p.total ↔ expected.getD p.total = p.total := by
  cases expected <;> simp [Expects]

/-- A listing that is read to its end is concluded on. -/
theorem walk_reads {ps : List ArchiveListPage} (h : Reads pages total left n seen ps)
    (he : Expects expected total) :
    walk (m := Id) c pages left n expected seen candidates =
      conclude total (seen + (rows ps).length) (candidates ++ (rows ps).filter c) := by
  induction h generalizing expected candidates with
  | @last left n seen p hp ht hs hend =>
    subst ht
    rw [walk_ok hp, if_neg, if_pos (.inl hend)]
    · simp [rows]
    · rw [expects_iff.1 he]
      omega
  | @more left n seen p ps hp ht hs hlt hne h ih =>
    subst ht
    rw [walk_ok hp, if_neg, if_neg, ih (by simp [Expects])]
    · simp [rows, Nat.add_assoc]
    · simp only [hne, or_false]
      omega
    · rw [expects_iff.1 he]
      omega

/-- Any other listing proves nothing. -/
theorem walk_unread (h : ∀ total ps, Expects expected total → ¬Reads pages total left n seen ps) :
    ∃ d, d ≠ .ambiguousMatch ∧
      walk (m := Id) c pages left n expected seen candidates = .setback d := by
  induction left generalizing n expected seen candidates with
  | zero => exact ⟨.stillUncertain, by decide, rfl⟩
  | succ left ih =>
    cases hp : pages n with
    | error setback => exact ⟨_, by cases setback <;> decide, walk_error hp⟩
    | ok p =>
      rw [walk_ok hp]
      by_cases hbad : expected.getD p.total ≠ p.total ∨ p.pageSize < p.items.length
      · exact ⟨.stillUncertain, by decide, if_pos hbad⟩
      · have he : Expects expected p.total := by
          rw [expects_iff]
          omega
        have hs : p.items.length ≤ p.pageSize := by omega
        have hlt : seen + p.items.length < p.total := by
          by_contra hge
          exact h p.total [p] he (.last hp rfl hs (by omega))
        rw [if_neg hbad]
        by_cases hne : p.items = []
        · refine ⟨.stillUncertain, by decide, ?_⟩
          rw [if_pos (.inr hne)]
          exact if_pos hlt
        · rw [if_neg]
          · refine ih fun total ps htotal hreads => ?_
            obtain rfl : p.total = total := htotal _ rfl
            exact h p.total (p :: ps) he (.more hp rfl hs hlt hne hreads)
          · simp only [hne, or_false]
            omega

theorem Reads.total_le {ps : List ArchiveListPage} (h : Reads pages total left n seen ps) :
    total ≤ seen + (rows ps).length := by
  induction h with
  | last hp ht hs hend => simpa [rows] using hend
  | more hp ht hs hlt hne h ih =>
    simp only [rows, List.flatMap_cons, List.length_append] at ih ⊢
    omega

/-- A listing is read in one way. -/
theorem Reads.unique {total' : Nat} {ps ps' : List ArchiveListPage}
    (h : Reads pages total left n seen ps) (h' : Reads pages total' left n seen ps') :
    total = total' ∧ ps = ps' := by
  induction h generalizing ps' with
  | last hp ht hs hend =>
    cases h' with
    | last hp' ht' =>
      cases hp.symm.trans hp'
      exact ⟨ht.symm.trans ht', rfl⟩
    | more hp' ht' hs' hlt' =>
      cases hp.symm.trans hp'
      omega
  | more hp ht hs hlt hne h ih =>
    cases h' with
    | last hp' ht' hs' hend' =>
      cases hp.symm.trans hp'
      omega
    | more hp' ht' hs' hlt' hne' hrest =>
      cases hp.symm.trans hp'
      obtain ⟨htotal, rfl⟩ := ih hrest
      exact ⟨htotal, rfl⟩

end

/-! ## What it concludes -/

/-- The condition: the rows of the listing name as many archives as the total, and where two
of them match, two archives do. -/
def Distinct (policy : BilibiliReconciliationPolicy) (attempt : BilibiliPublishAttemptRecord)
    (pages : Nat → Except QuerySetback ArchiveListPage) : Prop :=
  ∀ total ps, Reads pages total policy.maxListPages 1 0 ps →
    total ≤ (distinct (rows ps)).length ∧
    (2 ≤ ((rows ps).filter (isCandidate policy attempt)).length →
      2 ≤ (distinct ((rows ps).filter (isCandidate policy attempt))).length)

/-- The search concludes what it has seen, exactly on the listings that repeat nothing
that counts. -/
theorem located_sound_iff (policy : BilibiliReconciliationPolicy)
    (attempt : BilibiliPublishAttemptRecord)
    (pages : Nat → Except QuerySetback ArchiveListPage) :
    Sound policy attempt pages (located policy attempt pages) ↔
      Distinct policy attempt pages := by
  by_cases hread : ∃ total ps, Reads pages total policy.maxListPages 1 0 ps
  · obtain ⟨total, ps, hr⟩ := hread
    have hwalk : located policy attempt pages = conclude total (rows ps).length
        ((rows ps).filter (isCandidate policy attempt)) := by
      have hnone : Expects none total := by simp [Expects]
      simpa [located] using
        (walk_reads hr hnone : walk (m := Id) (isCandidate policy attempt) pages _ 1 none 0 [] = _)
    have hproved : ∀ told : List ResourceId → Prop, Proved policy attempt pages told ↔
        total ≤ (distinct (rows ps)).length ∧
          told (distinct ((rows ps).filter (isCandidate policy attempt))) := by
      intro told
      constructor
      · rintro ⟨total', ps', hr', h⟩
        obtain ⟨rfl, rfl⟩ := hr.unique hr'
        exact h
      · intro h
        exact ⟨total, ps, hr, h⟩
    have hdistinct : Distinct policy attempt pages ↔ total ≤ (distinct (rows ps)).length ∧
        (2 ≤ ((rows ps).filter (isCandidate policy attempt)).length →
          2 ≤ (distinct ((rows ps).filter (isCandidate policy attempt))).length) := by
      constructor
      · intro h
        exact h total ps hr
      · intro h total' ps' hr'
        obtain ⟨rfl, rfl⟩ := hr.unique hr'
        exact h
    have hle : ¬(rows ps).length < total := by
      have := hr.total_le
      omega
    rw [hdistinct, hwalk]
    generalize (rows ps).filter (isCandidate policy attempt) = candidates at hproved ⊢
    match candidates with
    | [] =>
      rw [show conclude total (rows ps).length [] = .absent from if_neg hle]
      show Proved policy attempt pages (fun found => found = []) ↔ _
      rw [hproved]
      simp [distinct]
    | [candidate] =>
      rw [show conclude total (rows ps).length [candidate] = .archive candidate.resourceId
        from if_neg hle]
      show Proved policy attempt pages (fun found => found = [candidate.resourceId]) ↔ _
      rw [hproved]
      simp [distinct]
    | a :: b :: rest =>
      rw [show conclude total (rows ps).length (a :: b :: rest) = .setback .ambiguousMatch
        from if_neg hle]
      show Proved policy attempt pages (fun found => 2 ≤ found.length) ↔ _
      rw [hproved]
      simp
  · obtain ⟨d, hd, hlocated⟩ : ∃ d, d ≠ .ambiguousMatch ∧
        located policy attempt pages = .setback d :=
      walk_unread fun total ps _ hr => hread ⟨total, ps, hr⟩
    rw [hlocated]
    constructor
    · intro _ total ps hr
      exact absurd ⟨total, ps, hr⟩ hread
    · intro _
      cases d <;> first | exact trivial | exact absurd rfl hd

/-! ## The service's search -/

/-- What the walk is answered beyond its page does not depend on the pages before. -/
theorem walk_congr {pages' : Nat → Except QuerySetback ArchiveListPage}
    {c : ArchiveStatusSnapshot → Bool} {left n seen : Nat} {expected : Option Nat}
    {candidates : List ArchiveStatusSnapshot} (h : ∀ k, n ≤ k → pages k = pages' k) :
    walk (m := Id) c pages left n expected seen candidates =
      walk (m := Id) c pages' left n expected seen candidates := by
  induction left generalizing n expected seen candidates with
  | zero => rfl
  | succ left ih =>
    have hn := h n (Nat.le_refl n)
    cases hp : pages n with
    | error setback => rw [walk_error hp, walk_error (hn.symm.trans hp)]
    | ok p =>
      rw [walk_ok hp, walk_ok (hn.symm.trans hp), ih fun k hk => h k (by omega)]

/-- Whatever service the method runs on, its walk is one over the pages it was answered. -/
theorem walk_of_run {σ : Type} {exec : (o : Op) → σ → o.Ret × σ} {c : ArchiveStatusSnapshot → Bool}
    {listPage : Nat → Service (Except QuerySetback ArchiveListPage)} {left n seen : Nat}
    {expected : Option Nat} {candidates : List ArchiveStatusSnapshot} {s s' : σ} {r : Located}
    (h : (walk (m := Service) c listPage left n expected seen candidates).run.run exec s =
      (some (.ok r), s')) :
    ∃ pages, walk (m := Id) c pages left n expected seen candidates = r := by
  induction left generalizing n expected seen candidates s with
  | zero =>
    cases h
    exact ⟨fun _ => .error .queryRejected, rfl⟩
  | succ left ih =>
    obtain ⟨x, t, -, hrest⟩ := Prog.run_bind_some exec (f := ExceptT.bindCont _) h
    cases x with
    | error e => cases hrest
    | ok answer =>
      cases answer with
      | error setback =>
        cases hrest
        exact ⟨fun _ => .error setback, walk_error rfl⟩
      | ok p =>
        dsimp only [ExceptT.bindCont] at hrest
        by_cases hbad : expected.getD p.total ≠ p.total ∨ p.pageSize < p.items.length
        · rw [if_pos hbad] at hrest
          cases hrest
          exact ⟨fun _ => .ok p, by rw [walk_ok rfl, if_pos hbad]⟩
        · rw [if_neg hbad] at hrest
          by_cases hend : p.total ≤ seen + p.items.length ∨ p.items = []
          · rw [if_pos hend] at hrest
            cases hrest
            exact ⟨fun _ => .ok p, by rw [walk_ok rfl, if_neg hbad, if_pos hend]⟩
          · rw [if_neg hend] at hrest
            obtain ⟨pages, hpages⟩ := ih hrest
            refine ⟨fun k => if k = n then .ok p else pages k, ?_⟩
            rw [walk_ok (if_pos rfl), if_neg hbad, if_neg hend, ← hpages]
            refine walk_congr fun k hk => if_neg ?_
            omega

/-! ## A shifting list -/

def material : BilibiliPublishMaterial :=
  { fileName := ['v', '.', 'm', 'p', '4'], sizeBytes := 1000, durationSeconds := 10, sha256 := 1,
    name_ok := (by decide : 0 < List.length _ ∧ _) }

def fields : BilibiliArchiveFields := ⟨['t'], 1, ['t'], 1, none, none, 0⟩

/-- The job's attempt, its creation answer lost. -/
def attempt : BilibiliPublishAttemptRecord where
  publishJobId := 1
  phase := .outcomeUncertain
  requestDigest := ⟨1, material, fields, false⟩
  material := material
  fields := fields
  uploadType := .small
  partSizeBytes := 0
  partCount := 0
  hasCover := false
  uploadToken := some ['t']
  coverUrl := none
  videoUploadedAt := some (Protocol.seconds 10)
  dispatchedAt := some (Protocol.seconds 1000)
  settledAt := some (Protocol.seconds 1001)
  resourceId := none
  failureCode := none
  platformErrorCode := none
  createdAt := Protocol.seconds 1
  updatedAt := Protocol.seconds 1001

/-- Somebody's archive. -/
def foreign : ArchiveStatusSnapshot := ⟨⟨['B', 'V'] ++ List.replicate 10 'f', rfl⟩, ['x'], 0, 900⟩

/-- The list has two archives; the foreign one is pushed to the second page. -/
def shifting (n : Nat) : Except QuerySetback ArchiveListPage :=
  if n ≤ 2 then .ok ⟨[foreign], 1, 2⟩ else .error .queryRejected

/-- **Counterexample**: the foreign archive is seen twice, the other one not at all, and the
search concludes that there is no other. -/
theorem foreign_twice :
    located {} attempt shifting = .absent ∧
      ¬Sound {} attempt shifting (located {} attempt shifting) := by
  have hlocated : located {} attempt shifting = .absent := by decide
  refine ⟨hlocated, ?_⟩
  rw [hlocated]
  rintro ⟨total, ps, hr, hle, -⟩
  have hr' : Reads shifting 2 100 1 0 [⟨[foreign], 1, 2⟩, ⟨[foreign], 1, 2⟩] :=
    .more rfl rfl (by decide) (by decide) (by decide) (.last rfl rfl (by decide) (by decide))
  obtain ⟨rfl, rfl⟩ := hr'.unique hr
  exact absurd hle (by decide)

end AutomationTool.Bugs.RepeatedListing
