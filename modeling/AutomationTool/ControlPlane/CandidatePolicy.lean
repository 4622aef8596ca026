import AutomationTool.ControlPlane.TargetPreview

/-!
# The candidate policy and its result

`evaluate_douyin_candidates` decides about every candidate of a page, and the constructor
of its result checks the decisions again. The key of a candidate is a digest of its platform
id; `dedupeKey` stands for it, and nothing is assumed of it.

* `evaluate_spec`: an evaluation is refused exactly for an input that is not admissible, so
  never by the check of its result; its decisions are the candidates in their order, each
  with the highest of the reasons that apply; a key is eligible at its first occurrence or
  nowhere.
* `evaluateDouyinCandidates_eq`: what the previews are built from is this policy.
-/
namespace AutomationTool.ControlPlane.CandidatePolicy

open Protocol

variable {κ : Type} [DecidableEq κ]

/-- mirrors douyin_candidate_policy.py:35-51 -/
structure HistoryFact (κ : Type) where
  dedupeKey : κ
  observedAt : Time

/-- `_history_cutoff`; times count from the first one there is.
mirrors douyin_candidate_policy.py:226-230 -/
def historyCutoff (value : Time) : Option Time :=
  if douyinCandidateHistoryWindow ≤ value then some (value - douyinCandidateHistoryWindow) else none

theorem historyCutoff_eq_some {value cutoff : Time} : historyCutoff value = some cutoff ↔
    douyinCandidateHistoryWindow ≤ value ∧ cutoff = value - douyinCandidateHistoryWindow := by
  unfold historyCutoff
  generalize douyinCandidateHistoryWindow = window
  by_cases h : window ≤ value
  · rw [if_pos h]
    exact ⟨fun e => ⟨h, (Option.some.inj e).symm⟩, fun e => by rw [e.2]⟩
  · rw [if_neg h]
    exact ⟨nofun, fun e => absurd e.1 h⟩

section

variable (dedupeKey : DouyinCandidate → κ)

/-- mirrors douyin_candidate_policy.py:205-223 -/
def taskDuplicateDecisionsAreConsistent : List κ → List DouyinCandidateDecision → Bool
  | _, [] => true
  | seen, decision :: decisions =>
    let key := dedupeKey decision.candidate
    let rest := taskDuplicateDecisionsAreConsistent (key :: seen) decisions
    if decision.disposition = .duplicateInTask then
      if key ∈ seen then rest else false
    else if key ∈ seen ∧
        (decision.disposition = .eligible ∨ decision.disposition = .duplicateInHistory) then false
    else rest

/-- mirrors douyin_candidate_policy.py:70-90 -/
structure DouyinCandidateEvaluation where
  decisions : List DouyinCandidateDecision
  evaluatedAt : Time
  bounded : decisions.length ≤ maxTaskTargetLimit
  cutoff : (historyCutoff evaluatedAt).isSome
  onePage : ∀ a ∈ decisions, ∀ b ∈ decisions, a.candidate.pageRevision = b.candidate.pageRevision
  consistent : taskDuplicateDecisionsAreConsistent dedupeKey [] decisions

/-- The constructor; `none` when it rejects. -/
def DouyinCandidateEvaluation.make (decisions : List DouyinCandidateDecision)
    (evaluatedAt : Time) : Option (DouyinCandidateEvaluation dedupeKey) :=
  if h : decisions.length ≤ maxTaskTargetLimit ∧ (historyCutoff evaluatedAt).isSome ∧
      (∀ a ∈ decisions, ∀ b ∈ decisions,
        a.candidate.pageRevision = b.candidate.pageRevision) ∧
      taskDuplicateDecisionsAreConsistent dedupeKey [] decisions then
    some ⟨decisions, evaluatedAt, h.1, h.2.1, h.2.2.1, h.2.2.2⟩
  else none

/-- The decision about a key, given those before it on the page. -/
def dispositionOf (blacklisted recentHistory taskSeen : List κ) (key : κ) :
    DouyinCandidateDisposition :=
  if key ∈ blacklisted then .blacklisted
  else if key ∈ taskSeen then .duplicateInTask
  else if key ∈ recentHistory then .duplicateInHistory
  else .eligible

/-- The loop over the candidates.
mirrors douyin_candidate_policy.py:176-189 -/
def decideInTurn (blacklisted recentHistory : List κ) :
    List κ → List DouyinCandidate → List DouyinCandidateDecision
  | _, [] => []
  | taskSeen, value :: candidates =>
    let key := dedupeKey value
    ⟨value, dispositionOf blacklisted recentHistory taskSeen key⟩ ::
      decideInTurn blacklisted recentHistory (key :: taskSeen) candidates

/-- The input is bounded and consistent.
mirrors douyin_candidate_policy.py:148-168 -/
@[mk_iff] structure Admissible (candidates : List DouyinCandidate) (histories : List (HistoryFact κ))
    (blacklist : List κ) (evaluatedAt : Time) : Prop where
  candidates_le : candidates.length ≤ maxTaskTargetLimit
  onePage : ∀ a ∈ candidates, ∀ b ∈ candidates, a.pageRevision = b.pageRevision
  histories_le : histories.length ≤ maxTaskTargetLimit
  blacklist_le : blacklist.length ≤ maxTaskTargetLimit
  cutoff : (historyCutoff evaluatedAt).isSome
  histories_nodup : (histories.map HistoryFact.dedupeKey).Nodup
  blacklist_nodup : blacklist.Nodup
  observed : ∀ h ∈ histories, h.observedAt ≤ evaluatedAt

instance (candidates : List DouyinCandidate) (histories : List (HistoryFact κ))
    (blacklist : List κ) (evaluatedAt : Time) :
    Decidable (Admissible candidates histories blacklist evaluatedAt) :=
  decidable_of_iff _ (admissible_iff candidates histories blacklist evaluatedAt).symm

/-- The keys seen in the window, whose ends belong to it. -/
def recentHistory (histories : List (HistoryFact κ)) (cutoff evaluatedAt : Time) : List κ :=
  (histories.filter fun h => cutoff ≤ h.observedAt ∧ h.observedAt ≤ evaluatedAt).map
    HistoryFact.dedupeKey

/-- mirrors douyin_candidate_policy.py:137-193 -/
def evaluate (candidates : List DouyinCandidate) (histories : List (HistoryFact κ))
    (blacklist : List κ) (evaluatedAt : Time) : Option (DouyinCandidateEvaluation dedupeKey) :=
  match historyCutoff evaluatedAt with
  | none => none
  | some cutoff =>
    if Admissible candidates histories blacklist evaluatedAt then
      DouyinCandidateEvaluation.make dedupeKey (decideInTurn dedupeKey blacklist
        (recentHistory histories cutoff evaluatedAt) [] candidates) evaluatedAt
    else none

end

/-! ## The decisions -/

section

variable {dedupeKey : DouyinCandidate → κ} {blacklisted recent : List κ}

theorem decideInTurn_candidates (taskSeen : List κ) (candidates : List DouyinCandidate) :
    (decideInTurn dedupeKey blacklisted recent taskSeen candidates).map (·.candidate) =
      candidates := by
  induction candidates generalizing taskSeen with
  | nil => rfl
  | cons value candidates ih => simp [decideInTurn, ih]

/-- The decision about each candidate depends on the keys before it. -/
theorem decideInTurn_getElem? {candidates : List DouyinCandidate} {taskSeen : List κ} {i : Nat}
    {decision : DouyinCandidateDecision}
    (h : (decideInTurn dedupeKey blacklisted recent taskSeen candidates)[i]? = some decision) :
    ∃ value, candidates[i]? = some value ∧ ∃ earlier,
      (∀ key, key ∈ earlier ↔ key ∈ taskSeen ∨ key ∈ (candidates.take i).map dedupeKey) ∧
      decision = ⟨value, dispositionOf blacklisted recent earlier (dedupeKey value)⟩ := by
  induction candidates generalizing taskSeen i with
  | nil => cases h
  | cons value candidates ih =>
    cases i with
    | zero =>
      cases h
      exact ⟨value, rfl, taskSeen, fun key => by simp, rfl⟩
    | succ i =>
      obtain ⟨v, hv, earlier, hearlier, rfl⟩ := ih h
      refine ⟨v, hv, earlier, fun key => ?_, rfl⟩
      rw [hearlier, List.take_succ_cons, List.map_cons, List.mem_cons, List.mem_cons]
      constructor
      · rintro ((h | h) | h)
        · exact .inr (.inl h)
        · exact .inl h
        · exact .inr (.inr h)
      · rintro (h | h | h)
        · exact .inl (.inr h)
        · exact .inl (.inl h)
        · exact .inr h

/-- The check of the result agrees with the loop. -/
theorem decideInTurn_consistent (taskSeen : List κ) (candidates : List DouyinCandidate) :
    taskDuplicateDecisionsAreConsistent dedupeKey taskSeen
      (decideInTurn dedupeKey blacklisted recent taskSeen candidates) = true := by
  induction candidates generalizing taskSeen with
  | nil => rfl
  | cons value candidates ih =>
    simp only [decideInTurn, taskDuplicateDecisionsAreConsistent, ih]
    unfold dispositionOf
    by_cases hblack : dedupeKey value ∈ blacklisted
    · simp [hblack]
    · by_cases hseen : dedupeKey value ∈ taskSeen
      · simp [hblack, hseen]
      · by_cases hrecent : dedupeKey value ∈ recent
        · simp [hblack, hseen, hrecent]
        · simp [hblack, hseen, hrecent]

theorem onePage_of_map {decisions : List DouyinCandidateDecision}
    {candidates : List DouyinCandidate} (hmap : decisions.map (·.candidate) = candidates)
    (h : ∀ a ∈ candidates, ∀ b ∈ candidates, a.pageRevision = b.pageRevision) :
    ∀ a ∈ decisions, ∀ b ∈ decisions, a.candidate.pageRevision = b.candidate.pageRevision := by
  subst hmap
  exact fun a ha b hb => h _ (List.mem_map_of_mem ha) _ (List.mem_map_of_mem hb)

variable (dedupeKey blacklisted recent) in
/-- The constructor takes what the loop has decided. -/
theorem make_decideInTurn {candidates : List DouyinCandidate} {evaluatedAt : Time}
    (hbounded : candidates.length ≤ maxTaskTargetLimit)
    (hcutoff : (historyCutoff evaluatedAt).isSome)
    (hpage : ∀ a ∈ candidates, ∀ b ∈ candidates, a.pageRevision = b.pageRevision) :
    ∃ evaluation, DouyinCandidateEvaluation.make dedupeKey
        (decideInTurn dedupeKey blacklisted recent [] candidates) evaluatedAt = some evaluation ∧
      evaluation.decisions = decideInTurn dedupeKey blacklisted recent [] candidates := by
  have hmap : (decideInTurn dedupeKey blacklisted recent [] candidates).map (·.candidate) =
      candidates := decideInTurn_candidates [] candidates
  have hlength : (decideInTurn dedupeKey blacklisted recent [] candidates).length ≤
      maxTaskTargetLimit := by
    rw [← List.length_map (·.candidate), hmap]
    exact hbounded
  refine ⟨⟨_, evaluatedAt, hlength, hcutoff, onePage_of_map hmap hpage,
    decideInTurn_consistent [] candidates⟩, ?_, rfl⟩
  exact dif_pos ⟨hlength, hcutoff, onePage_of_map hmap hpage, decideInTurn_consistent [] candidates⟩

variable (dedupeKey) in
/-- An evaluation of an admissible input is not refused. -/
theorem evaluate_of_admissible {candidates : List DouyinCandidate}
    {histories : List (HistoryFact κ)} {blacklist : List κ} {evaluatedAt : Time}
    (h : Admissible candidates histories blacklist evaluatedAt) :
    ∃ cutoff evaluation, historyCutoff evaluatedAt = some cutoff ∧
      evaluate dedupeKey candidates histories blacklist evaluatedAt = some evaluation ∧
      evaluation.decisions = decideInTurn dedupeKey blacklist
        (recentHistory histories cutoff evaluatedAt) [] candidates := by
  obtain ⟨cutoff, hcutoff⟩ := Option.isSome_iff_exists.1 h.cutoff
  obtain ⟨evaluation, hmake, hdecisions⟩ := make_decideInTurn dedupeKey blacklist
    (recentHistory histories cutoff evaluatedAt) h.candidates_le h.cutoff h.onePage
  refine ⟨cutoff, evaluation, hcutoff, ?_, hdecisions⟩
  unfold evaluate
  simp only [hcutoff, if_pos h]
  exact hmake

end

/-! ## What is documented -/

section

variable (dedupeKey : DouyinCandidate → κ) (candidates : List DouyinCandidate)
  (histories : List (HistoryFact κ)) (blacklist : List κ) (evaluatedAt : Time)

/-- `blacklisted > duplicate_in_task > duplicate_in_history > eligible`.
mirrors backend/README.md:198 -/
def priority : DouyinCandidateDisposition → Nat
  | .blacklisted => 3
  | .duplicateInTask => 2
  | .duplicateInHistory => 1
  | .eligible => 0

/-- The disposition applies to the candidate at `i`. -/
def Applies (i : Nat) (value : DouyinCandidate) : DouyinCandidateDisposition → Prop
  | .blacklisted => dedupeKey value ∈ blacklist
  | .duplicateInTask =>
    ∃ j < i, ∃ earlier, candidates[j]? = some earlier ∧ dedupeKey earlier = dedupeKey value
  | .duplicateInHistory =>
    ∃ h ∈ histories, h.dedupeKey = dedupeKey value ∧
      evaluatedAt ≤ h.observedAt + douyinCandidateHistoryWindow
  | .eligible => True

/-- The disposition of the highest priority among those that apply. -/
def Prevails (i : Nat) (value : DouyinCandidate) (d : DouyinCandidateDisposition) : Prop :=
  Applies dedupeKey candidates histories blacklist evaluatedAt i value d ∧
    ∀ d', Applies dedupeKey candidates histories blacklist evaluatedAt i value d' →
      priority d' ≤ priority d

/-- What an evaluation of the input says. -/
structure Settles (decisions : List DouyinCandidateDecision) : Prop where
  inOrder : decisions.map (·.candidate) = candidates
  reason : ∀ i d, decisions[i]? = some d →
    Prevails dedupeKey candidates histories blacklist evaluatedAt i d.candidate d.disposition
  /-- The eligible occurrence of a key is its first, so there is at most one. -/
  first : ∀ (i j : Nat) (d e : DouyinCandidateDecision), decisions[i]? = some d →
    decisions[j]? = some e → dedupeKey d.candidate = dedupeKey e.candidate →
    d.disposition = .eligible → i ≤ j ∧ (e.disposition = .eligible → i = j)

end

section

variable {dedupeKey : DouyinCandidate → κ} {candidates : List DouyinCandidate}
  {histories : List (HistoryFact κ)} {blacklist : List κ} {evaluatedAt : Time}

omit [DecidableEq κ] in
theorem mem_recentHistory {cutoff : Time} {key : κ} (hcutoff : historyCutoff evaluatedAt = some cutoff)
    (hobserved : ∀ h ∈ histories, h.observedAt ≤ evaluatedAt) :
    key ∈ recentHistory histories cutoff evaluatedAt ↔
      ∃ h ∈ histories, h.dedupeKey = key ∧
        evaluatedAt ≤ h.observedAt + douyinCandidateHistoryWindow := by
  obtain ⟨-, hsub⟩ := historyCutoff_eq_some.1 hcutoff
  unfold recentHistory
  rw [List.mem_map]
  constructor
  · rintro ⟨h, hmem, rfl⟩
    obtain ⟨hin, hrecent⟩ := List.mem_filter.1 hmem
    have hle := (of_decide_eq_true hrecent).1
    rw [hsub] at hle
    exact ⟨h, hin, rfl, Nat.sub_le_iff_le_add.1 hle⟩
  · rintro ⟨h, hin, rfl, hle⟩
    refine ⟨h, List.mem_filter.2 ⟨hin, decide_eq_true ⟨?_, hobserved h hin⟩⟩, rfl⟩
    rw [hsub]
    exact Nat.sub_le_iff_le_add.2 hle

/-- The branch taken is the reason that prevails. -/
theorem prevails_dispositionOf {i : Nat} {value : DouyinCandidate} {recent earlier : List κ}
    (hrecent : dedupeKey value ∈ recent ↔ ∃ h ∈ histories, h.dedupeKey = dedupeKey value ∧
      evaluatedAt ≤ h.observedAt + douyinCandidateHistoryWindow)
    (hearlier : dedupeKey value ∈ earlier ↔
      ∃ j < i, ∃ e, candidates[j]? = some e ∧ dedupeKey e = dedupeKey value) :
    Prevails dedupeKey candidates histories blacklist evaluatedAt i value
      (dispositionOf blacklist recent earlier (dedupeKey value)) := by
  unfold dispositionOf
  split
  · rename_i hblack
    exact ⟨hblack, fun d' _ => by cases d' <;> decide⟩
  · rename_i hblack
    split
    · rename_i hseen
      refine ⟨hearlier.1 hseen, fun d' hd' => ?_⟩
      cases d' with
      | blacklisted => exact absurd hd' hblack
      | eligible | duplicateInTask | duplicateInHistory => decide
    · rename_i hseen
      split
      · rename_i hin
        refine ⟨hrecent.1 hin, fun d' hd' => ?_⟩
        cases d' with
        | blacklisted => exact absurd hd' hblack
        | duplicateInTask => exact absurd (hearlier.2 hd') hseen
        | eligible | duplicateInHistory => decide
      · rename_i hin
        refine ⟨trivial, fun d' hd' => ?_⟩
        cases d' with
        | blacklisted => exact absurd hd' hblack
        | duplicateInTask => exact absurd (hearlier.2 hd') hseen
        | duplicateInHistory => exact absurd (hrecent.2 hd') hin
        | eligible => decide

omit [DecidableEq κ] in
/-- An occurrence that is eligible has none before it. -/
theorem Prevails.first {i j : Nat} {value other : DouyinCandidate}
    (h : Prevails dedupeKey candidates histories blacklist evaluatedAt i value .eligible)
    (hj : candidates[j]? = some other) (hkey : dedupeKey value = dedupeKey other) : i ≤ j := by
  by_contra hlt
  exact absurd (h.2 .duplicateInTask ⟨j, Nat.lt_of_not_le hlt, other, hj, hkey.symm⟩) (by decide)

theorem decisions_getElem? {decisions : List DouyinCandidateDecision} {i : Nat}
    {d : DouyinCandidateDecision} (hmap : decisions.map (·.candidate) = candidates)
    (h : decisions[i]? = some d) : candidates[i]? = some d.candidate := by
  rw [← hmap, List.getElem?_map, h]
  rfl

theorem settles_decideInTurn {cutoff : Time} (hcutoff : historyCutoff evaluatedAt = some cutoff)
    (hobserved : ∀ h ∈ histories, h.observedAt ≤ evaluatedAt) :
    Settles dedupeKey candidates histories blacklist evaluatedAt (decideInTurn dedupeKey blacklist
      (recentHistory histories cutoff evaluatedAt) [] candidates) := by
  have hreason : ∀ (i : Nat) (d : DouyinCandidateDecision), (decideInTurn dedupeKey blacklist
      (recentHistory histories cutoff evaluatedAt) [] candidates)[i]? = some d →
      Prevails dedupeKey candidates histories blacklist evaluatedAt i d.candidate
        d.disposition := by
    intro i d hd
    obtain ⟨value, hvalue, earlier, hearlier, rfl⟩ := decideInTurn_getElem? hd
    refine prevails_dispositionOf (mem_recentHistory hcutoff hobserved) ?_
    rw [hearlier, List.mem_map]
    constructor
    · rintro (hnil | ⟨e, he, hkey⟩)
      · cases hnil
      · obtain ⟨j, hj⟩ := List.mem_iff_getElem?.1 he
        rw [List.getElem?_take] at hj
        split at hj
        · rename_i hlt
          exact ⟨j, hlt, e, hj, hkey⟩
        · cases hj
    · rintro ⟨j, hlt, e, hj, hkey⟩
      refine .inr ⟨e, List.mem_iff_getElem?.2 ⟨j, ?_⟩, hkey⟩
      rw [List.getElem?_take, if_pos hlt]
      exact hj
  refine ⟨decideInTurn_candidates [] candidates, hreason, fun i j d e hd he hkey heligible => ?_⟩
  have hi := hreason i d hd
  have hcandidate := decisions_getElem? (decideInTurn_candidates [] candidates) he
  rw [heligible] at hi
  refine ⟨hi.first hcandidate hkey, fun hother => ?_⟩
  have hj := hreason j e he
  rw [hother] at hj
  exact Nat.le_antisymm (hi.first hcandidate hkey)
    (hj.first (decisions_getElem? (decideInTurn_candidates [] candidates) hd) hkey.symm)

/-- **The candidate policy.** For every input: it is refused exactly when it is not
admissible, so the result takes all decisions; these are about the candidates in their
order, with the reason of the highest priority each, and a key is eligible at its first
occurrence or nowhere. -/
theorem evaluate_spec (dedupeKey : DouyinCandidate → κ) (candidates : List DouyinCandidate)
    (histories : List (HistoryFact κ)) (blacklist : List κ) (evaluatedAt : Time) :
    match evaluate dedupeKey candidates histories blacklist evaluatedAt with
    | none => ¬Admissible candidates histories blacklist evaluatedAt
    | some evaluation => Admissible candidates histories blacklist evaluatedAt ∧
      Settles dedupeKey candidates histories blacklist evaluatedAt evaluation.decisions := by
  by_cases h : Admissible candidates histories blacklist evaluatedAt
  · obtain ⟨cutoff, evaluation, hcutoff, heq, hdecisions⟩ :=
      evaluate_of_admissible dedupeKey h
    rw [heq]
    refine ⟨h, ?_⟩
    rw [hdecisions]
    exact settles_decideInTurn hcutoff h.observed
  · have hnone : evaluate dedupeKey candidates histories blacklist evaluatedAt = none := by
      unfold evaluate
      split
      · rfl
      · rw [if_neg h]
    rw [hnone]
    exact h

end

/-! ## The policy behind the previews -/

def HistoryFact.of (h : DouyinCandidateHistoryFact) : HistoryFact DouyinCandidateKey :=
  ⟨h.dedupeKey, h.observedAt⟩

theorem classify_eq (recent blacklist seen : List DouyinCandidateKey)
    (candidates : List DouyinCandidate) : classify recent blacklist seen candidates =
      decideInTurn dedupeKey blacklist recent seen candidates := by
  induction candidates generalizing seen with
  | nil => rfl
  | cons value candidates ih =>
    simp only [classify, decideInTurn, ih]
    rfl

/-- Where the window has a beginning, the previews are built from the decisions of this
policy. -/
theorem evaluateDouyinCandidates_eq (candidates : List DouyinCandidate)
    (histories : List DouyinCandidateHistoryFact) (blacklist : List DouyinCandidateKey)
    {evaluatedAt : Time} (h : douyinCandidateHistoryWindow ≤ evaluatedAt) :
    evaluateDouyinCandidates candidates histories blacklist evaluatedAt =
      (evaluate dedupeKey candidates (histories.map .of) blacklist evaluatedAt).map
        (·.decisions) := by
  have hcutoff := historyCutoff_eq_some.2 ⟨h, rfl⟩
  have hinput : Admissible candidates (histories.map .of) blacklist evaluatedAt ↔
      policyInput candidates histories blacklist evaluatedAt := by
    rw [admissible_iff, hcutoff]
    unfold policyInput
    simp only [List.length_map, List.map_map, List.forall_mem_map, Option.isSome_some, true_and]
    exact Iff.rfl
  by_cases hadmissible : Admissible candidates (histories.map .of) blacklist evaluatedAt
  · obtain ⟨cutoff, evaluation, hc, heq, hdecisions⟩ := evaluate_of_admissible dedupeKey hadmissible
    have hsub := (historyCutoff_eq_some.1 hc).2
    have hrecent : recentHistory (histories.map .of) cutoff evaluatedAt =
        (histories.filter fun h => evaluatedAt ≤ h.observedAt + douyinCandidateHistoryWindow).map
          DouyinCandidateHistoryFact.dedupeKey := by
      unfold recentHistory
      rw [List.filter_map, List.map_map]
      congr 1
      refine List.filter_congr fun x hx => ?_
      have hpast := (hinput.1 hadmissible).2.2.2.2.2.2 x hx
      refine decide_eq_decide.2 ⟨fun hx => ?_, fun hle => ⟨?_, hpast⟩⟩
      · have hle := hx.1
        rw [hsub] at hle
        exact Nat.sub_le_iff_le_add.1 hle
      · rw [hsub]
        exact Nat.sub_le_iff_le_add.2 hle
    unfold evaluateDouyinCandidates
    rw [heq, Option.map_some, hdecisions, hrecent]
    simp only [hinput.1 hadmissible, classify_eq]
    rfl
  · have hnone : evaluate dedupeKey candidates (histories.map .of) blacklist evaluatedAt = none := by
      unfold evaluate
      simp only [hcutoff, if_neg hadmissible]
    unfold evaluateDouyinCandidates
    rw [hnone]
    rw [guard, if_neg fun hp => hadmissible (hinput.2 hp)]
    rfl

end AutomationTool.ControlPlane.CandidatePolicy
