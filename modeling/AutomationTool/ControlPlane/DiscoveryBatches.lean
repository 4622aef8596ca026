import AutomationTool.Core.LTS
import AutomationTool.Core.Table
import AutomationTool.ControlPlane.TaskDiscovery

/-!
# The accumulator of candidate batches

The control plane's `TaskDiscoveryBatchAccumulator` keeps the candidate batches it accepted
in memory, per attempt, and hands the list out when the final report comes.

* `add_eq_some`: an accepted batch changes the state of its own attempt alone.
* `Assembled`: what a list handed out is made of, whatever was delivered.
* `Recorded.refuses`: a batch altered after it was accepted is refused.
-/
namespace AutomationTool.ControlPlane.TaskDiscovery

open Protocol TaskDiscoveryRepository

/-- A `TaskDiscoveryBatchEnvelope`. -/
structure DiscoveryBatch where
  message : Outbound
  payload : DouyinDiscoveryBatchPayload
  body_eq : message.body = .discoveryBatch payload

/-- `_attempt_key`.
mirrors application/task_discovery.py:207-215 -/
structure AttemptKey where
  installationId : InstallationId
  taskId : TaskId
  executionAttemptId : ExecutionAttemptId
  pageRevision : Nat
  deriving DecidableEq

def attemptKey (m : Outbound) (pageRevision : Nat) : AttemptKey :=
  ⟨m.installationId, m.taskId, m.executionAttemptId, pageRevision⟩

def DiscoveryBatch.key (b : DiscoveryBatch) : AttemptKey :=
  attemptKey b.message b.payload.pageRevision

def reportKey (r : DiscoveryReport) : AttemptKey := attemptKey r.message r.payload.pageRevision

/-- One entry of `batches` and of `fingerprints`. -/
structure AcceptedBatch where
  fingerprint : OutboundIntent
  candidates : List DouyinCandidate

def DiscoveryBatch.accepted (b : DiscoveryBatch) : AcceptedBatch :=
  ⟨outboundIntent b.message, b.payload.candidates⟩

/-- `_AccumulatedBatches` under its key. The two dicts are keyed 1, 2, …: a batch is only
added behind the last one. -/
structure AccumulatedBatches where
  key : AttemptKey
  batchCount : Nat
  batches : List AcceptedBatch

instance : Row AccumulatedBatches where
  apart a b := a.key ≠ b.key
  symm h := h.symm
  irrefl _ h := h rfl
  dec _ _ := inferInstance

/-- `fingerprints.get(batch_index)`. -/
def AccumulatedBatches.batch? (s : AccumulatedBatches) : Nat → Option AcceptedBatch
  | 0 => none
  | i + 1 => s.batches[i]?

/-- The checks `add` makes once the attempt has a state. -/
def AccumulatedBatches.record (b : DiscoveryBatch) (s : AccumulatedBatches) :
    Option AccumulatedBatches :=
  if s.batchCount ≠ b.payload.batchCount then none
  else
    match s.batch? b.payload.batchIndex with
    | some existing => if existing.fingerprint ≠ outboundIntent b.message then none else some s
    | none =>
      if b.payload.batchIndex ≠ s.batches.length + 1 then none
      else some { s with batches := s.batches ++ [b.accepted] }

theorem keepsKeys_batches (bs : List AcceptedBatch) :
    Table.KeepsKeys fun s : AccumulatedBatches => { s with batches := bs } := fun _ _ => Iff.rfl

structure TaskDiscoveryBatchAccumulator where
  maximumAttempts : Nat
  states : Table AccumulatedBatches
  maximum_pos : 1 ≤ maximumAttempts := by decide
  maximum_le : maximumAttempts ≤ 256 := by decide

/-- `_MAX_ACCUMULATED_ATTEMPTS`. -/
def maxAccumulatedAttempts : Nat := 32

namespace TaskDiscoveryBatchAccumulator

/-- The accumulator of a new process. -/
def empty : TaskDiscoveryBatchAccumulator := { maximumAttempts := 32, states := .empty }

/-- The accumulator, emptied. -/
def emptied (acc : TaskDiscoveryBatchAccumulator) : TaskDiscoveryBatchAccumulator :=
  { acc with states := .empty }

def state? (acc : TaskDiscoveryBatchAccumulator) (k : AttemptKey) : Option AccumulatedBatches :=
  acc.states.find? fun s => s.key = k

/-- mirrors application/task_discovery.py:241-271 -/
def add (b : DiscoveryBatch) (acc : TaskDiscoveryBatchAccumulator) :
    Option TaskDiscoveryBatchAccumulator :=
  match acc.state? b.key with
  | none =>
    if acc.maximumAttempts ≤ acc.states.rows.length ∨ b.payload.batchIndex ≠ 1 then none
    else do
      let s ← AccumulatedBatches.record b ⟨b.key, b.payload.batchCount, []⟩
      let states ← acc.states.insert? s
      some { acc with states }
  | some s => do
    let s' ← s.record b
    some { acc with
      states := acc.states.updateWhere (fun r => r.key = b.key)
        (fun r => { r with batches := s'.batches }) (keepsKeys_batches _) }

/-- `none` is `TaskDiscoveryRejected`, `some none` a report without candidates.
mirrors application/task_discovery.py:273-298 -/
def complete (r : DiscoveryReport) (acc : TaskDiscoveryBatchAccumulator) :
    Option (Option (List DouyinCandidate)) :=
  if r.payload.outcome ≠ .completed then
    if (acc.state? (reportKey r)).isSome then none else some none
  else
    match acc.state? (reportKey r) with
    | none => none
    | some s =>
      if s.batchCount ≠ r.payload.batchCount ∨ s.batches.length ≠ s.batchCount then none
      else
        if (s.batches.flatMap (·.candidates)).length ≠ r.payload.candidateCount then none
        else some (some (s.batches.flatMap (·.candidates)))

/-- mirrors application/task_discovery.py:300-301 -/
def clear (r : DiscoveryReport) (acc : TaskDiscoveryBatchAccumulator) :
    TaskDiscoveryBatchAccumulator :=
  { acc with states := acc.states.deleteWhere fun s => s.key = reportKey r }

/-! ## Its states -/

variable {acc acc' : TaskDiscoveryBatchAccumulator} {k : AttemptKey}

theorem state?_eq_some {s : AccumulatedBatches} :
    acc.state? k = some s ↔ s ∈ acc.states ∧ s.key = k := by
  have hsel : Table.Selects (ρ := AccumulatedBatches) fun s => s.key = k := by
    intro a b ha hb hab
    rw [decide_eq_true_eq] at ha hb
    exact hab (ha.trans hb.symm)
  rw [state?, Table.find?_eq_some_iff hsel, decide_eq_true_eq]

theorem state?_eq_none : acc.state? k = none ↔ ∀ s ∈ acc.states, s.key ≠ k := by
  simp [state?, Table.find?_eq_none]

/-- What a batch meets: the state of its attempt, or a new one. -/
def current (acc : TaskDiscoveryBatchAccumulator) (b : DiscoveryBatch) : AccumulatedBatches :=
  (acc.state? b.key).getD ⟨b.key, b.payload.batchCount, []⟩

theorem record_key {b : DiscoveryBatch} {s s' : AccumulatedBatches}
    (h : s.record b = some s') : s'.key = s.key ∧ s'.batchCount = s.batchCount := by
  unfold AccumulatedBatches.record at h
  split at h
  · cases h
  · split at h
    · split at h
      · cases h
      · cases h
        exact ⟨rfl, rfl⟩
    · split at h
      · cases h
      · cases h
        exact ⟨rfl, rfl⟩

theorem find?_keep (t : Table AccumulatedBatches) (bs : List AcceptedBatch) (k₀ : AttemptKey) :
    (t.updateWhere (fun r => r.key = k₀) (fun r => { r with batches := bs })
        (keepsKeys_batches bs)).find? (fun s => s.key = k) =
      (t.find? fun s => s.key = k).map fun r =>
        if decide (r.key = k₀) then { r with batches := bs } else r :=
  Table.find?_updateWhere (keepsKeys_batches bs) fun _ => rfl

/-- An accepted batch changes the state of its own attempt alone. -/
theorem add_eq_some {b : DiscoveryBatch} (h : acc.add b = some acc') :
    ∃ s', (acc.current b).record b = some s' ∧ acc'.state? b.key = some s' ∧
      (∀ k, k ≠ b.key → acc'.state? k = acc.state? k) ∧
      acc'.maximumAttempts = acc.maximumAttempts := by
  unfold add at h
  unfold current
  cases hs : acc.state? b.key with
  | none =>
    rw [hs] at h
    dsimp only at h
    split at h
    · cases h
    · obtain ⟨s', hrec, h⟩ := Option.bind_eq_some_iff.1 h
      obtain ⟨states, hins, h⟩ := Option.bind_eq_some_iff.1 h
      cases h
      have hkey : s'.key = b.key := (record_key hrec).1
      refine ⟨s', hrec, state?_eq_some.2 ⟨(Table.mem_insert? hins).2 (.inr rfl), hkey⟩, ?_, rfl⟩
      intro k hk
      show states.find? _ = _
      rw [Table.find?_insert? hins, if_neg (by simp [hkey, Ne.symm hk]), Option.or_none]
      rfl
  | some s =>
    rw [hs] at h
    obtain ⟨s', hrec, h⟩ := Option.bind_eq_some_iff.1 h
    cases h
    obtain ⟨hmem, hkey⟩ := state?_eq_some.1 hs
    obtain ⟨hkey', hcount⟩ := record_key hrec
    have hsame : ({ s with batches := s'.batches } : AccumulatedBatches) = s' := by
      cases s'
      cases s
      simp_all
    refine ⟨s', hrec, ?_, fun k hk => ?_, rfl⟩
    · refine (find?_keep _ _ _).trans ?_
      show (acc.state? b.key).map _ = _
      rw [hs, Option.map_some, if_pos (by simpa using hkey), hsame]
    · refine (find?_keep _ _ _).trans ?_
      show (acc.state? k).map _ = acc.state? k
      cases hk' : acc.state? k with
      | none => rfl
      | some x =>
        have hx := (state?_eq_some.1 hk').2
        rw [Option.map_some, if_neg (by simpa [hx] using hk)]

/-- A batch is accepted when its attempt may keep it, and has a state or finds room. -/
theorem add_isSome {b : DiscoveryBatch} {s' : AccumulatedBatches}
    (hrec : (acc.current b).record b = some s')
    (hroom : (acc.state? b.key).isSome ∨
      acc.states.rows.length < acc.maximumAttempts ∧ b.payload.batchIndex = 1) :
    (acc.add b).isSome := by
  unfold add
  unfold current at hrec
  cases hs : acc.state? b.key with
  | none =>
    rw [hs] at hrec hroom
    obtain ⟨hlt, hone⟩ := hroom.resolve_left (by simp)
    have hkey : s'.key = b.key := (record_key hrec).1
    have hfresh : ∀ r ∈ acc.states, Row.apart r s' := by
      intro r hr hrk
      exact state?_eq_none.1 hs r hr (hrk.trans hkey)
    obtain ⟨states, hins⟩ := Option.isSome_iff_exists.1 (Table.insert?_isSome hfresh)
    dsimp only
    rw [if_neg (by omega)]
    rw [Option.getD_none] at hrec
    simp [hrec, hins]
  | some s =>
    rw [hs, Option.getD_some] at hrec
    simp [hrec]

@[simp] theorem state?_clear (r : DiscoveryReport) :
    (acc.clear r).state? k = if k = reportKey r then none else acc.state? k := by
  by_cases hk : k = reportKey r
  · rw [if_pos hk, state?_eq_none]
    intro s hs hsk
    have hkeep := (Table.mem_deleteWhere.1 hs).2
    rw [decide_eq_false_iff_not] at hkeep
    exact hkeep (hsk.trans hk)
  · rw [if_neg hk]
    cases hs : acc.state? k with
    | none =>
      rw [state?_eq_none] at hs ⊢
      exact fun s hmem => hs s (Table.mem_deleteWhere.1 hmem).1
    | some s =>
      obtain ⟨hmem, hsk⟩ := state?_eq_some.1 hs
      refine state?_eq_some.2 ⟨Table.mem_deleteWhere.2 ⟨hmem, ?_⟩, hsk⟩
      simpa [hsk] using hk

end TaskDiscoveryBatchAccumulator

section

open TaskDiscoveryBatchAccumulator

variable {k : AttemptKey} {bs : List DiscoveryBatch} {acc acc' : TaskDiscoveryBatchAccumulator}
  {r : DiscoveryReport}

/-- The batches are numbered from one, all of one attempt. -/
def Numbered (k : AttemptKey) (bs : List DiscoveryBatch) : Prop :=
  (∀ b ∈ bs, b.key = k) ∧ ∀ (j : Nat) b, bs[j]? = some b →
    b.payload.batchIndex = j + 1 ∧ b.payload.batchCount = bs.length

/-! ## Any trace -/

inductive BatchEvent where
  | batch (b : DiscoveryBatch)
  | clear (r : DiscoveryReport)

/-- A refused batch changes nothing. -/
def receive (acc : TaskDiscoveryBatchAccumulator) : BatchEvent → TaskDiscoveryBatchAccumulator
  | .batch b => (acc.add b).getD acc
  | .clear r => acc.clear r

/-- The batches delivered since the attempt was last cleared. -/
def gather (k : AttemptKey) (bs : List DiscoveryBatch) : BatchEvent → List DiscoveryBatch
  | .batch b => bs ++ [b]
  | .clear r => if reportKey r = k then [] else bs

def since (k : AttemptKey) (es : List BatchEvent) : List DiscoveryBatch := es.foldl (gather k) []

/-- The state of the attempt is made of batches among `bs`. -/
def Backed (k : AttemptKey) (bs : List DiscoveryBatch) (acc : TaskDiscoveryBatchAccumulator) :
    Prop :=
  ∀ s, acc.state? k = some s → ∃ picked : List DiscoveryBatch, picked.Sublist bs ∧
    s.batches = picked.map (·.accepted) ∧ ∀ (j : Nat) b, picked[j]? = some b →
      b.key = k ∧ b.payload.batchIndex = j + 1 ∧ b.payload.batchCount = s.batchCount

/-- A new batch is recorded behind the others, a repeated one is not. -/
theorem record_eq_some {b : DiscoveryBatch} {s s' : AccumulatedBatches}
    (h : s.record b = some s') :
    b.payload.batchCount = s.batchCount ∧ ((s' = s ∧ ∃ x, s.batch? b.payload.batchIndex = some x ∧
        x.fingerprint = outboundIntent b.message) ∨
      s' = { s with batches := s.batches ++ [b.accepted] } ∧
        b.payload.batchIndex = s.batches.length + 1) := by
  unfold AccumulatedBatches.record at h
  split at h
  · cases h
  · rename_i hcount
    refine ⟨(Classical.not_not.1 hcount).symm, ?_⟩
    split at h
    · rename_i x hx
      split at h
      · cases h
      · rename_i hsame
        cases h
        exact .inl ⟨rfl, x, hx, Classical.not_not.1 hsame⟩
    · split at h
      · cases h
      · rename_i hindex
        cases h
        exact .inr ⟨rfl, Classical.not_not.1 hindex⟩

theorem Backed.receive (h : Backed k bs acc) (e : BatchEvent) :
    Backed k (gather k bs e) (receive acc e) := by
  cases e with
  | clear r =>
    intro s hs
    change (acc.clear r).state? k = some s at hs
    rw [state?_clear] at hs
    by_cases hk : k = reportKey r
    · rw [if_pos hk] at hs
      cases hs
    · rw [if_neg hk] at hs
      show ∃ picked : List DiscoveryBatch,
        picked.Sublist (if reportKey r = k then [] else bs) ∧ _
      rw [if_neg (Ne.symm hk)]
      exact h s hs
  | batch b =>
    intro s hs
    change ((acc.add b).getD acc).state? k = some s at hs
    cases hadd : acc.add b with
    | none =>
      rw [hadd] at hs
      obtain ⟨picked, hsub, hp⟩ := h s hs
      exact ⟨picked, hsub.trans (List.sublist_append_left bs [b]), hp⟩
    | some acc' =>
      rw [hadd, Option.getD_some] at hs
      obtain ⟨s', hrec, hs', hother, -⟩ := add_eq_some hadd
      by_cases hk : b.key = k
      · subst hk
        rw [hs'] at hs
        cases hs
        -- the batches the state had before
        have hold : ∃ picked : List DiscoveryBatch, picked.Sublist bs ∧
            (acc.current b).batches = picked.map (·.accepted) ∧
            ∀ (j : Nat) x, picked[j]? = some x → x.key = b.key ∧ x.payload.batchIndex = j + 1 ∧
              x.payload.batchCount = (acc.current b).batchCount := by
          unfold current
          cases hcur : acc.state? b.key with
          | none => exact ⟨[], List.nil_sublist _, rfl, fun j x hx => by simp at hx⟩
          | some s₀ => exact h s₀ hcur
        obtain ⟨picked, hsub, hmap, hall⟩ := hold
        obtain ⟨hcount, ⟨rfl, -⟩ | ⟨rfl, hindex⟩⟩ := record_eq_some hrec
        · exact ⟨picked, hsub.trans (List.sublist_append_left bs [b]), hmap, hall⟩
        · refine ⟨picked ++ [b], hsub.append (List.Sublist.refl [b]), ?_, fun j x hx => ?_⟩
          · rw [List.map_append, ← hmap]
            rfl
          · rcases Nat.lt_or_ge j picked.length with hj | hj
            · rw [List.getElem?_append_left hj] at hx
              exact hall j x hx
            · rw [List.getElem?_append_right hj] at hx
              have hjz : j - picked.length = 0 := by
                have := (List.getElem?_eq_some_iff.1 hx).1
                simp only [List.length_singleton] at this
                omega
              rw [hjz] at hx
              cases hx
              refine ⟨rfl, ?_, hcount⟩
              rw [hindex, hmap, List.length_map]
              omega
      · rw [hother k (Ne.symm hk)] at hs
        obtain ⟨picked, hsub, hp⟩ := h s hs
        exact ⟨picked, hsub.trans (List.sublist_append_left bs [b]), hp⟩

theorem Backed.foldl (h : Backed k bs acc) (es : List BatchEvent) :
    Backed k (es.foldl (gather k) bs) (es.foldl TaskDiscovery.receive acc) := by
  induction es generalizing bs acc with
  | nil => exact h
  | cons e es ih => exact ih (h.receive e)

/-- What a list handed out is made of: batches 1, 2, …, n of the attempt, as many as the
report says, with as many candidates as it says. -/
def Assembled (bs : List DiscoveryBatch) (r : DiscoveryReport) (cs : List DouyinCandidate) :
    Prop :=
  ∃ picked : List DiscoveryBatch, picked.Sublist bs ∧ Numbered (reportKey r) picked ∧
    picked.length = r.payload.batchCount ∧ cs = picked.flatMap (·.payload.candidates) ∧
    cs.length = r.payload.candidateCount

theorem complete_assembled (h : Backed (reportKey r) bs acc) {cs : List DouyinCandidate}
    (hc : acc.complete r = some (some cs)) : Assembled bs r cs := by
  unfold complete at hc
  split at hc
  · split at hc <;> cases hc
  · split at hc
    · cases hc
    · rename_i s hs
      split at hc
      · cases hc
      · rename_i hcounts
        split at hc
        · cases hc
        · rename_i hlen
          cases hc
          obtain ⟨picked, hsub, hmap, hall⟩ := h s hs
          have hn : picked.length = s.batchCount := by
            have hb : s.batches.length = s.batchCount := by
              by_contra hne
              exact hcounts (.inr hne)
            rw [hmap, List.length_map] at hb
            exact hb
          refine ⟨picked, hsub, ⟨fun b hb => ?_, fun j b hb => ?_⟩, ?_, ?_, Classical.not_not.1 hlen⟩
          · obtain ⟨j, hj⟩ := List.mem_iff_getElem?.1 hb
            exact (hall j b hj).1
          · obtain ⟨-, hindex, hcount⟩ := hall j b hb
            exact ⟨hindex, hcount.trans hn.symm⟩
          · rw [hn]
            by_contra hne
            exact hcounts (.inl hne)
          · rw [hmap, List.flatMap_map]
            rfl

/-! ## Altered batches -/

/-- The accumulator knows batch `i` of the attempt by this fingerprint. -/
def Recorded (k : AttemptKey) (i : Nat) (f : OutboundIntent)
    (acc : TaskDiscoveryBatchAccumulator) : Prop :=
  ∃ s x, acc.state? k = some s ∧ s.batch? i = some x ∧ x.fingerprint = f

theorem batch?_append {s : AccumulatedBatches} {i : Nat} {x y : AcceptedBatch}
    (h : s.batch? i = some x) :
    ({ s with batches := s.batches ++ [y] } : AccumulatedBatches).batch? i = some x := by
  cases i with
  | zero => cases h
  | succ i =>
    change s.batches[i]? = some x at h
    show (s.batches ++ [y])[i]? = some x
    rw [List.getElem?_append_left (List.getElem?_eq_some_iff.1 h).1, h]

theorem recorded_of_add {b : DiscoveryBatch} (h : acc.add b = some acc') :
    Recorded b.key b.payload.batchIndex (outboundIntent b.message) acc' := by
  obtain ⟨s', hrec, hs', -, -⟩ := add_eq_some h
  obtain ⟨-, ⟨rfl, x, hx, hsame⟩ | ⟨rfl, hindex⟩⟩ := record_eq_some hrec
  · exact ⟨_, x, hs', hx, hsame⟩
  · refine ⟨_, b.accepted, hs', ?_, rfl⟩
    rw [hindex]
    show ((acc.current b).batches ++ [b.accepted])[(acc.current b).batches.length]? = _
    simp

theorem Recorded.receive {i : Nat} {f : OutboundIntent} (h : Recorded k i f acc) {e : BatchEvent}
    (he : ∀ r, e = .clear r → reportKey r ≠ k) : Recorded k i f (receive acc e) := by
  obtain ⟨s, x, hs, hx, hf⟩ := h
  cases e with
  | clear r =>
    refine ⟨s, x, ?_, hx, hf⟩
    show (acc.clear r).state? k = some s
    rw [state?_clear, if_neg (Ne.symm (he r rfl)), hs]
  | batch b =>
    show Recorded k i f ((acc.add b).getD acc)
    cases hadd : acc.add b with
    | none => exact ⟨s, x, hs, hx, hf⟩
    | some acc' =>
      obtain ⟨s', hrec, hs', hother, -⟩ := add_eq_some hadd
      rw [Option.getD_some]
      by_cases hk : b.key = k
      · subst hk
        unfold current at hrec
        rw [hs, Option.getD_some] at hrec
        obtain ⟨-, ⟨rfl, -⟩ | ⟨rfl, -⟩⟩ := record_eq_some hrec
        · exact ⟨_, x, hs', hx, hf⟩
        · exact ⟨_, x, hs', batch?_append hx, hf⟩
      · exact ⟨s, x, (hother k (Ne.symm hk)).trans hs, hx, hf⟩

theorem Recorded.foldl {i : Nat} {f : OutboundIntent} {es : List BatchEvent}
    (h : Recorded k i f acc) (hes : ∀ r, .clear r ∈ es → reportKey r ≠ k) :
    Recorded k i f (es.foldl TaskDiscovery.receive acc) := by
  induction es generalizing acc with
  | nil => exact h
  | cons e es ih =>
    refine ih (h.receive fun r hr => hes r ?_) fun r hr => hes r (List.mem_cons_of_mem _ hr)
    rw [hr]
    exact List.mem_cons_self

theorem Recorded.refuses {b : DiscoveryBatch} {f : OutboundIntent}
    (h : Recorded b.key b.payload.batchIndex f acc) (hf : outboundIntent b.message ≠ f) :
    acc.add b = none := by
  obtain ⟨s, x, hs, hx, rfl⟩ := h
  cases hadd : acc.add b with
  | none => rfl
  | some acc' =>
    exfalso
    obtain ⟨s', hrec, -, -, -⟩ := add_eq_some hadd
    unfold current at hrec
    rw [hs, Option.getD_some] at hrec
    obtain ⟨-, ⟨-, y, hy, hsame⟩ | ⟨-, hindex⟩⟩ := record_eq_some hrec
    · rw [hx] at hy
      cases hy
      exact hf hsame.symm
    · rw [hindex] at hx
      change s.batches[s.batches.length]? = some x at hx
      simp at hx

end

end AutomationTool.ControlPlane.TaskDiscovery
