import AutomationTool.Core.Schedule
import AutomationTool.Editing.EditingJobs

/-!
# What happens to editing jobs, whoever writes them

Any number of creations, updates and reconciliations, transaction by transaction. The stored
row of a job is the latest of its `versions`, and these only move along the graph of states.
As no state comes twice on such a path, the status alone tells the versions of a job apart:
an update finds the very version its caller read, and of two updates of one version the
second finds none.

* `JobEvent.Follows`: what each transaction may do, by what was done before.
* `editing_jobs_serialized`: the histories of all jobs, at every moment.
-/
namespace AutomationTool.Editing

open Protocol

/-! ## Versions -/

def JobEvent.version? (j : EditingJobId) : JobEvent → Option EditingJobRow
  | .created row | .updated _ _ row => if row.jobId = j then some row else none
  | .read _ => none

/-- The rows of a job, latest first. -/
def versions (j : EditingJobId) (journal : List JobEvent) : List EditingJobRow :=
  journal.filterMap (JobEvent.version? j)

/-- One step of a job. -/
structure EditingJobRow.Moves (new old : EditingJobRow) : Prop where
  legal : old.status.canTransition new.status = true
  later : old.updatedAt ≤ new.updatedAt
  jobId : new.jobId = old.jobId
  projectId : new.projectId = old.projectId
  installationId : new.installationId = old.installationId
  timelineId : new.timelineId = old.timelineId
  timelineRevision : new.timelineRevision = old.timelineRevision
  createdAt : new.createdAt = old.createdAt

/-- An update of a version that looks like `previous`. -/
structure Applies (previous changed : EditingJob) (old new : EditingJobRow) : Prop where
  version : old.isVersionOf previous = true
  same : previous.jobId = changed.jobId
  legal : previous.status.canTransition changed.status = true
  later : previous.updatedAt ≤ changed.updatedAt
  new_eq : new = old.write changed

/-- An event that may follow that journal. -/
def JobEvent.Follows (journal : List JobEvent) : JobEvent → Prop
  | .created row => versions row.jobId journal = [] ∧ row.toEditingJobFields.Valid
  | .read job => ∃ row, (versions job.jobId journal).head? = some row ∧
      row.toEditingJobFields = job.toEditingJobFields
  | .updated previous changed new => ∃ old, (versions previous.jobId journal).head? = some old ∧
      Applies previous changed old new

namespace Applies

variable {previous changed : EditingJob} {old new : EditingJobRow}
  (h : Applies previous changed old new)
include h

theorem old_eq : old.jobId = previous.jobId ∧ old.status = previous.status ∧
    old.updatedAt = previous.updatedAt := by
  simpa [EditingJobRow.isVersionOf] using h.version

theorem moves : new.Moves old := by
  obtain ⟨_, hstatus, htime⟩ := h.old_eq
  obtain rfl := h.new_eq
  refine ⟨?_, ?_, rfl, rfl, rfl, rfl, rfl, rfl⟩
  · rw [hstatus]
    exact h.legal
  · rw [htime]
    exact h.later

theorem valid (hv : old.toEditingJobFields.Valid) : new.toEditingJobFields.Valid := by
  obtain ⟨_, _, htime⟩ := h.old_eq
  obtain rfl := h.new_eq
  have hlater := h.later
  have hordered := hv.ordered
  refine ⟨hv.revision_pos, ?_, changed.valid.facts⟩
  show old.createdAt ≤ changed.updatedAt
  exact le_trans hordered (htime ▸ hlater)

end Applies

theorem versions_cons {j : EditingJobId} {e : JobEvent} {journal : List JobEvent} :
    versions j (e :: journal) = (e.version? j).toList ++ versions j journal := by
  unfold versions
  rw [List.filterMap_cons]
  cases e.version? j <;> rfl

theorem version?_eq_some {j : EditingJobId} {e : JobEvent} {row : EditingJobRow} :
    e.version? j = some row ↔ row.jobId = j ∧
      (e = .created row ∨ ∃ previous changed, e = .updated previous changed row) := by
  cases e with
  | read => simp [JobEvent.version?]
  | created row' | updated _ _ row' =>
    simp only [JobEvent.version?, Option.ite_none_right_eq_some, Option.some.injEq]
    constructor
    · rintro ⟨hj, rfl⟩
      simp [hj]
    · rintro ⟨hj, he⟩
      simp_all

/-! ## The history of one job -/

section

variable {journal : List JobEvent} (h : Chronicle JobEvent.Follows journal)
include h

theorem versions_valid {j : EditingJobId} {row : EditingJobRow} (hrow : row ∈ versions j journal) :
    row.toEditingJobFields.Valid := by
  induction journal generalizing j row with
  | nil => cases hrow
  | cons e journal ih =>
    obtain ⟨hf, hrest⟩ := h
    rw [versions_cons, List.mem_append, Option.mem_toList] at hrow
    rcases hrow with hrow | hrow
    · obtain ⟨-, rfl | ⟨previous, changed, rfl⟩⟩ := version?_eq_some.1 hrow
      · exact hf.2
      · obtain ⟨old, hold, happ⟩ := hf
        exact happ.valid (ih hrest (List.mem_of_head? hold))
    · exact ih hrest hrow

/-- The history of a job is a path of the graph from the state it was created in. -/
theorem versions_chain (j : EditingJobId) :
    (versions j journal).IsChain EditingJobRow.Moves := by
  induction journal with
  | nil => exact .nil
  | cons e journal ih =>
    obtain ⟨hf, hrest⟩ := h
    rw [versions_cons]
    cases hv : e.version? j with
    | none => exact ih hrest
    | some row =>
      refine (ih hrest).cons fun old hold => ?_
      obtain ⟨rfl, rfl | ⟨previous, changed, rfl⟩⟩ := version?_eq_some.1 hv
      · rw [hf.1] at hold
        cases hold
      · obtain ⟨old', hold', happ⟩ := hf
        rw [← happ.old_eq.1, ← happ.moves.jobId, hold] at hold'
        cases hold'
        exact happ.moves

/-- No state comes twice. -/
theorem versions_pairwise (j : EditingJobId) :
    (versions j journal).Pairwise fun new old => old.status.rank < new.status.rank := by
  have hchain : ((versions j journal).map fun row => row.status.rank).IsChain (· > ·) :=
    (List.isChain_map _).2
      ((versions_chain h j).imp fun _ _ hm => EditingJobStatus.rank_lt hm.legal)
  exact List.pairwise_map.1 (List.isChain_iff_pairwise.1 hchain)

theorem version_unique {j : EditingJobId} {a b : EditingJobRow} (ha : a ∈ versions j journal)
    (hb : b ∈ versions j journal) (hs : a.status = b.status) : a = b := by
  have hnodup : ((versions j journal).map fun row => row.status.rank).Nodup :=
    List.pairwise_map.2 ((versions_pairwise h j).imp fun hlt => hlt.ne')
  exact List.inj_on_of_nodup_map hnodup ha hb (congrArg EditingJobStatus.rank hs)

/-- A terminal state is the last. -/
theorem terminal_last {j : EditingJobId} {later earlier : List EditingJobRow} {row : EditingJobRow}
    (hv : versions j journal = later ++ row :: earlier) (ht : row.status.isTerminal = true) :
    later = [] := by
  have hchain := versions_chain h j
  rw [hv] at hchain
  rcases List.eq_nil_or_concat later with rfl | ⟨before, next, rfl⟩
  · rfl
  · rw [List.concat_eq_append, List.append_assoc] at hchain
    have hmove := (List.isChain_cons_cons.1 hchain.right_of_append).1
    have hlegal := hmove.legal
    rw [EditingJobStatus.not_canTransition_of_isTerminal ht] at hlegal
    cases hlegal

theorem rank_le_latest {j : EditingJobId} {row latest : EditingJobRow}
    (hrow : row ∈ versions j journal) (hl : (versions j journal).head? = some latest) :
    row.status.rank ≤ latest.status.rank := by
  have hpair := versions_pairwise h j
  cases hs : versions j journal with
  | nil =>
    rw [hs] at hl
    cases hl
  | cons x xs =>
    rw [hs] at hl hpair hrow
    cases hl
    rcases List.mem_cons.1 hrow with rfl | hrow
    · exact le_refl _
    · exact ((List.pairwise_cons.1 hpair).1 row hrow).le

/-- Once a version was updated, the job is past it. -/
theorem past_of_updated {previous changed : EditingJob} {new latest : EditingJobRow}
    (hu : .updated previous changed new ∈ journal)
    (hl : (versions previous.jobId journal).head? = some latest) :
    previous.status.rank < latest.status.rank := by
  obtain ⟨earlier, _, old, hold, happ⟩ := h.of_mem hu
  have hid : new.jobId = previous.jobId := happ.moves.jobId.trans happ.old_eq.1
  have hmem : new ∈ versions previous.jobId journal :=
    List.mem_filterMap.2 ⟨_, hu, version?_eq_some.2 ⟨hid, .inr ⟨previous, changed, rfl⟩⟩⟩
  have hlt := EditingJobStatus.rank_lt happ.moves.legal
  rw [happ.old_eq.2.1] at hlt
  exact lt_of_lt_of_le hlt (rank_le_latest h hmem hl)

/-- A version that was read is still there when its update finds one like it. -/
theorem read_version {previous : EditingJob} {row : EditingJobRow}
    (hread : .read previous ∈ journal)
    (hl : (versions previous.jobId journal).head? = some row) (hs : row.status = previous.status) :
    row.toEditingJobFields = previous.toEditingJobFields := by
  obtain ⟨earlier, hsuffix, seen, hseen, heq⟩ := h.of_mem hread
  have hmem : seen ∈ versions previous.jobId journal :=
    (hsuffix.filterMap _).subset (List.mem_of_head? hseen)
  have hstatus : row.status = seen.status := by
    rw [hs, heq]
  rw [version_unique h (List.mem_of_head? hl) hmem hstatus, heq]

end

/-! ## The transactions -/

section

variable [UnicodeData]

/-- The journal is true of the table. -/
structure JobStore.Recorded (s : JobStore) : Prop where
  stored : ∀ j, s.row? j = (versions j s.journal).head?
  chronicle : Chronicle JobEvent.Follows s.journal

theorem row?_eq_some {s : JobStore} {j : EditingJobId} {row : EditingJobRow} :
    s.row? j = some row ↔ row ∈ s.jobs ∧ row.jobId = j :=
  Relation.find?_key_iff fun _ _ ha hb hab => hab.1 (ha.trans hb.symm)

namespace JobStore.Recorded

variable {s s' : JobStore} (h : s.Recorded)
include h

theorem save {job : EditingJob} {i : InstallationId} (hs : s.save job i = .ok s') : s'.Recorded := by
  unfold JobStore.save at hs
  dsimp only at hs
  split at hs
  · split at hs <;> cases hs
  · next jobs hins =>
    split at hs
    swap
    · cases hs
    cases hs
    have hfresh : s.row? job.jobId = none := by
      refine Relation.find?_eq_none.2 fun r hr hid => ?_
      exact (Relation.insert?_fresh hins r hr).1 (of_decide_eq_true hid)
    have hnone : versions job.jobId s.journal = [] := by
      rw [h.stored] at hfresh
      exact List.head?_eq_none_iff.1 hfresh
    refine ⟨fun j => ?_, ⟨⟨hnone, job.valid⟩, h.chronicle⟩⟩
    rw [versions_cons]
    by_cases hj : job.jobId = j
    · have hrow : (JobEvent.created (.of job i)).version? j = some (.of job i) :=
        version?_eq_some.2 ⟨hj, .inl rfl⟩
      rw [hrow]
      exact row?_eq_some.2 ⟨(Relation.mem_insert? hins).2 (.inr rfl), hj⟩
    · have hrow : (JobEvent.created (.of job i)).version? j = none := if_neg hj
      rw [hrow]
      show JobStore.row? _ j = (versions j s.journal).head?
      rw [← h.stored]
      refine Option.ext fun row => ?_
      rw [row?_eq_some, row?_eq_some, Relation.mem_insert? hins]
      constructor
      · rintro ⟨hr | rfl, hid⟩
        · exact ⟨hr, hid⟩
        · exact absurd hid hj
      · exact fun hr => ⟨.inl hr.1, hr.2⟩

theorem get {j : EditingJobId} {i : InstallationId} {job : EditingJob} (hg : s.get j i = .ok job) :
    ({ s with journal := .read job :: s.journal } : JobStore).Recorded := by
  unfold JobStore.get at hg
  split at hg
  · cases hg
  · next row hfind =>
    obtain ⟨hmem, -⟩ := Relation.mem_of_find? hfind
    have hfields : row.toEditingJobFields = job.toEditingJobFields := by
      unfold EditingJobRow.hydrate EditingJob.make at hg
      split at hg <;> cases hg
      rfl
    refine ⟨h.stored, ⟨⟨row, ?_, hfields⟩, h.chronicle⟩⟩
    rw [← h.stored]
    exact row?_eq_some.2 ⟨hmem, congrArg EditingJobFields.jobId hfields⟩

theorem update {previous changed : EditingJob} (hu : s.update previous changed = .ok s') :
    s'.Recorded := by
  unfold JobStore.update at hu
  split at hu
  · cases hu
  next hcond =>
  simp only [not_or, Decidable.not_not, Bool.not_eq_false, Nat.not_lt] at hcond
  split at hu
  · cases hu
  next jobs hupd =>
  split at hu
  swap
  · split at hu <;> cases hu
  next old hfind =>
  cases hu
  obtain ⟨hmem, hversion⟩ := Relation.mem_of_find? hfind
  have happ : Applies previous changed old (old.write changed) :=
    ⟨hversion, hcond.1, hcond.2.1, hcond.2.2, rfl⟩
  have hold : s.row? previous.jobId = some old := row?_eq_some.2 ⟨hmem, happ.old_eq.1⟩
  refine ⟨fun j => ?_, ⟨⟨old, (h.stored _).symm.trans hold, happ⟩, h.chronicle⟩⟩
  rw [versions_cons]
  by_cases hj : previous.jobId = j
  · have hid : (old.write changed).jobId = j := happ.old_eq.1.trans hj
    have hrow : (JobEvent.updated previous changed (old.write changed)).version? j =
        some (old.write changed) := version?_eq_some.2 ⟨hid, .inr ⟨_, _, rfl⟩⟩
    rw [hrow]
    refine row?_eq_some.2 ⟨(Relation.mem_update? hupd).2 ⟨old, hmem, ?_⟩, hid⟩
    rw [if_pos hversion]
  · have hid : (old.write changed).jobId ≠ j := fun hid => hj (happ.old_eq.1.symm.trans hid)
    have hrow : (JobEvent.updated previous changed (old.write changed)).version? j = none :=
      if_neg hid
    rw [hrow]
    show JobStore.row? _ j = (versions j s.journal).head?
    rw [← h.stored]
    refine Option.ext fun row => ?_
    rw [row?_eq_some, row?_eq_some, Relation.mem_update? hupd]
    -- the rows of the other jobs are not versions of this one
    have hother : ∀ r : EditingJobRow, r.jobId = j → r.isVersionOf previous = false := by
      intro r hr
      refine Bool.eq_false_iff.2 fun hv => hj ?_
      have := (of_decide_eq_true hv).1
      exact this.symm.trans hr
    constructor
    · rintro ⟨⟨r, hr, heq⟩, hrow⟩
      have hrj : r.jobId = j := by
        rw [← hrow, ← heq]
        split <;> rfl
      rw [hother r hrj] at heq
      exact ⟨heq ▸ hr, hrow⟩
    · rintro ⟨hr, hrow⟩
      exact ⟨⟨row, hr, by rw [hother row hrow]; rfl⟩, hrow⟩

theorem exec (o : JobOp) : (JobStore.exec o s).2.Recorded := by
  cases o with
  | save job i =>
    simp only [JobStore.exec]
    split
    · next hs => exact h.save hs
    · exact h
  | get j i =>
    simp only [JobStore.exec]
    split
    · next hg => exact h.get hg
    · exact h
  | update previous changed =>
    simp only [JobStore.exec]
    split
    · next hu => exact h.update hu
    · exact h
  | editing o => exact ⟨h.stored, h.chronicle⟩

end JobStore.Recorded

/-! ## Every run -/

/-- The histories of the jobs, latest first. -/
structure JobStore.Serialized (s : JobStore) : Prop where
  /-- The row of a job is its latest version. -/
  stored : ∀ j, s.row? j = (versions j s.journal).head?
  /-- A path of the graph, along which time does not go back and nothing else moves. -/
  path : ∀ j, (versions j s.journal).IsChain EditingJobRow.Moves
  terminal : ∀ j later row earlier, versions j s.journal = later ++ row :: earlier →
    row.status.isTerminal = true → later = []
  /-- An update wrote over the version its caller had read. -/
  applied : ∀ later previous changed new earlier,
    s.journal = later ++ .updated previous changed new :: earlier →
      ∃ old, (versions previous.jobId earlier).head? = some old ∧
        Applies previous changed old new ∧
        (.read previous ∈ earlier → old.toEditingJobFields = previous.toEditingJobFields)
  /-- Of the updates of one version, one. -/
  once : ∀ later previous changed new earlier,
    s.journal = later ++ .updated previous changed new :: earlier →
      ∀ changed' new', .updated previous changed' new' ∉ earlier
  readable : ∀ row ∈ s.jobs, ∃ job, row.hydrate = .ok job

theorem JobStore.Recorded.serialized {s : JobStore} (h : s.Recorded) : s.Serialized where
  stored := h.stored
  path := versions_chain h.chronicle
  terminal _ _ _ _ hv ht := terminal_last h.chronicle hv ht
  applied later previous changed new earlier hj := by
    have hc := h.chronicle
    rw [hj] at hc
    obtain ⟨⟨old, hold, happ⟩, hrest⟩ := hc.of_split
    exact ⟨old, hold, happ, fun hr => read_version hrest hr hold happ.old_eq.2.1⟩
  once later previous changed new earlier hj changed' new' hu := by
    have hc := h.chronicle
    rw [hj] at hc
    obtain ⟨⟨old, hold, happ⟩, hrest⟩ := hc.of_split
    have hpast := past_of_updated hrest hu hold
    rw [happ.old_eq.2.1] at hpast
    exact lt_irrefl _ hpast
  readable row hrow := by
    have hrow' : s.row? row.jobId = some row := row?_eq_some.2 ⟨hrow, rfl⟩
    rw [h.stored] at hrow'
    have hvalid := versions_valid h.chronicle (List.mem_of_head? hrow')
    exact ⟨⟨_, hvalid⟩, dif_pos hvalid⟩

theorem JobStore.recorded_empty : JobStore.empty.Recorded := ⟨fun _ => rfl, trivial⟩

end

/-! ## Two reports about one job -/

namespace Racing

def cut : Timeline where
  timelineId := 10
  projectId := 1
  revision := 1
  durationMs := 100
  tracks := [lane]
  createdAt := 0
  valid := ⟨by decide, by decide, by decide, by decide, by decide, by decide, by decide, rfl,
    by decide⟩

/-- A worker that started the job and one that gave it up read it at the same time. -/
def reports : List (Turn JobOp JobOp.Ret) :=
  alone 0 (Prog.op (JobOp.editing (.saveProject 1 1)) >>= fun _ => pure ()) 1 ++
    alone 1 (Prog.op (JobOp.editing (.saveMaterial 7 1)) >>= fun _ => pure ()) 1 ++
    alone 2 (Prog.op (JobOp.editing (.saveTimeline cut 1)) >>= fun _ => pure ()) 1 ++
    alone 3 (submit 1 1 20 5 >>= fun _ => pure ()) 2 ++
    alone 4 (reconcile 1 20 5 .running none none 6 >>= fun _ => pure ()) 1 ++
    alone 5 (reconcile 1 20 5 .failed (some .workerLost) none 7 >>= fun _ => pure ()) 2 ++ [.next 4]

def reported : JobStore := (Pool.play JobStore.exec reports ⟨.empty, []⟩).2.state

end Racing
end AutomationTool.Editing
