import AutomationTool.Publishing.Service

/-!
# What one operation does

Every operation leaves the attempt of a job alone, or moves it as `AttemptMove` lists;
likewise for its reconciliation row, the recorded parts and the way of its creation request.
What holds of every run is derived from these lists.

* `attempt?_exec`, `reconciliation?_exec`, `uploadParts_exec`, `flight_exec`, `heard_exec`:
  the inversion lemmas, one for each part of the state.
-/
namespace AutomationTool.Publishing

open Protocol

namespace PublishDb

variable {db : PublishDb} {j j' : PublishJobId}

theorem attempt?_guardedUpdate {allowed : BilibiliPublishAttemptRecord → Bool}
    {values : BilibiliPublishAttemptRecord → BilibiliPublishAttemptRecord} {hv : KeepsJob values} :
    (db.guardedUpdate j allowed values hv).2.attempt? j' =
      (db.attempt? j').map fun r => if j' = j ∧ allowed r = true then values r else r := by
  have hfind := Table.find?_updateWhere (t := db.attempts)
    (p := fun r => r.publishJobId = j ∧ allowed r) (q := fun r => r.publishJobId = j')
    (keepsKeys_attempts hv) fun r => by rw [hv r]
  refine hfind.trans ?_
  show (db.attempt? j').map _ = _
  cases hr : db.attempt? j' with
  | none => rfl
  | some r => simp [attempt?_job hr]

theorem reconciliation?_pendingUpdate {allowed : BilibiliReconciliationRecord → Bool}
    {values : BilibiliReconciliationRecord → BilibiliReconciliationRecord}
    {hv : ∀ r, (values r).publishJobId = r.publishJobId} :
    (db.pendingUpdate j allowed values hv).2.reconciliation? j' =
      (db.reconciliation? j').map fun r =>
        if j' = j ∧ r.outcome = .pending ∧ allowed r = true then values r else r := by
  have hfind := Table.find?_updateWhere (t := db.reconciliations)
    (p := fun r => r.publishJobId = j ∧ r.outcome = .pending ∧ allowed r)
    (q := fun r => r.publishJobId = j') (keepsKeys_reconciliations hv) fun r => by rw [hv r]
  refine hfind.trans ?_
  show (db.reconciliation? j').map _ = _
  cases hr : db.reconciliation? j' with
  | none => rfl
  | some r => simp [reconciliation?_job hr]

/-- The row passed the guard: it is updated. -/
theorem guardedUpdate_ok {allowed : BilibiliPublishAttemptRecord → Bool}
    {values : BilibiliPublishAttemptRecord → BilibiliPublishAttemptRecord} {hv : KeepsJob values}
    (h : (db.guardedUpdate j allowed values hv).1 = true) :
    ∃ r, db.attempt? j = some r ∧ allowed r = true ∧
      (db.guardedUpdate j allowed values hv).2.attempt? j = some (values r) := by
  obtain ⟨r, hr, ha⟩ := (Option.any_eq_true _ _).1 h
  refine ⟨r, hr, ha, ?_⟩
  rw [attempt?_guardedUpdate, hr]
  simp [ha]

theorem pendingUpdate_ok {allowed : BilibiliReconciliationRecord → Bool}
    {values : BilibiliReconciliationRecord → BilibiliReconciliationRecord}
    {hv : ∀ r, (values r).publishJobId = r.publishJobId}
    (h : (db.pendingUpdate j allowed values hv).1 = true) :
    ∃ r, db.reconciliation? j = some r ∧ r.outcome = .pending ∧ allowed r = true ∧
      (db.pendingUpdate j allowed values hv).2.reconciliation? j = some (values r) := by
  obtain ⟨r, hr, ha⟩ := (Option.any_eq_true _ _).1 h
  obtain ⟨hp, ha⟩ : r.outcome = .pending ∧ allowed r = true := by simpa using ha
  refine ⟨r, hr, hp, ha, ?_⟩
  rw [reconciliation?_pendingUpdate, hr]
  simp [hp, ha]

theorem required_ok {x : Bool × PublishDb} (h : (required x).1 = .ok ()) : x.1 = true := by
  unfold required at h
  split at h
  · assumption
  · cases h

theorem attempt?_insert {record : BilibiliPublishAttemptRecord}
    {attempts : Table BilibiliPublishAttemptRecord}
    (h : db.attempts.insert? record = some attempts) :
    { db with attempts }.attempt? j = (db.attempt? j).or
      (if record.publishJobId = j then some record else none) := by
  have hfind := Table.find?_insert? (p := fun r => r.publishJobId = j) h
  simpa [attempt?] using hfind

theorem reconciliation?_insert {record : BilibiliReconciliationRecord}
    {reconciliations : Table BilibiliReconciliationRecord}
    (h : db.reconciliations.insert? record = some reconciliations) :
    { db with reconciliations }.reconciliation? j = (db.reconciliation? j).or
      (if record.publishJobId = j then some record else none) := by
  have hfind := Table.find?_insert? (p := fun r => r.publishJobId = j) h
  simpa [reconciliation?] using hfind

theorem loadReconciliation_some {r : BilibiliReconciliationRecord}
    (h : db.loadReconciliation j = .ok (some r)) : db.reconciliation? j = some r := by
  unfold loadReconciliation readReconciliation at h
  cases hr : db.reconciliation? j with
  | none => rw [hr] at h; cases h
  | some r' =>
    rw [hr] at h
    dsimp only at h
    split at h <;> cases h
    rfl

theorem load_some {r : BilibiliPublishAttemptRecord} (h : db.load j = .ok (some r)) :
    db.attempt? j = some r ∧ r.Valid := by
  unfold load readAttempt at h
  cases hr : db.attempt? j with
  | none => rw [hr] at h; cases h
  | some r' =>
    rw [hr] at h
    dsimp only at h
    split at h <;> cases h
    exact ⟨rfl, ‹_›⟩

theorem attempt?_of_mem {r : BilibiliPublishAttemptRecord} (h : r ∈ db.attempts) :
    db.attempt? r.publishJobId = some r := by
  refine (Table.find?_eq_some_iff fun a b ha hb => ?_).2 ⟨h, by simp⟩
  exact not_not.2 ((of_decide_eq_true ha).trans (of_decide_eq_true hb).symm)

theorem reconciliation?_of_mem {r : BilibiliReconciliationRecord} (h : r ∈ db.reconciliations) :
    db.reconciliation? r.publishJobId = some r := by
  refine (Table.find?_eq_some_iff fun a b ha hb => ?_).2 ⟨h, by simp⟩
  exact not_not.2 ((of_decide_eq_true ha).trans (of_decide_eq_true hb).symm)

theorem readAttempt_ok {r r' : BilibiliPublishAttemptRecord} (h : readAttempt r = .ok r') :
    r' = r := by
  unfold readAttempt at h
  split at h <;> cases h
  rfl

theorem mapM_readAttempt_eq {rows rs : List BilibiliPublishAttemptRecord}
    (h : rows.mapM readAttempt = .ok rs) : rs = rows := by
  induction rows generalizing rs with
  | nil =>
    cases h
    rfl
  | cons row rows ih =>
    rw [List.mapM_cons] at h
    cases hr : readAttempt row with
    | error e => rw [hr] at h; cases h
    | ok r =>
      cases hrs : rows.mapM readAttempt with
      | error e => rw [hr, hrs] at h; cases h
      | ok rs' =>
        rw [hr, hrs] at h
        cases h
        rw [readAttempt_ok hr, ih hrs]

/-- What is listed is stored. -/
theorem listReconcilable_stored {rs : List BilibiliPublishAttemptRecord}
    {r : BilibiliPublishAttemptRecord} (h : db.listReconcilable = .ok rs) (hr : r ∈ rs) :
    db.attempt? r.publishJobId = some r := by
  rw [mapM_readAttempt_eq h, List.mem_insertionSort] at hr
  exact attempt?_of_mem (List.mem_filter.1 hr).1

theorem findByResourceId_some {resourceId : ResourceId} {r : BilibiliReconciliationRecord}
    (h : db.findByResourceId resourceId = .ok (some r)) :
    db.reconciliation? r.publishJobId = some r ∧ r.resourceId = some resourceId := by
  unfold findByResourceId readReconciliation at h
  split at h
  · cases h
  · rename_i r' hrows
    split at h <;> cases h
    have hmem := List.mem_filter.1 (hrows ▸ List.mem_singleton_self r)
    exact ⟨reconciliation?_of_mem hmem.1, of_decide_eq_true hmem.2⟩
  · cases h

end PublishDb

/-! ## Attempts -/

/-- What an operation may do to the attempt of a job. -/
inductive AttemptMove (j : PublishJobId) : Op → Option BilibiliPublishAttemptRecord →
    Option BilibiliPublishAttemptRecord → Prop where
  | prepared {record : BilibiliPublishAttemptRecord} (hj : record.publishJobId = j)
      (hp : record.phase = .prepared) :
      AttemptMove j (.createPrepared record) none (some record)
  | uploadToken {r : BilibiliPublishAttemptRecord} {t : UploadToken} {at' : Time}
      (hp : r.phase = .prepared) :
      AttemptMove j (.recordUploadToken j t at') (some r)
        (some { r with uploadToken := some t, updatedAt := at' })
  | videoUploaded {r : BilibiliPublishAttemptRecord} {at' : Time} (hp : r.phase = .prepared)
      (ht : r.uploadToken ≠ none) :
      AttemptMove j (.recordVideoUploaded j at') (some r)
        (some { r with phase := .videoUploaded, videoUploadedAt := some at', updatedAt := at' })
  | coverUrl {r : BilibiliPublishAttemptRecord} {url : CoverUrl} {at' : Time}
      (hp : r.phase = .prepared ∨ r.phase = .videoUploaded) (hc : r.hasCover = true) :
      AttemptMove j (.recordCoverUrl j url at') (some r)
        (some { r with coverUrl := some url, updatedAt := at' })
  | dispatched {r : BilibiliPublishAttemptRecord} {at' : Time} (hp : r.phase = .videoUploaded) :
      AttemptMove j (.beginArchiveCreation j at') (some r)
        (some { r with phase := .dispatched, dispatchedAt := some at', updatedAt := at' })
  | submitted {r : BilibiliPublishAttemptRecord} {resourceId : ResourceId} {at' : Time}
      (hp : r.phase = .dispatched) :
      AttemptMove j (.recordSubmitted j resourceId at') (some r)
        (some { r with
          phase := .submitted
          settledAt := some at'
          resourceId := some resourceId
          updatedAt := at' })
  | failed {r : BilibiliPublishAttemptRecord} {rejection : BilibiliPlatformRejection}
      {at' : Time} (hp : r.phase = .dispatched) :
      AttemptMove j (.recordFailed j rejection at') (some r)
        (some { r with
          phase := .failed
          settledAt := some at'
          failureCode := some rejection.failureCode
          platformErrorCode := some rejection.code
          updatedAt := at' })
  | outcomeUncertain {r : BilibiliPublishAttemptRecord} {at' : Time} (hp : r.phase = .dispatched) :
      AttemptMove j (.recordOutcomeUncertain j at') (some r)
        (some { r with phase := .outcomeUncertain, settledAt := some at', updatedAt := at' })

/-- What an operation may do to the reconciliation row of a job. -/
inductive ReconciliationMove (attempt : Option BilibiliPublishAttemptRecord) (j : PublishJobId) :
    Op → Option BilibiliReconciliationRecord → Option BilibiliReconciliationRecord → Prop where
  | pending {resourceId : Option ResourceId} {at' : Time} (ha : attempt ≠ none) :
      ReconciliationMove attempt j (.ensurePending j resourceId at') none
        (some (PublishDb.newReconciliation j resourceId at'))
  | checked {r : BilibiliReconciliationRecord} {archiveState : Option Int} {at' : Time}
      (hp : r.outcome = .pending) :
      ReconciliationMove attempt j (.recordChecked j archiveState at') (some r)
        (some { r with
          archiveState := archiveState
          lastCheckedAt := some at'
          updatedAt := at' })
  | adopted {r : BilibiliReconciliationRecord} {resourceId : ResourceId} {at' : Time}
      (hp : r.outcome = .pending) (hr : r.resourceId = none) :
      ReconciliationMove attempt j (.adoptResourceId j resourceId at') (some r)
        (some { r with resourceId := some resourceId, updatedAt := at' })
  | settled {r : BilibiliReconciliationRecord} {outcome : BilibiliReconciliationOutcome}
      {archiveState : Option Int} {failureCode : Option PublishFailureCode} {at' : Time}
      (hp : r.outcome = .pending) (ho : outcome ≠ .pending)
      (hc : failureCode ≠ none ↔ outcome = .failed) :
      ReconciliationMove attempt j (.settle j outcome archiveState failureCode at') (some r)
        (some { r with
          outcome := outcome
          archiveState := archiveState
          failureCode := failureCode
          lastCheckedAt := some at'
          settledAt := some at'
          updatedAt := at' })

namespace PublishState

variable {s : PublishState} {j : PublishJobId} {q : Query}

@[simp] theorem setFlight_db {f : Flight} : (s.setFlight j f).db = s.db := rfl
@[simp] theorem setFlight_heard {f : Flight} : (s.setFlight j f).heard = s.heard := rfl
@[simp] theorem setFlight_archives {f : Flight} : (s.setFlight j f).archives = s.archives := rfl

@[simp] theorem lose_db : (s.lose j).db = s.db := by unfold lose; split <;> rfl
@[simp] theorem lose_heard : (s.lose j).heard = s.heard := by unfold lose; split <;> rfl
@[simp] theorem returned_db : (s.returned q).db = s.db := by cases q <;> simp [returned]
@[simp] theorem returned_heard : (s.returned q).heard = s.heard := by cases q <;> simp [returned]

@[simp] theorem ask_db : (s.ask q).2.db = s.db := by unfold ask; split <;> simp
@[simp] theorem send_db : (s.send j).db = s.db := by unfold send; split <;> rfl
@[simp] theorem send_heard : (s.send j).heard = s.heard := by unfold send; split <;> rfl
@[simp] theorem create_db {a : ArchiveStatusSnapshot} : (s.create j a).db = s.db := by
  unfold create; split <;> rfl
@[simp] theorem create_heard {a : ArchiveStatusSnapshot} : (s.create j a).heard = s.heard := by
  unfold create; split <;> rfl

@[simp] theorem begin_db {at' : Time} :
    (s.begin j at').2.db = (s.db.beginArchiveCreation j at').2 := by
  unfold begin
  dsimp only
  split <;> rfl

@[simp] theorem begin_heard {at' : Time} : (s.begin j at').2.heard = s.heard := by
  unfold begin
  dsimp only
  split <;> rfl

end PublishState

/-! ## Inversion -/

section

variable {db : PublishDb} {j j' : PublishJobId} {o : Op}

/-- A guarded update moves the job's attempt, if any. -/
theorem moved_guardedUpdate {db' : PublishDb} {allowed : BilibiliPublishAttemptRecord → Bool}
    {values : BilibiliPublishAttemptRecord → BilibiliPublishAttemptRecord}
    (hdb : ∀ hv, db' = (db.guardedUpdate j allowed values hv).2) (hv : PublishDb.KeepsJob values)
    (h : j' = j → ∀ r, allowed r = true → AttemptMove j' o (some r) (some (values r))) :
    db'.attempt? j' = db.attempt? j' ∨ AttemptMove j' o (db.attempt? j') (db'.attempt? j') := by
  rw [hdb hv, PublishDb.attempt?_guardedUpdate]
  cases hr : db.attempt? j' with
  | none => exact .inl rfl
  | some r =>
    by_cases hc : j' = j ∧ allowed r = true
    · right
      rw [Option.map_some, if_pos hc]
      exact h hc.1 r hc.2
    · left
      rw [Option.map_some, if_neg hc]

theorem moved_pendingUpdate {db' : PublishDb} {attempt : Option BilibiliPublishAttemptRecord}
    {allowed : BilibiliReconciliationRecord → Bool}
    {values : BilibiliReconciliationRecord → BilibiliReconciliationRecord}
    (hdb : ∀ hv, db' = (db.pendingUpdate j allowed values hv).2)
    (hv : ∀ r, (values r).publishJobId = r.publishJobId)
    (h : j' = j → ∀ r, r.outcome = .pending → allowed r = true →
      ReconciliationMove attempt j' o (some r) (some (values r))) :
    db'.reconciliation? j' = db.reconciliation? j' ∨
      ReconciliationMove attempt j' o (db.reconciliation? j') (db'.reconciliation? j') := by
  rw [hdb hv, PublishDb.reconciliation?_pendingUpdate]
  cases hr : db.reconciliation? j' with
  | none => exact .inl rfl
  | some r =>
    by_cases hc : j' = j ∧ r.outcome = .pending ∧ allowed r = true
    · right
      rw [Option.map_some, if_pos hc]
      exact h hc.1 r hc.2.1 hc.2.2
    · left
      rw [Option.map_some, if_neg hc]

theorem moved_createPrepared (record : BilibiliPublishAttemptRecord) :
    (db.createPrepared record).2.attempt? j = db.attempt? j ∨
      AttemptMove j (.createPrepared record) (db.attempt? j)
        ((db.createPrepared record).2.attempt? j) := by
  unfold PublishDb.createPrepared
  split
  · exact .inl rfl
  · rename_i hp
    split
    · split
      · exact .inl rfl
      · split <;> exact .inl rfl
    · rename_i hnone
      split
      · exact .inl rfl
      · rename_i attempts hins
        rw [PublishDb.attempt?_insert hins]
        by_cases hj : record.publishJobId = j
        · right
          rw [if_pos hj, ← hj, hnone]
          exact .prepared rfl (not_not.1 hp)
        · left
          rw [if_neg hj, Option.or_none]

theorem moved_ensurePending {resourceId : Option ResourceId} {at' : Time} :
    (db.ensurePending j resourceId at').2.reconciliation? j' = db.reconciliation? j' ∨
      ReconciliationMove (db.attempt? j') j' (.ensurePending j resourceId at')
        (db.reconciliation? j') ((db.ensurePending j resourceId at').2.reconciliation? j') := by
  unfold PublishDb.ensurePending
  split
  · exact .inl rfl
  · rename_i hnone
    split
    · exact .inl rfl
    · rename_i ha
      split
      · exact .inl rfl
      · rename_i reconciliations hins
        rw [PublishDb.reconciliation?_insert hins,
          show (PublishDb.newReconciliation j resourceId at').publishJobId = j from rfl]
        by_cases hj : j = j'
        · right
          subst hj
          rw [if_pos rfl, hnone]
          exact .pending (by simpa using ha)
        · left
          rw [if_neg hj, Option.or_none]

theorem ensurePending_attempt? {resourceId : Option ResourceId} {at' : Time} :
    (db.ensurePending j resourceId at').2.attempt? j' = db.attempt? j' := by
  unfold PublishDb.ensurePending
  split
  · rfl
  · split
    · rfl
    · split <;> rfl

theorem settle_eq {outcome : BilibiliReconciliationOutcome} {archiveState : Option Int}
    {failureCode : Option PublishFailureCode} {at' : Time} (ho : outcome ≠ .pending)
    (hc : failureCode ≠ none ↔ outcome = .failed) :
    (db.settle j outcome archiveState failureCode at').2 =
      (db.pendingUpdate j (fun _ => true) fun r =>
        { r with
          outcome := outcome
          archiveState := archiveState
          failureCode := failureCode
          lastCheckedAt := some at'
          settledAt := some at'
          updatedAt := at' }).2 := by
  unfold PublishDb.settle
  rw [if_neg (by tauto)]
  dsimp only
  split
  · rfl
  · split <;> rfl

theorem beginArchiveCreation_eq {at' : Time} :
    (db.beginArchiveCreation j at').2 = (db.guardedUpdate j (fun r => r.phase = .videoUploaded)
      fun r => { r with
        phase := .dispatched
        dispatchedAt := some at'
        updatedAt := at' }).2 := by
  unfold PublishDb.beginArchiveCreation
  dsimp only
  split
  · rfl
  · split <;> rfl

theorem begin_attempt? {at' : Time} : (db.beginArchiveCreation j at').2.attempt? j' =
    (db.attempt? j').map fun r =>
      if j' = j ∧ r.phase = .videoUploaded then
        { r with phase := .dispatched, dispatchedAt := some at', updatedAt := at' }
      else r := by
  refine (congrArg (·.attempt? j') beginArchiveCreation_eq).trans
    (PublishDb.attempt?_guardedUpdate.trans ?_)
  simp only [decide_eq_true_eq]

theorem createPrepared_reconciliation? {record : BilibiliPublishAttemptRecord} :
    (db.createPrepared record).2.reconciliation? j = db.reconciliation? j := by
  unfold PublishDb.createPrepared
  split
  · rfl
  · split
    · split
      · rfl
      · split <;> rfl
    · split <;> rfl

end

variable (o : Op) (s : PublishState) (j : PublishJobId)

theorem attempt?_exec : (exec o s).2.db.attempt? j = s.db.attempt? j ∨
    AttemptMove j o (s.db.attempt? j) ((exec o s).2.db.attempt? j) := by
  cases o with
  | createPrepared record => exact moved_createPrepared record
  | recordUploadToken i t at' =>
    rw [show (exec (.recordUploadToken i t at') s).2.db = (s.db.recordUploadToken i t at').2 from rfl]
    unfold PublishDb.recordUploadToken
    split
    · exact .inl rfl
    · refine moved_guardedUpdate (fun _ => rfl) (fun _ => rfl) fun hj r hr => ?_
      subst hj
      exact .uploadToken (by simpa using hr)
  | recordPartCompleted i n size at' =>
    left
    show (s.db.recordPartCompleted i n size at').2.attempt? _ = _
    unfold PublishDb.recordPartCompleted
    split
    · rfl
    · split
      · rfl
      · split <;> rfl
  | recordVideoUploaded i at' =>
    refine moved_guardedUpdate (fun _ => rfl) (fun _ => rfl) fun hj r hr => ?_
    subst hj
    obtain ⟨hp, ht⟩ : r.phase = .prepared ∧ r.uploadToken ≠ none := by simpa using hr
    exact .videoUploaded hp ht
  | recordCoverUrl i url at' =>
    rw [show (exec (.recordCoverUrl i url at') s).2.db = (s.db.recordCoverUrl i url at').2 from rfl]
    unfold PublishDb.recordCoverUrl
    split
    · exact .inl rfl
    · refine moved_guardedUpdate (fun _ => rfl) (fun _ => rfl) fun hj r hr => ?_
      subst hj
      obtain ⟨hp, hc⟩ : (r.phase = .prepared ∨ r.phase = .videoUploaded) ∧ r.hasCover = true := by
        simpa using hr
      exact .coverUrl hp hc
  | beginArchiveCreation i at' =>
    rw [show (exec (.beginArchiveCreation i at') s).2.db = (s.begin i at').2.db from rfl,
      PublishState.begin_db, beginArchiveCreation_eq]
    refine moved_guardedUpdate (fun _ => rfl) (fun _ => rfl) fun hj r hr => ?_
    subst hj
    exact .dispatched (by simpa using hr)
  | recordSubmitted i resourceId at' =>
    refine moved_guardedUpdate (fun _ => rfl) (fun _ => rfl) fun hj r hr => ?_
    subst hj
    exact .submitted (by simpa using hr)
  | recordFailed i rejection at' =>
    refine moved_guardedUpdate (fun _ => rfl) (fun _ => rfl) fun hj r hr => ?_
    subst hj
    exact .failed (by simpa using hr)
  | recordOutcomeUncertain i at' =>
    refine moved_guardedUpdate (fun _ => rfl) (fun _ => rfl) fun hj r hr => ?_
    subst hj
    exact .outcomeUncertain (by simpa using hr)
  | ensurePending i resourceId at' => exact .inl ensurePending_attempt?
  | settle i outcome archiveState failureCode at' =>
    left
    show (s.db.settle i outcome archiveState failureCode at').2.attempt? _ = _
    by_cases h : outcome = .pending ∨ ¬(failureCode ≠ none ↔ outcome = .failed)
    · rw [PublishDb.settle, if_pos h]
    · rw [not_or, not_not] at h
      rw [settle_eq h.1 h.2]
      rfl
  | ask q => exact .inl (by rw [exec, PublishState.ask_db])
  | archiveAdd i t fields url => exact .inl (by rw [exec, PublishState.send_db])
  | created i a => exact .inl (by rw [exec, PublishState.create_db])
  | lost i => exact .inl (by rw [exec, PublishState.lose_db])
  | _ => exact .inl rfl

theorem reconciliation?_exec : (exec o s).2.db.reconciliation? j = s.db.reconciliation? j ∨
    ReconciliationMove (s.db.attempt? j) j o (s.db.reconciliation? j)
      ((exec o s).2.db.reconciliation? j) := by
  cases o with
  | ensurePending i resourceId at' => exact moved_ensurePending
  | recordChecked i archiveState at' =>
    refine moved_pendingUpdate (fun _ => rfl) (fun _ => rfl) fun hj r hr _ => ?_
    subst hj
    exact .checked hr
  | adoptResourceId i resourceId at' =>
    refine moved_pendingUpdate (fun _ => rfl) (fun _ => rfl) fun hj r hr hn => ?_
    subst hj
    exact .adopted hr (by simpa using hn)
  | settle i outcome archiveState failureCode at' =>
    rw [show (exec (.settle i outcome archiveState failureCode at') s).2.db =
      (s.db.settle i outcome archiveState failureCode at').2 from rfl]
    by_cases h : outcome = .pending ∨ ¬(failureCode ≠ none ↔ outcome = .failed)
    · rw [PublishDb.settle, if_pos h]
      exact .inl rfl
    · rw [not_or, not_not] at h
      rw [settle_eq h.1 h.2]
      refine moved_pendingUpdate (fun _ => rfl) (fun _ => rfl) fun hj r hr _ => ?_
      subst hj
      exact .settled hr h.1 h.2
  | createPrepared record => exact .inl createPrepared_reconciliation?
  | recordUploadToken i t at' =>
    left
    show (s.db.recordUploadToken i t at').2.reconciliation? _ = _
    unfold PublishDb.recordUploadToken
    split <;> rfl
  | recordPartCompleted i n size at' =>
    left
    show (s.db.recordPartCompleted i n size at').2.reconciliation? _ = _
    unfold PublishDb.recordPartCompleted
    split
    · rfl
    · split
      · rfl
      · split <;> rfl
  | recordCoverUrl i url at' =>
    left
    show (s.db.recordCoverUrl i url at').2.reconciliation? _ = _
    unfold PublishDb.recordCoverUrl
    split <;> rfl
  | beginArchiveCreation i at' =>
    left
    show (s.begin i at').2.db.reconciliation? _ = _
    rw [PublishState.begin_db, beginArchiveCreation_eq]
    rfl
  | ask q => exact .inl (by rw [exec, PublishState.ask_db])
  | archiveAdd i t fields url => exact .inl (by rw [exec, PublishState.send_db])
  | created i a => exact .inl (by rw [exec, PublishState.create_db])
  | lost i => exact .inl (by rw [exec, PublishState.lose_db])
  | _ => exact .inl rfl

/-- A part is only recorded for an attempt that plans it. -/
theorem uploadParts_exec : (exec o s).2.db.uploadParts = s.db.uploadParts ∨
    ∃ i n size at' r, o = .recordPartCompleted i n size at' ∧ s.db.attempt? i = some r ∧
      r.phase = .prepared ∧ (exec o s).2.db.uploadParts.rows =
        s.db.uploadParts.rows ++ [⟨i, n, size, at'⟩] := by
  cases o with
  | recordPartCompleted i n size at' =>
    rw [show (exec (.recordPartCompleted i n size at') s).2.db =
      (s.db.recordPartCompleted i n size at').2 from rfl]
    unfold PublishDb.recordPartCompleted
    cases hr : s.db.attempt? i with
    | none => exact .inl rfl
    | some r =>
      dsimp only
      split
      · exact .inl rfl
      · rename_i hg
        cases hins : s.db.uploadParts.insert? ⟨i, n, size, at'⟩ with
        | none => exact .inl rfl
        | some uploadParts =>
          have hp : r.phase = .prepared := by
            by_contra hp
            exact hg (.inr (.inl hp))
          exact .inr ⟨i, n, size, at', r, rfl, hr, hp, Table.insert?_rows hins⟩
  | createPrepared record =>
    left
    rw [show (exec (.createPrepared record) s).2.db = (s.db.createPrepared record).2 from rfl]
    unfold PublishDb.createPrepared
    split
    · rfl
    · split
      · split
        · rfl
        · split <;> rfl
      · split <;> rfl
  | recordUploadToken i t at' =>
    left
    rw [show (exec (.recordUploadToken i t at') s).2.db = (s.db.recordUploadToken i t at').2 from rfl]
    unfold PublishDb.recordUploadToken
    split <;> rfl
  | recordCoverUrl i url at' =>
    left
    rw [show (exec (.recordCoverUrl i url at') s).2.db = (s.db.recordCoverUrl i url at').2 from rfl]
    unfold PublishDb.recordCoverUrl
    split <;> rfl
  | beginArchiveCreation i at' =>
    left
    rw [show (exec (.beginArchiveCreation i at') s).2.db = (s.begin i at').2.db from rfl,
      PublishState.begin_db, beginArchiveCreation_eq]
    rfl
  | ensurePending i resourceId at' =>
    left
    rw [show (exec (.ensurePending i resourceId at') s).2.db =
      (s.db.ensurePending i resourceId at').2 from rfl]
    unfold PublishDb.ensurePending
    split
    · rfl
    · split
      · rfl
      · split <;> rfl
  | settle i outcome archiveState failureCode at' =>
    left
    rw [show (exec (.settle i outcome archiveState failureCode at') s).2.db =
      (s.db.settle i outcome archiveState failureCode at').2 from rfl]
    by_cases h : outcome = .pending ∨ ¬(failureCode ≠ none ↔ outcome = .failed)
    · rw [PublishDb.settle, if_pos h]
    · rw [not_or, not_not] at h
      rw [settle_eq h.1 h.2]
      rfl
  | ask q => exact .inl (by rw [exec, PublishState.ask_db])
  | archiveAdd i t fields url => exact .inl (by rw [exec, PublishState.send_db])
  | created i a => exact .inl (by rw [exec, PublishState.create_db])
  | lost i => exact .inl (by rw [exec, PublishState.lose_db])
  | _ => exact .inl rfl

/-! ## The outside -/

theorem heard_exec : (exec o s).2.heard = s.heard ∨
    ∃ q a, o = .ask q ∧ s.world q = some a ∧ (exec o s).2.heard = ⟨q, a⟩ :: s.heard := by
  cases o with
  | ask q =>
    rw [show (exec (.ask q) s).2 = (s.ask q).2 from rfl]
    unfold PublishState.ask
    cases hq : s.world q with
    | none => exact .inl PublishState.returned_heard
    | some a => exact .inr ⟨q, a, rfl, hq, PublishState.returned_heard⟩
  | beginArchiveCreation i at' => exact .inl PublishState.begin_heard
  | archiveAdd i t fields url => exact .inl PublishState.send_heard
  | created i a => exact .inl PublishState.create_heard
  | lost i => exact .inl PublishState.lose_heard
  | _ => exact .inl rfl

variable {o s j}

theorem heard_mono {h : Heard} (hh : h ∈ s.heard) : h ∈ (exec o s).2.heard := by
  rcases heard_exec o s with heq | ⟨q, a, -, -, heq⟩
  · rwa [heq]
  · rw [heq]
    exact List.mem_cons_of_mem _ hh

theorem heard_of_ask {q : Query} {a : q.Val} (h : (exec (.ask q) s).1 = .ok a) :
    ⟨q, a⟩ ∈ (exec (.ask q) s).2.heard := by
  rw [show exec (.ask q) s = s.ask q from rfl] at h ⊢
  unfold PublishState.ask at h ⊢
  cases hq : s.world q with
  | none => rw [hq] at h; cases h
  | some b =>
    rw [hq] at h
    cases h
    rw [PublishState.returned_heard]
    exact List.mem_cons_self

/-- The way of a creation request. -/
inductive FlightMove (attempt : Option BilibiliPublishAttemptRecord) (j : PublishJobId) :
    Op → Option Flight → Option Flight → Prop where
  | admitted {r : BilibiliPublishAttemptRecord} {at' : Time} {f : Option Flight}
      (hr : attempt = some r) (hp : r.phase = .videoUploaded) :
      FlightMove attempt j (.beginArchiveCreation j at') f (some .admitted)
  | sent {t : UploadToken} {fields : BilibiliArchiveFields} {url : Option CoverUrl} :
      FlightMove attempt j (.archiveAdd j t fields url) (some .admitted) (some .sent)
  | ended {o : Op} {f : Flight} : FlightMove attempt j o (some f) (some .ended)

theorem setFlight_flight {f : Flight} {j' : PublishJobId} :
    (s.setFlight j f).flight j' = if j' = j then some f else s.flight j' := rfl

theorem lose_flight {attempt : Option BilibiliPublishAttemptRecord} {i : PublishJobId} :
    (s.lose i).flight j = s.flight j ∨
      FlightMove attempt j o (s.flight j) ((s.lose i).flight j) := by
  unfold PublishState.lose
  split
  · exact .inl rfl
  · rename_i hf
    rw [setFlight_flight]
    by_cases hj : j = i
    · subst hj
      obtain ⟨f, hf⟩ := Option.ne_none_iff_exists'.1 hf
      rw [if_pos rfl, hf]
      exact .inr .ended
    · exact .inl (if_neg hj)

/-- The admission is granted to an attempt whose video is uploaded, and takes it out of that
phase. -/
theorem begin_admits {at' : Time} (h : (s.db.beginArchiveCreation j at').1 = .ok true) :
    ∃ r, s.db.attempt? j = some r ∧ r.phase = .videoUploaded ∧
      (s.db.beginArchiveCreation j at').2.attempt? j =
        some { r with phase := .dispatched, dispatchedAt := some at', updatedAt := at' } := by
  rw [beginArchiveCreation_eq]
  unfold PublishDb.beginArchiveCreation at h
  dsimp only at h
  split at h
  · rename_i hg
    obtain ⟨r, hr, ha, hafter⟩ := PublishDb.guardedUpdate_ok hg
    exact ⟨r, hr, by simpa using ha, hafter⟩
  · split at h <;> cases h

variable (o s j)

theorem flight_exec : (exec o s).2.flight j = s.flight j ∨
    FlightMove (s.db.attempt? j) j o (s.flight j) ((exec o s).2.flight j) := by
  cases o with
  | beginArchiveCreation i at' =>
    rw [show exec (.beginArchiveCreation i at') s = s.begin i at' from rfl]
    unfold PublishState.begin
    dsimp only
    split
    · rename_i hadmitted
      rw [setFlight_flight]
      by_cases hj : j = i
      · subst hj
        obtain ⟨r, hr, hp, -⟩ := begin_admits hadmitted
        rw [if_pos rfl]
        exact .inr (.admitted hr hp)
      · exact .inl (if_neg hj)
    · exact .inl rfl
  | ask q =>
    rw [show exec (.ask q) s = s.ask q from rfl]
    unfold PublishState.ask
    cases q with
    | archiveAddAnswer i =>
      cases s.world (.archiveAddAnswer i) with
      | none => exact lose_flight
      | some a => exact lose_flight
    | _ => split <;> exact .inl rfl
  | archiveAdd i t fields url =>
    rw [show (exec (.archiveAdd i t fields url) s).2 = s.send i from rfl]
    unfold PublishState.send
    split
    · rename_i hf
      rw [setFlight_flight]
      by_cases hj : j = i
      · subst hj
        rw [if_pos rfl, hf]
        exact .inr .sent
      · exact .inl (if_neg hj)
    · exact .inl rfl
  | created i a =>
    rw [show (exec (.created i a) s).2 = s.create i a from rfl]
    unfold PublishState.create
    split
    · rename_i hf
      rw [setFlight_flight]
      by_cases hj : j = i
      · subst hj
        rw [if_pos rfl, hf]
        exact .inr .ended
      · exact .inl (if_neg hj)
    · exact .inl rfl
  | lost i => exact lose_flight
  | _ => exact .inl rfl

end AutomationTool.Publishing
