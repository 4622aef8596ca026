import AutomationTool.ControlPlane.DiscoveryBatches
import AutomationTool.ControlPlane.Service

/-!
# The discovery convergence service

One `TaskDiscoveryConvergenceService` process: the database it shares with the rest of the
control plane, and the accumulator it keeps in memory. `serve` runs what a method does between two `await`s, or one operation
of somebody else on the database; `receiveBatch` and `receiveReport` are the methods.

* `attempts_serve`: which attempts the accumulator keeps, by what is answered.
-/
namespace AutomationTool.ControlPlane.TaskDiscovery

open Protocol TaskDiscoveryRepository TaskDiscoveryBatchAccumulator

/-- `_require_completed_replay`.
mirrors task_discovery_repository.py:608-624 -/
def completedReplay (b : DiscoveryBatch) (db : Db) : Prop :=
  (∃ task ∈ db.task? b.message.taskId b.message.installationId,
    task.currentAttemptId = some b.message.executionAttemptId ∧
    task.status = .awaitingConfirmation) ∧
  (∃ attempt ∈ db.attempt? b.message.executionAttemptId b.message.taskId b.message.installationId,
    attempt.attemptNumber = b.payload.pageRevision ∧ attempt.status = .succeeded) ∧
  acceptedDiscovery db b.message

instance (b : DiscoveryBatch) (db : Db) : Decidable (completedReplay b db) := by
  unfold completedReplay; infer_instance

/-- `_batch_matches_persisted`.
mirrors task_discovery_repository.py:728-753 -/
def batchMatchesPersisted (b : DiscoveryBatch) (db : Db) : Prop :=
  let start := (b.payload.batchIndex - 1) * maxDiscoveryBatchCandidates + 1
  let stop := start + b.payload.candidates.length - 1
  ((TaskTargetPreviewRepository.pageOf db b.message.taskId b.message.installationId
      b.payload.pageRevision).filter fun t => start ≤ t.ordinal ∧ t.ordinal ≤ stop).map
    TaskTarget.candidate = b.payload.candidates

instance (b : DiscoveryBatch) (db : Db) : Decidable (batchMatchesPersisted b db) := by
  unfold batchMatchesPersisted; infer_instance

/-- The attempt of the batch is the task's active one, and its command was accepted. -/
def activeAttempt (b : DiscoveryBatch) (db : Db) : Prop :=
  (requireActiveAttempt b.message b.payload.pageRevision db).isSome

instance (b : DiscoveryBatch) (db : Db) : Decidable (activeAttempt b db) := by
  unfold activeAttempt; infer_instance

/-- mirrors task_discovery_repository.py:326-336 -/
def authorizeBatch (b : DiscoveryBatch) (db : Db) : Prop :=
  activeAttempt b db ∨ completedReplay b db ∧ batchMatchesPersisted b db

instance (b : DiscoveryBatch) (db : Db) : Decidable (authorizeBatch b db) := by
  unfold authorizeBatch; infer_instance

/-- `_receive_time`. -/
def receivedInTime (m : Outbound) (now : Time) : Prop := m.sentAt ≤ now ∧ now < m.deadlineAt

instance (m : Outbound) (now : Time) : Decidable (receivedInTime m now) := by
  unfold receivedInTime; infer_instance

structure Process where
  db : Db
  accumulator : TaskDiscoveryBatchAccumulator

/-- What a method of the service does between two `await`s. -/
inductive ServiceOp where
  | authorizeBatch (b : DiscoveryBatch) (now : Time)
  | add (b : DiscoveryBatch)
  | complete (r : DiscoveryReport) (now : Time)
  | converge (r : DiscoveryReport) (candidates : Option (List DouyinCandidate)) (receivedAt : Time)
      (ids : Nat → TargetId)
  | clear (r : DiscoveryReport)
  | other (o : Op)

abbrev ServiceOp.Ret : ServiceOp → Type
  | .authorizeBatch .. => Bool
  | .add .. => Bool
  | .complete .. => Option (Option (List DouyinCandidate))
  | .converge .. => Option TaskDiscoveryConvergenceResult
  | .clear .. => Unit
  | .other o => o.Ret

/-- What raises changes nothing. -/
def serve : (o : ServiceOp) → Process → o.Ret × Process
  | .authorizeBatch b now, s => (decide (receivedInTime b.message now ∧ authorizeBatch b s.db), s)
  | .add b, s => ((s.accumulator.add b).isSome, ⟨s.db, (s.accumulator.add b).getD s.accumulator⟩)
  | .complete r now, s =>
    (if receivedInTime r.message now then s.accumulator.complete r else none, s)
  | .converge r candidates receivedAt ids, s =>
    (s.db.atomic (converge r candidates receivedAt ids s.db)).map id fun db => { s with db }
  | .clear r, s => ((), ⟨s.db, s.accumulator.clear r⟩)
  | .other o, s => ((exec o s.db).1, ⟨(exec o s.db).2, s.accumulator⟩)

/-- Whether the batch was accepted.
mirrors application/task_discovery.py:340-351 -/
def receiveBatch (b : DiscoveryBatch) (now : Time) : Prog ServiceOp ServiceOp.Ret Bool :=
  .call (.authorizeBatch b now) fun authorized =>
    if authorized then .call (.add b) fun added => pure added else pure false

/-- mirrors application/task_discovery.py:353-373 -/
def receiveReport (r : DiscoveryReport) (now : Time) (ids : Nat → TargetId) :
    Prog ServiceOp ServiceOp.Ret (Option TaskDiscoveryConvergenceResult) :=
  .call (.complete r now) fun completed =>
    match completed with
    | none => pure none
    | some candidates =>
      .call (.converge r candidates now ids) fun converged =>
        match converged with
        | none => pure none
        | some result => .call (.clear r) fun _ => pure (some result)

/-- A new process on a database. -/
def started (db : Db) : Process := ⟨db, .empty⟩

/-- The attempts the accumulator keeps, the oldest first. -/
def attempts (s : Process) : List AttemptKey := s.accumulator.states.rows.map (·.key)

/-- Which attempts are open after one more answer: an accepted batch opens its attempt, an
accepted report closes it. -/
def opened (ks : List AttemptKey) : Call ServiceOp ServiceOp.Ret → List AttemptKey
  | ⟨.add b, true⟩ => if b.key ∈ ks then ks else ks ++ [b.key]
  | ⟨.clear r, _⟩ => ks.filter fun k => k ≠ reportKey r
  | _ => ks

theorem mem_keys_iff {acc : TaskDiscoveryBatchAccumulator} {k : AttemptKey} :
    k ∈ acc.states.rows.map (·.key) ↔ (acc.state? k).isSome := by
  rw [Option.isSome_iff_exists, List.mem_map]
  constructor
  · rintro ⟨s, hs, hk⟩
    exact ⟨s, state?_eq_some.2 ⟨hs, hk⟩⟩
  · rintro ⟨s, hs⟩
    exact ⟨s, state?_eq_some.1 hs⟩

/-- An accepted batch opens its attempt. -/
theorem keys_add {acc acc' : TaskDiscoveryBatchAccumulator} {b : DiscoveryBatch}
    (h : acc.add b = some acc') :
    acc'.states.rows.map (·.key) =
      if b.key ∈ acc.states.rows.map (·.key) then acc.states.rows.map (·.key)
      else acc.states.rows.map (·.key) ++ [b.key] := by
  unfold add at h
  cases hs : acc.state? b.key with
  | none =>
    have hnot : b.key ∉ acc.states.rows.map (·.key) := by
      rw [mem_keys_iff, hs]
      exact Bool.false_ne_true
    rw [if_neg hnot]
    rw [hs] at h
    dsimp only at h
    split at h
    · cases h
    · obtain ⟨s', hrec, h⟩ := Option.bind_eq_some_iff.1 h
      obtain ⟨states, hins, h⟩ := Option.bind_eq_some_iff.1 h
      cases h
      show states.rows.map _ = _
      rw [Table.insert?_rows hins, List.map_append, List.map_singleton, (record_key hrec).1]
  | some s =>
    have hmem : b.key ∈ acc.states.rows.map (·.key) := by
      rw [mem_keys_iff, hs]
      rfl
    rw [if_pos hmem]
    rw [hs] at h
    obtain ⟨s', -, h⟩ := Option.bind_eq_some_iff.1 h
    cases h
    show (acc.states.rows.map _).map _ = _
    rw [List.map_map]
    refine List.map_congr_left fun r _ => ?_
    dsimp only [Function.comp]
    split <;> rfl

theorem keys_clear (acc : TaskDiscoveryBatchAccumulator) (r : DiscoveryReport) :
    (acc.clear r).states.rows.map (·.key) =
      (acc.states.rows.map (·.key)).filter fun k => k ≠ reportKey r := by
  show (acc.states.rows.filter _).map _ = _
  rw [List.filter_map]
  congr 1
  refine List.filter_congr fun s _ => ?_
  simp

/-- The attempts kept follow the answers. -/
theorem attempts_serve (o : ServiceOp) (s : Process) :
    attempts (serve o s).2 = opened (attempts s) ⟨o, (serve o s).1⟩ := by
  cases o with
  | add b =>
    show ((s.accumulator.add b).getD s.accumulator).states.rows.map _ =
      opened _ ⟨.add b, ((s.accumulator.add b).isSome : Bool)⟩
    cases h : s.accumulator.add b with
    | none => rfl
    | some acc => exact keys_add h
  | clear r => exact keys_clear s.accumulator r
  | _ => rfl

theorem maximumAttempts_serve (o : ServiceOp) (s : Process) :
    (serve o s).2.accumulator.maximumAttempts = s.accumulator.maximumAttempts := by
  cases o with
  | add b =>
    show ((s.accumulator.add b).getD s.accumulator).maximumAttempts = _
    cases h : s.accumulator.add b with
    | none => rfl
    | some acc =>
      obtain ⟨s', -, -, -, hmax⟩ := add_eq_some h
      exact hmax
  | _ => rfl

/-- A first batch of an attempt without a state only needs room. -/
theorem add_first_isSome {acc : TaskDiscoveryBatchAccumulator} {b : DiscoveryBatch}
    (hfirst : b.payload.batchIndex = 1) (hnew : acc.state? b.key = none) :
    (acc.add b).isSome ↔ acc.states.rows.length < acc.maximumAttempts := by
  constructor
  · intro h
    unfold add at h
    rw [hnew] at h
    dsimp only at h
    split at h
    · cases h
    · rename_i hroom
      omega
  · intro hlt
    have hrec : (acc.current b).record b =
        some { (acc.current b) with batches := (acc.current b).batches ++ [b.accepted] } := by
      unfold current AccumulatedBatches.record
      rw [hnew, Option.getD_none]
      simp [AccumulatedBatches.batch?, hfirst]
    exact add_isSome hrec (.inr ⟨hlt, hfirst⟩)

end AutomationTool.ControlPlane.TaskDiscovery
