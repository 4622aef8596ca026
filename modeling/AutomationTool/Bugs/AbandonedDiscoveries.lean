import AutomationTool.ControlPlane.DiscoveryConvergence

/-!
# Abandoned discoveries fill the accumulator

Behaviour (application/task_discovery.py:232-301):
`add` keeps one state per attempt and refuses the first batch of another attempt while 32
are kept; `clear` removes a state, and only an accepted final report calls it. The state of
an attempt that delivered a batch and never came to its report stays for as long as the
process runs; its report of a failure is even refused for the state's sake.

Evidence: the class docstring, "Bounded memory rebuilt from the Executor's durable ordered
Outbox on reconnect": what is rebuilt need not be kept, and the bound is not to refuse the
attempts of installations that abandoned nothing.

Counterexample: 32 installations deliver the first of two batches and are gone; the first
batch of installation 33 is refused.

`first_batch_accepted_iff`: the first batch of a new attempt is accepted exactly when fewer
than 32 attempts are open in the process.
-/
namespace AutomationTool.Bugs.AbandonedDiscoveries

open ControlPlane ControlPlane.TaskDiscovery Protocol TaskDiscoveryBatchAccumulator

/-- The attempts of which the process accepted a batch, and no report since. -/
def openAttempts (db : Db) (os : List ServiceOp) : List AttemptKey :=
  (replies serve (started db) os).foldl opened []

/-- The answers tell which attempts the accumulator keeps. -/
theorem attempts_after (os : List ServiceOp) (s : Process) :
    attempts (after serve s os) = (replies serve s os).foldl opened (attempts s) := by
  induction os generalizing s with
  | nil => rfl
  | cons o os ih =>
    show attempts (after serve (serve o s).2 os) = _
    rw [ih, attempts_serve]
    rfl

theorem maximumAttempts_after (db : Db) (os : List ServiceOp) :
    (after serve (started db) os).accumulator.maximumAttempts = maxAccumulatedAttempts :=
  after_inv (P := fun s => s.accumulator.maximumAttempts = maxAccumulatedAttempts)
    (fun o _ s hs => (maximumAttempts_serve o s).trans hs) rfl

/-- Whether `receiveBatch` accepts the batch, where the calls `os` of others come between
its two. -/
def acceptedAmid (os : List ServiceOp) (b : DiscoveryBatch) (now : Time) (s : Process) : Bool :=
  (serve (.authorizeBatch b now) s).1 && (serve (.add b) (after serve s os)).1

theorem run_receiveBatch (b : DiscoveryBatch) (now : Time) (s : Process) :
    ((receiveBatch b now).run serve s).1 = some (acceptedAmid [] b now s) := by
  show (Prog.run serve (if (serve (.authorizeBatch b now) s).1 = true then _ else _) s).1 =
    some ((serve (.authorizeBatch b now) s).1 && _)
  cases (serve (.authorizeBatch b now) s).1 with
  | true => rfl
  | false => rfl

/-- However long the process ran, on whatever database, and whatever others do while the
batch is authorized: the first batch of an active attempt that is not open is accepted
exactly when fewer than 32 attempts are. -/
theorem first_batch_accepted_iff (db : Db) (os os' : List ServiceOp) (b : DiscoveryBatch)
    (now : Time) (hfirst : b.payload.batchIndex = 1) (htime : receivedInTime b.message now)
    (hactive : activeAttempt b (after serve (started db) os).db)
    (hnew : b.key ∉ openAttempts db (os ++ os')) :
    acceptedAmid os' b now (after serve (started db) os) = true ↔
      (openAttempts db (os ++ os')).length < maxAccumulatedAttempts := by
  have hkeys : attempts (after serve (started db) (os ++ os')) = openAttempts db (os ++ os') :=
    attempts_after _ _
  have hstate : (after serve (started db) (os ++ os')).accumulator.state? b.key = none := by
    rw [← Option.not_isSome_iff_eq_none, ← mem_keys_iff]
    rw [← hkeys] at hnew
    exact hnew
  have hlength : (after serve (started db) (os ++ os')).accumulator.states.rows.length =
      (openAttempts db (os ++ os')).length := by
    rw [← hkeys, attempts, List.length_map]
  have hadd := add_first_isSome hfirst hstate
  rw [maximumAttempts_after, hlength] at hadd
  rw [← hadd, acceptedAmid, ← after_append]
  have hauth : (serve (.authorizeBatch b now) (after serve (started db) os)).1 = true :=
    decide_eq_true ⟨htime, .inl hactive⟩
  rw [hauth, Bool.true_and]
  exact Iff.rfl

/-! ## Thirty-three installations -/

theorem browse_plain : (none : Option String) = none ↔ DouyinSearchExposureAction.browse = .browse := by
  decide

def browsing : DouyinSearchExposureDefinition where
  searchKeyword := "tea"
  action := .browse
  messageTemplate := none
  targetLimit := 2
  minimumIntervalSeconds := 1
  maximumIntervalSeconds := 1
  template_closed := browse_plain
  target_mem := (by decide : 0 < 2 ∧ _)
  minimum_pos := Nat.one_pos
  minimum_le := Nat.one_pos
  maximum_le := Nat.succ_pos _

/-- Installation `n` registers and is healthy, creates a task and starts a discovery, which
its executor accepts. -/
def discovering (n : Nat) : List ServiceOp :=
  [.other (.register n (seconds 1)),
    .other (.convergeHealth ⟨n, .healthy, 1, seconds 1, seconds 1⟩),
    .other (.create ⟨n, n, .other "create", browsing, seconds 1⟩),
    .other (.startDiscovery
      { messageId := n
        correlationId := n
        executionAttemptId := n
        installationId := n
        taskId := n
        idempotencyKey := .other "discover"
        createdAt := seconds 2
        deadlineAt := seconds 182
        deadline_later := (by decide : seconds 182 > seconds 2) }),
    .other (.claimNext ⟨n, seconds 3, seconds 13, seconds 0, false⟩ fun _ => false),
    .other (.markDelivered n 2 (seconds 3)),
    .other (.acknowledge ⟨n, n, n, n, n, 1, .taskAccept, .accepted true⟩ (seconds 4))]

def found : DouyinDiscoveryBatchPayload := ⟨1, 1, 2, [⟨"one", "one", none, 1⟩]⟩

/-- The first of the two batches of installation `n`. -/
def batch (n : Nat) : DiscoveryBatch where
  message :=
    { messageId := 100 + n
      sentAt := seconds 4
      deadlineAt := seconds 34
      installationId := n
      executorId := n
      correlationId := n
      idempotencyKey := .discoveryBatch n 1
      sequence := 2
      taskId := n
      executionAttemptId := n
      body := .discoveryBatch found
      sequence_pos := Nat.two_pos
      sequence_le := (by decide : 1 < maxExecutorSequence) }
  payload := found
  body_eq := rfl

def delivering (n : Nat) : List ServiceOp :=
  [.authorizeBatch (batch n) (seconds 5), .add (batch n)]

/-- The first `k` installations deliver a batch and are gone; the next one has its discovery
accepted. -/
def abandoned (k : Nat) : List ServiceOp :=
  ((List.range k).flatMap fun n => discovering (n + 1) ++ delivering (n + 1)) ++ discovering (k + 1)

/-- One abandoned discovery leaves room for the next. -/
theorem second_installation_accepted :
    acceptedAmid [] (batch 2) (seconds 5) (after serve (started Db.empty) (abandoned 1)) = true ∧
    (openAttempts Db.empty (abandoned 1)).length < maxAccumulatedAttempts := by
  have h : (openAttempts Db.empty (abandoned 1)).length < maxAccumulatedAttempts := by decide
  refine ⟨?_, h⟩
  rw [first_batch_accepted_iff Db.empty (abandoned 1) [] (batch 2) (seconds 5) rfl (by decide)
    (by decide) (by decide), List.append_nil]
  exact h

/-- **Counterexample**: after 32 abandoned discoveries the first batch of installation 33 is
refused. -/
theorem thirty_third_refused :
    ¬∀ (os : List ServiceOp) (b : DiscoveryBatch) (now : Time), b.payload.batchIndex = 1 →
      receivedInTime b.message now → activeAttempt b (after serve (started Db.empty) os).db →
      b.key ∉ openAttempts Db.empty os →
      ((receiveBatch b now).run serve (after serve (started Db.empty) os)).1 = some true := by
  intro h
  have hrun : activeAttempt (batch 33) (after serve (started Db.empty) (abandoned 32)).db ∧
      (batch 33).key ∉ openAttempts Db.empty (abandoned 32) ∧
      acceptedAmid [] (batch 33) (seconds 5) (after serve (started Db.empty) (abandoned 32)) =
        false := by
    decide +kernel
  obtain ⟨hactive, hnew, hrefused⟩ := hrun
  have haccepted := h (abandoned 32) (batch 33) (seconds 5) rfl (by decide) hactive hnew
  rw [run_receiveBatch, hrefused] at haccepted
  cases haccepted

end AutomationTool.Bugs.AbandonedDiscoveries
