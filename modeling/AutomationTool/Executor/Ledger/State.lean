import AutomationTool.Core.Dispatch
import AutomationTool.Protocol.Envelope

/-!
# The executor's ledger: one SQLite file

The tables of schema version 9, as `executor/ledger.py`
reads and writes them. Every public method of `ExecutorLedger` is one
`BEGIN IMMEDIATE … COMMIT` transaction (or one `SELECT`), so a method is a
function from the ledger to a result and a new ledger; `none` is
`ExecutorLedgerRejected`, after which SQLite has rolled everything back.

* A stored command is the envelope it was written from. The source keeps a
  redacted envelope of an `action.execute` command; nothing reads back what it
  leaves out.
* The two foreign keys into `executor_commands` and `executor_action_admissions`
  never fire: each insert follows a lookup of its parent row in the same
  transaction.
* A 32-byte fingerprint is the document that was hashed (`Digest`).
* The UTF-8 length of an outbound envelope is a parameter of the site, as the
  ledger only adds these lengths up.
-/
namespace AutomationTool.Executor.Ledger

open Protocol Dispatch

/-! ## Limits -/

/-- mirrors ledger.py:48-54 -/
def maxOutboxBatch : Nat := 1000
def maxPendingOutboxEntries : Nat := 1000
def maxPendingOutboxBytes : Nat := 16 * 1024 * 1024
def maxLocalActionIntervalSeconds : Nat := 3600
def maxLocalTaskActions : Nat := 100
def maxUnresolvedSideEffects : Nat := 100

/-! ## Rows -/

/-- mirrors ledger.py:91-96 -/
inductive AttemptCheckpointState where
  | received | running | paused | terminal | outcomeUncertain
  deriving DecidableEq, Repr

/-- mirrors ledger.py:134-141 -/
structure AttemptCheckpoint where
  taskId : TaskId
  attemptId : ExecutionAttemptId
  lastCommandSequence : Nat
  lastEventSequence : Nat
  state : AttemptCheckpointState
  revision : Nat
  deriving DecidableEq

instance : Row AttemptCheckpoint where
  apart a b := a.attemptId ≠ b.attemptId
  symm h := Ne.symm h
  irrefl _ h := h rfl
  dec _ _ := inferInstanceAs (Decidable (_ ≠ _))

/-- `message_id`, `idempotency_key` and `(attempt_id, sequence)` are unique. -/
instance : Row Command where
  apart a b := a.messageId ≠ b.messageId ∧ a.idempotencyKey ≠ b.idempotencyKey ∧
    ¬(a.executionAttemptId = b.executionAttemptId ∧ a.sequence = b.sequence)
  symm h := ⟨h.1.symm, h.2.1.symm, fun e => h.2.2 ⟨e.1.symm, e.2.symm⟩⟩
  irrefl _ h := h.1 rfl
  dec _ _ := inferInstanceAs (Decidable (_ ∧ _ ∧ _))

/-- The columns of an outbox row that no statement updates. -/
structure OutboxFact where
  ordinal : Nat
  message : Outbound
  sourceMessageId : MessageId
  deriving DecidableEq

structure OutboxRow extends OutboxFact where
  delivered : Bool
  expired : Bool
  deriving DecidableEq

/-- `ordinal`, `message_id` and `idempotency_key` are unique. -/
instance : Row OutboxRow where
  apart a b := a.ordinal ≠ b.ordinal ∧ a.message.messageId ≠ b.message.messageId ∧
    a.message.idempotencyKey ≠ b.message.idempotencyKey
  symm h := ⟨h.1.symm, h.2.1.symm, h.2.2.symm⟩
  irrefl _ h := h.1 rfl
  dec _ _ := inferInstanceAs (Decidable (_ ∧ _ ∧ _))

/-- What a comment or direct message is about to do, as its effect fingerprint hashes it.
mirrors comment_action.py:446-466 -/
structure EffectIntent where
  action : DouyinSearchExposureAction
  actionId : ActionId
  executionAttemptId : ExecutionAttemptId
  executorId : ExecutorId
  idempotencyKey : IdempotencyKey
  installationId : InstallationId
  message : String
  targetId : TargetId
  taskId : TaskId
  deriving DecidableEq

/-- A 32-byte fingerprint; `bytes` is one that hashes none of the other documents. -/
inductive Digest where
  | authorization (actionId : ActionId)
  | effect (intent : EffectIntent)
  | verification (action : DouyinSearchExposureAction) (effect : Digest)
  | bytes (n : Nat)
  deriving DecidableEq

/-- A granted admission: the claims it was granted for, and when.
mirrors ledger.py:204-248 -/
@[ext] structure LocalActionAdmission extends ActionAuthorizationClaims where
  authorizationFingerprint : Digest
  admittedAt : Time
  taskActionOrdinal : Nat
  admitted_lt : admittedAt < deadlineAt
  ordinal_pos : 1 ≤ taskActionOrdinal
  ordinal_le : taskActionOrdinal ≤ maxLocalTaskActions

instance : DecidableEq LocalActionAdmission := fun _ _ => decidable_of_iff' _ LocalActionAdmission.ext_iff

/-- `action_id`, `idempotency_key` and `(task_id, platform, action, task_action_ordinal)`
are unique. -/
instance : Row LocalActionAdmission where
  apart a b := a.actionId ≠ b.actionId ∧ a.idempotencyKey ≠ b.idempotencyKey ∧
    ¬(a.taskId = b.taskId ∧ a.action = b.action ∧ a.taskActionOrdinal = b.taskActionOrdinal)
  symm h := ⟨h.1.symm, h.2.1.symm, fun e => h.2.2 ⟨e.1.symm, e.2.1.symm, e.2.2.symm⟩⟩
  irrefl _ h := h.1 rfl
  dec _ _ := inferInstanceAs (Decidable (_ ∧ _ ∧ _))

/-- The singleton row of `executor_action_guard`.
mirrors ledger.py:2870-2885,2999-3010 -/
structure ActionGuard where
  engaged : Bool
  revision : Nat
  changedAt : Option Time
  networkConnected : Bool
  check : (revision = 0 ∧ engaged = false ∧ changedAt = none) ∨
    (1 ≤ revision ∧ changedAt.isSome = true)
  deriving DecidableEq

/-- mirrors ledger.py:278-292 -/
@[ext] structure LocalActionHardPolicyBinding where
  minimumIntervalSeconds : Nat
  taskActionLimit : Nat
  interval_pos : 1 ≤ minimumIntervalSeconds
  interval_le : minimumIntervalSeconds ≤ maxLocalActionIntervalSeconds
  limit_pos : 1 ≤ taskActionLimit
  limit_le : taskActionLimit ≤ maxLocalTaskActions

instance : DecidableEq LocalActionHardPolicyBinding := fun _ _ => decidable_of_iff' _ LocalActionHardPolicyBinding.ext_iff

abbrev PublishJobId := Nat

/-- What the source calls the state of a side effect.
mirrors side_effect_ledger.py:14-18 -/
abbrev SideEffectState := Dispatch.State

abbrev EffectRecord := Record Digest Digest

end Ledger

open Ledger Protocol Dispatch

/-- The installation the ledger file is bound to. -/
structure Site where
  installationId : InstallationId
  executorId : ExecutorId
  /-- `len(envelope.encode("utf-8"))` of a canonical outbound envelope. -/
  envelopeBytes : Outbound → Nat

structure Ledger where
  checkpoints : Table AttemptCheckpoint
  /-- In `rowid` order. -/
  commands : Table Command
  /-- In the order of insertion, which is the order of `ordinal` (`ordinals_eq`). -/
  outbox : Table OutboxRow
  admissions : Table LocalActionAdmission
  sideEffects : Book ActionId Digest Digest
  publishDispatches : Book PublishJobId Digest Digest
  guard : ActionGuard
  policy : Option LocalActionHardPolicyBinding

namespace Ledger

/-- The file `_migrate_and_bind_identity` leaves behind. -/
def empty : Ledger where
  checkpoints := .empty
  commands := .empty
  outbox := .empty
  admissions := .empty
  sideEffects := .empty
  publishDispatches := .empty
  guard := ⟨false, 0, none, true, .inl ⟨rfl, rfl, rfl⟩⟩
  policy := none

/-! ## Lookups -/

def checkpointOf (t : Table AttemptCheckpoint) (e : ExecutionAttemptId) :
    Option AttemptCheckpoint := t.find? fun p => p.attemptId = e

def commandOf (t : Table Command) (m : MessageId) : Option Command :=
  t.find? fun c => c.messageId = m

def checkpoint (s : Ledger) (e : ExecutionAttemptId) : Option AttemptCheckpoint :=
  checkpointOf s.checkpoints e

def command (s : Ledger) (m : MessageId) : Option Command := commandOf s.commands m

def admission (s : Ledger) (a : ActionId) : Option LocalActionAdmission :=
  s.admissions.find? fun r => r.actionId = a

def effect (s : Ledger) (a : ActionId) : Option EffectRecord := s.sideEffects.lookup a

/-- Everything ever put in the outbox, delivered or not. -/
def sent (s : Ledger) : List OutboxFact := s.outbox.rows.map OutboxRow.toOutboxFact

theorem checkpointOf_eq_some {t : Table AttemptCheckpoint} {e : ExecutionAttemptId}
    {p : AttemptCheckpoint} : checkpointOf t e = some p ↔ p ∈ t ∧ p.attemptId = e := by
  rw [checkpointOf, Table.find?_eq_some_iff, decide_eq_true_eq]
  intro a b ha hb hab
  exact hab ((of_decide_eq_true ha).trans (of_decide_eq_true hb).symm)

theorem commandOf_eq_some {t : Table Command} {m : MessageId} {c : Command} :
    commandOf t m = some c ↔ c ∈ t ∧ c.messageId = m := by
  rw [commandOf, Table.find?_eq_some_iff, decide_eq_true_eq]
  intro a b ha hb hab
  exact hab.1 ((of_decide_eq_true ha).trans (of_decide_eq_true hb).symm)

theorem checkpoint_eq_some {s : Ledger} {e : ExecutionAttemptId} {p : AttemptCheckpoint} :
    s.checkpoint e = some p ↔ p ∈ s.checkpoints ∧ p.attemptId = e := checkpointOf_eq_some

theorem command_eq_some {s : Ledger} {m : MessageId} {c : Command} :
    s.command m = some c ↔ c ∈ s.commands ∧ c.messageId = m := commandOf_eq_some

theorem admission_eq_some {s : Ledger} {a : ActionId} {r : LocalActionAdmission} :
    s.admission a = some r ↔ r ∈ s.admissions ∧ r.actionId = a := by
  rw [admission, Table.find?_eq_some_iff, decide_eq_true_eq]
  intro x y hx hy hxy
  exact hxy.1 ((of_decide_eq_true hx).trans (of_decide_eq_true hy).symm)

/-! ## Writing a checkpoint -/

theorem keepsKeys_checkpoint (p : AttemptCheckpoint) :
    Table.KeepsKeys fun q : AttemptCheckpoint => { p with attemptId := q.attemptId } :=
  fun _ _ => Iff.rfl

/-- `UPDATE executor_attempt_checkpoints SET … WHERE attempt_id = ?`, with the
values of `p`. -/
def putCheckpoint (t : Table AttemptCheckpoint) (p : AttemptCheckpoint) :
    Table AttemptCheckpoint :=
  t.updateWhere (fun q => q.attemptId = p.attemptId) _ (keepsKeys_checkpoint p)

theorem checkpointOf_put (t : Table AttemptCheckpoint) (p : AttemptCheckpoint)
    (e : ExecutionAttemptId) :
    checkpointOf (putCheckpoint t p) e =
      if e = p.attemptId then (checkpointOf t e).map fun _ => p else checkpointOf t e := by
  unfold putCheckpoint checkpointOf
  rw [Table.find?_updateWhere (keepsKeys_checkpoint p) fun _ => rfl]
  cases h : t.find? fun q => q.attemptId = e with
  | none => simp
  | some q =>
    have hq : q.attemptId = e := of_decide_eq_true (Table.mem_of_find? h).2
    by_cases he : e = p.attemptId
    · subst hq
      simp [he]
    · simp [hq, he]

/-- Writing a checkpoint back changes nothing. -/
theorem putCheckpoint_self {t : Table AttemptCheckpoint} {p : AttemptCheckpoint} (h : p ∈ t) :
    putCheckpoint t p = t := by
  refine Table.ext ?_
  unfold putCheckpoint Table.updateWhere
  refine (List.map_congr_left fun q hq => ?_).trans (List.map_id _)
  by_cases hk : q.attemptId = p.attemptId
  · rw [Table.eq_of_not_apart (a := q) (b := p) hq h fun hab => hab hk]
    simp
  · simp [hk]

/-! ## Side effects of an attempt -/

/-- The attempt has a side effect in the given state:
`executor_side_effects JOIN executor_action_admissions` on the action. -/
def hasEffect (s : Ledger) (e : ExecutionAttemptId) (state : SideEffectState) : Bool :=
  s.admissions.rows.any fun r =>
    r.executionAttemptId = e && (s.effect r.actionId).any fun x => x.state = state

/-- A transaction's `if not p: raise`. -/
def require {α : Type} (p : Prop) [Decidable p] (k : Option α) : Option α :=
  if p then k else none

@[simp] theorem require_eq_some {α : Type} {p : Prop} [Decidable p] {k : Option α} {a : α} :
    require p k = some a ↔ p ∧ k = some a := by
  unfold require
  split <;> simp [*]

@[simp] theorem require_isSome {α : Type} {p : Prop} [Decidable p] {k : Option α} :
    (require p k).isSome = true ↔ p ∧ k.isSome = true := by
  unfold require
  split <;> simp [*]

end Ledger
end AutomationTool.Executor
