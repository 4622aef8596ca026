import AutomationTool.Executor.Ledger.Commands

/-!
# The outbox

Messages leave the executor through one table, in `ordinal` order. Two writers
live here: `enqueueOutbox` appends one message for a stored command,
`commitOutcome` appends a whole batch and moves the checkpoint with it, guarded
by the revision its caller read. Nothing is ever deleted; delivery only moves
the two flags of a row (`…_sent`).
-/
namespace AutomationTool.Executor.Ledger

open Protocol Dispatch

/-- mirrors ledger.py:188-192 -/
structure OutboxEntry where
  message : Outbound
  sourceMessageId : MessageId
  replayed : Bool
  deriving DecidableEq

/-! ## Appending -/

/-- `SELECT COALESCE(MAX(ordinal), 0) + 1 FROM executor_outbox`. -/
def nextOrdinal (sent : List OutboxFact) : Nat := (sent.map (·.ordinal)).max?.getD 0 + 1

/-- The rows of a batch, with consecutive ordinals. -/
def newRows (source : MessageId) : Nat → List Outbound → List OutboxRow
  | _, [] => []
  | n, m :: ms => ⟨⟨n, m, source⟩, false, false⟩ :: newRows source (n + 1) ms

def append? (s : Ledger) (source : MessageId) (messages : List Outbound) :
    Option (Table OutboxRow) :=
  s.outbox.insertAll? (newRows source (nextOrdinal s.sent) messages)

/-- `_require_pending_outbox_capacity`.
mirrors ledger.py:3155-3171 -/
def hasCapacity (I : Site) (s : Ledger) (messages : List Outbound) : Bool :=
  let pending := s.outbox.rows.filter fun r => !r.delivered && !r.expired
  pending.length + messages.length ≤ maxPendingOutboxEntries &&
    (pending.map fun r => I.envelopeBytes r.message).sum + (messages.map I.envelopeBytes).sum ≤
      maxPendingOutboxBytes

/-- `_require_outbound_identity`.
mirrors ledger.py:2569-2582 -/
def ownMessage (I : Site) (m : Outbound) : Prop :=
  m.installationId = I.installationId ∧ m.executorId = I.executorId

/-- The message answers the command: same task, attempt and correlation. -/
def answers (m : Outbound) (c : Command) : Prop :=
  c.taskId = m.taskId ∧ c.executionAttemptId = m.executionAttemptId ∧
    c.correlationId = m.correlationId

instance (I : Site) (m : Outbound) : Decidable (ownMessage I m) := inferInstanceAs (Decidable (_ ∧ _))
instance (m : Outbound) (c : Command) : Decidable (answers m c) :=
  inferInstanceAs (Decidable (_ ∧ _ ∧ _))

/-- mirrors ledger.py:2040-2119 -/
def enqueueOutbox (I : Site) (s : Ledger) (source : MessageId) (m : Outbound) :
    Option (OutboxEntry × Ledger) :=
  require (ownMessage I m) <|
    match s.sent.filter fun r =>
      r.message.messageId = m.messageId ∨ r.message.idempotencyKey = m.idempotencyKey with
    | r :: rs => require (rs = [] ∧ r.message = m ∧ r.sourceMessageId = source) <|
      some (⟨r.message, r.sourceMessageId, true⟩, s)
    | [] => do
      let c ← s.command source
      require (answers m c ∧ s.hasCapacity I [m] = true) <| do
        let O ← s.append? source [m]
        some (⟨m, source, false⟩, { s with outbox := O })

/-- mirrors ledger.py:2269-2395 -/
def commitOutcome (I : Site) (s : Ledger) (source : MessageId) (expectedCheckpointRevision : Nat)
    (checkpointState : AttemptCheckpointState) (lastEventSequence : Nat)
    (messages : List Outbound) : Option (List OutboxEntry × Ledger) :=
  require (0 < expectedCheckpointRevision ∧ lastEventSequence ≤ maxExecutorSequence ∧
      1 ≤ messages.length ∧ messages.length ≤ 100 ∧ (∀ m ∈ messages, ownMessage I m) ∧
      (messages.map (·.messageId)).Nodup ∧ (messages.map (·.idempotencyKey)).Nodup) <| do
    let c ← s.command source
    require ((∀ m ∈ messages, answers m c) ∧ (∀ r ∈ s.sent, r.sourceMessageId ≠ source)) <| do
      let p ← s.checkpoint c.executionAttemptId
      require (p.revision = expectedCheckpointRevision ∧
          p.lastEventSequence ≤ lastEventSequence ∧ s.hasCapacity I messages = true) <| do
        let O ← s.append? source messages
        some (messages.map fun m => ⟨m, source, false⟩, { s with
          checkpoints := putCheckpoint s.checkpoints { p with
            state := checkpointState
            lastEventSequence := lastEventSequence
            revision := p.revision + 1 }
          outbox := O })

/-! ## Reading and delivering -/

/-- mirrors ledger.py:2397-2419 -/
def outboxForCommand (s : Ledger) (source : MessageId) : List OutboxEntry :=
  (s.sent.filter fun r => r.sourceMessageId = source).map fun r =>
    ⟨r.message, r.sourceMessageId, true⟩

/-- An update of the two flags. -/
def setFlags (delivered expired : OutboxRow → Bool) (r : OutboxRow) : OutboxRow :=
  { r with delivered := delivered r, expired := expired r }

theorem keepsKeys_setFlags (d e : OutboxRow → Bool) : Table.KeepsKeys (setFlags d e) :=
  fun _ _ => Iff.rfl

/-- mirrors ledger.py:2421-2434 -/
def requeueDeliveredOutbox (s : Ledger) : Nat × Ledger :=
  (s.outbox.rows.countP fun r => r.delivered && !r.expired, { s with
    outbox := s.outbox.updateWhere (fun r => r.delivered && !r.expired) _
      (keepsKeys_setFlags (fun _ => false) (·.expired)) })

/-- The rows `outbox_for_delivery` reads. Its pages resume after the last ordinal
they saw, so together they are one scan. -/
def scanned (recoverDelivered : Bool) (r : OutboxRow) : Bool :=
  !r.expired && (!r.delivered || recoverDelivered)

/-- mirrors ledger.py:2436-2505 -/
def outboxForDelivery (s : Ledger) (observedAt : Time) (recoverDelivered : Bool) :
    List OutboxEntry × Ledger :=
  ((s.outbox.rows.filter fun r =>
      scanned recoverDelivered r && observedAt < r.message.deadlineAt).map fun r =>
        ⟨r.message, r.sourceMessageId, true⟩,
    { s with
      outbox := s.outbox.updateWhere (scanned recoverDelivered) _
        (keepsKeys_setFlags
          -- `recovered_ids`: only a row that is still in time is queued again
          (fun r => r.delivered && !(recoverDelivered && decide (observedAt < r.message.deadlineAt)))
          (fun r => decide (r.message.deadlineAt ≤ observedAt))) })

/-- mirrors ledger.py:2533-2557 -/
def markOutboxDelivered (s : Ledger) (m : MessageId) : Option (Bool × Ledger) := do
  let r ← s.outbox.find? fun r => r.message.messageId = m
  if r.delivered then some (false, s)
  else some (true, { s with
    outbox := s.outbox.updateWhere (fun r => r.message.messageId = m && !r.delivered) _
      (keepsKeys_setFlags (fun _ => true) (·.expired)) })

/-! ## What the writers did -/

/-- The facts of a batch. -/
def newFacts (source : MessageId) (n : Nat) (messages : List Outbound) : List OutboxFact :=
  (newRows source n messages).map OutboxRow.toOutboxFact

@[simp] theorem newFacts_nil (source : MessageId) (n : Nat) : newFacts source n [] = [] := rfl

@[simp] theorem newFacts_cons (source : MessageId) (n : Nat) (m : Outbound) (ms : List Outbound) :
    newFacts source n (m :: ms) = ⟨n, m, source⟩ :: newFacts source (n + 1) ms := rfl

theorem mem_newFacts {source : MessageId} {n : Nat} {ms : List Outbound} {f : OutboxFact}
    (h : f ∈ newFacts source n ms) : f.sourceMessageId = source ∧ f.message ∈ ms := by
  induction ms generalizing n with
  | nil => cases h
  | cons m ms ih =>
    rcases List.mem_cons.1 h with rfl | h
    · exact ⟨rfl, List.mem_cons_self⟩
    · exact ⟨(ih h).1, List.mem_cons_of_mem _ (ih h).2⟩

theorem newFacts_ordinals (source : MessageId) (n : Nat) (ms : List Outbound) :
    (newFacts source n ms).map (·.ordinal) = List.range' n ms.length := by
  induction ms generalizing n with
  | nil => rfl
  | cons m ms ih => simp [List.range'_succ, ih]

/-- What an append did: the batch stands at the end, and no old message shares
an id or a key with a new one. -/
theorem append?_some {s : Ledger} {source : MessageId} {ms : List Outbound}
    {O : Table OutboxRow} (h : s.append? source ms = some O) :
    O.rows.map OutboxRow.toOutboxFact = s.sent ++ newFacts source (nextOrdinal s.sent) ms := by
  rw [Table.insertAll?_rows h, List.map_append]
  rfl

theorem enqueueOutbox_some {I : Site} {s s' : Ledger} {source : MessageId} {m : Outbound}
    {r : OutboxEntry} (h : s.enqueueOutbox I source m = some (r, s')) :
    (r.replayed = true ∧ s' = s) ∨ (r.replayed = false ∧
      ∃ c O, s.command source = some c ∧ answers m c ∧ s.append? source [m] = some O ∧
        s' = { s with outbox := O }) := by
  obtain ⟨-, h⟩ := require_eq_some.1 h
  split at h
  · obtain ⟨-, h⟩ := require_eq_some.1 h
    cases h
    exact .inl ⟨rfl, rfl⟩
  · obtain ⟨c, hc, h⟩ := Option.bind_eq_some_iff.1 h
    obtain ⟨⟨ha, -⟩, h⟩ := require_eq_some.1 h
    obtain ⟨O, hO, h⟩ := Option.bind_eq_some_iff.1 h
    cases h
    exact .inr ⟨rfl, c, O, hc, ha, hO, rfl⟩

theorem commitOutcome_some {I : Site} {s s' : Ledger} {source : MessageId} {rev : Nat}
    {st : AttemptCheckpointState} {last : Nat} {ms : List Outbound} {r : List OutboxEntry}
    (h : s.commitOutcome I source rev st last ms = some (r, s')) :
    ∃ c p O, s.command source = some c ∧ s.checkpoint c.executionAttemptId = some p ∧
      p.revision = rev ∧ p.lastEventSequence ≤ last ∧ last ≤ maxExecutorSequence ∧
      (∀ m ∈ ms, answers m c) ∧ (∀ f ∈ s.sent, f.sourceMessageId ≠ source) ∧
      s.append? source ms = some O ∧ s' = { s with
        checkpoints := putCheckpoint s.checkpoints
          { p with state := st, lastEventSequence := last, revision := p.revision + 1 }
        outbox := O } := by
  obtain ⟨⟨-, hlast, -, -, -, -, -⟩, h⟩ := require_eq_some.1 h
  obtain ⟨c, hc, h⟩ := Option.bind_eq_some_iff.1 h
  obtain ⟨⟨ha, hs⟩, h⟩ := require_eq_some.1 h
  obtain ⟨p, hp, h⟩ := Option.bind_eq_some_iff.1 h
  obtain ⟨⟨hrev, hle, -⟩, h⟩ := require_eq_some.1 h
  obtain ⟨O, hO, h⟩ := Option.bind_eq_some_iff.1 h
  cases h
  exact ⟨c, p, O, hc, hp, hrev, hle, hlast, ha, hs, hO, rfl⟩

/-! ## Delivery changes flags only -/

theorem updateWhere_setFlags_sent (O : Table OutboxRow) (p : OutboxRow → Bool)
    (d e : OutboxRow → Bool) :
    (O.updateWhere p _ (keepsKeys_setFlags d e)).rows.map OutboxRow.toOutboxFact =
      O.rows.map OutboxRow.toOutboxFact := by
  unfold Table.updateWhere
  rw [List.map_map]
  refine List.map_congr_left fun r _ => ?_
  dsimp only [Function.comp]
  split <;> rfl

/-- Two ledgers that differ in the flags of their outbox rows. -/
def SameFacts (s s' : Ledger) : Prop :=
  ∃ O, s' = { s with outbox := O } ∧ O.rows.map OutboxRow.toOutboxFact = s.sent

theorem requeueDeliveredOutbox_sent (s : Ledger) : SameFacts s s.requeueDeliveredOutbox.2 :=
  ⟨_, rfl, updateWhere_setFlags_sent _ _ _ _⟩

theorem outboxForDelivery_sent (s : Ledger) (t : Time) (b : Bool) :
    SameFacts s (s.outboxForDelivery t b).2 := ⟨_, rfl, updateWhere_setFlags_sent _ _ _ _⟩

theorem markOutboxDelivered_sent {s s' : Ledger} {m : MessageId} {b : Bool}
    (h : s.markOutboxDelivered m = some (b, s')) : SameFacts s s' := by
  obtain ⟨r, -, h⟩ := Option.bind_eq_some_iff.1 h
  split at h
  · cases h
    exact ⟨_, rfl, rfl⟩
  · cases h
    exact ⟨_, rfl, updateWhere_setFlags_sent _ _ _ _⟩

end AutomationTool.Executor.Ledger
