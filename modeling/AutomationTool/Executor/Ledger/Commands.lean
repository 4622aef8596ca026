import AutomationTool.Executor.Ledger.SideEffects

/-!
# Receiving a command

`receive` is `_receive_command`: an envelope whose message id or idempotency
key is stored is an exact replay or refused; a new one must be the next of its
attempt, in a checkpoint state that admits its type. The first command of an
attempt creates the checkpoint. An emergency stop also engages the latch and
settles every dispatched effect of its attempt as uncertain
(`engageEmergencyStop`), on a replay too.

`receive_some` says all of it: what a successful call found and stored
(`Stored`), and what an emergency stop then swept (`Swept`).
-/
namespace AutomationTool.Executor.Ledger

open Protocol Dispatch

/-! ## The parts -/

/-- The admitted actions of an attempt. -/
def admittedTo (s : Ledger) (e : ExecutionAttemptId) (a : ActionId) : Bool :=
  s.admissions.rows.any fun r => r.actionId = a && r.executionAttemptId = e

/-- mirrors ledger.py:1483-1520 -/
def engageEmergencyStop (s : Ledger) (e : ExecutionAttemptId) (changedAt : Time) :
    Option Ledger := do
  let s₁ ← s.engageActionLatch changedAt
  let s₂ := { s₁ with
    sideEffects := Book.sweep s₁.sideEffects (s₁.admittedTo e) (Record.settle none changedAt) }
  require (s₂.hasEffect e .dispatched = false) (some s₂)

/-- The types that may not open an attempt.
mirrors ledger.py:1380-1387 -/
def opensAttempt : CommandType → Bool
  | .taskOffer | .taskDiscover => true
  | _ => false

/-- mirrors ledger.py:1413-1425 -/
def requiredControlStates : CommandType → Option (List AttemptCheckpointState)
  | .taskPause => some [.running]
  | .taskResume => some [.paused]
  | .taskCancel => some [.running, .paused]
  | .taskEmergencyStop => some [.running, .paused]
  | .actionExecute => some [.running]
  | _ => none

/-- mirrors ledger.py:1389-1394 -/
def initialEventSequence (c : Command) : Nat :=
  match c.body with
  | .taskOffer baseline => baseline
  | _ => 0

/-- The checkpoint the first command of an attempt creates. -/
def firstCheckpoint (c : Command) : AttemptCheckpoint where
  taskId := c.taskId
  attemptId := c.executionAttemptId
  lastCommandSequence := 1
  lastEventSequence := initialEventSequence c
  state := .received
  revision := 1

/-- The state admits the type: `required_control_states`. -/
def admits (state : AttemptCheckpointState) (t : CommandType) : Prop :=
  ∀ states, requiredControlStates t = some states → state ∈ states

instance (state : AttemptCheckpointState) (t : CommandType) : Decidable (admits state t) :=
  match h : requiredControlStates t with
  | none => .isTrue fun states hs => by rw [h] at hs; cases hs
  | some states => decidable_of_iff (state ∈ states)
      ⟨fun hm l hl => by rw [h] at hl; cases hl; exact hm, fun ha => ha _ h⟩

/-- Advance the checkpoint, or create it, and store the command.
mirrors ledger.py:1371-1462 -/
def storeCommand (s : Ledger) (c : Command) : Option Ledger :=
  match s.checkpoint c.executionAttemptId with
  | none => require (c.sequence = 1 ∧ opensAttempt c.messageType = true) <| do
    let P ← s.checkpoints.insert? (firstCheckpoint c)
    let C ← s.commands.insert? c
    some { s with checkpoints := P, commands := C }
  | some p => require (p.taskId = c.taskId ∧ c.sequence = p.lastCommandSequence + 1 ∧
      admits p.state c.messageType) <| do
    let C ← s.commands.insert? c
    some { s with
      checkpoints := putCheckpoint s.checkpoints
        { p with lastCommandSequence := c.sequence, revision := p.revision + 1 }
      commands := C }

/-- The stop an emergency command carries; every other command carries none. -/
def applyStop (s : Ledger) (e : ExecutionAttemptId) : Option Time → Option Ledger
  | none => some s
  | some changedAt => s.engageEmergencyStop e changedAt

/-- `_receive_command`. mirrors ledger.py:1333-1481 -/
def receive (I : Site) (s : Ledger) (c : Command) (stopAt : Option Time) :
    Option (Reply Command × Ledger) :=
  require (c.installationId = I.installationId ∧ c.executorId = I.executorId ∧
      (c.messageType = .taskEmergencyStop ↔ stopAt.isSome = true)) <|
    match s.commands.rows.filter fun r =>
      r.messageId = c.messageId ∨ r.idempotencyKey = c.idempotencyKey with
    | r :: rs => require (rs = [] ∧ r.intent = c.intent) <| do
      let s' ← s.applyStop c.executionAttemptId stopAt
      some (⟨r, true⟩, s')
    | [] => do
      let s₁ ← s.storeCommand c
      let s' ← s₁.applyStop c.executionAttemptId stopAt
      some (⟨c, false⟩, s')

/-- mirrors ledger.py:1320-1321 -/
def receiveCommand (I : Site) (s : Ledger) (c : Command) : Option (Reply Command × Ledger) :=
  s.receive I c none

/-- mirrors ledger.py:1323-1331 -/
def receiveTaskEmergencyStop (I : Site) (s : Ledger) (c : Command) (changedAt : Time) :
    Option (Reply Command × Ledger) :=
  require (c.messageType = .taskEmergencyStop) <| s.receive I c (some changedAt)

/-- mirrors ledger.py:1559-1574 -/
def getCheckpoint (s : Ledger) (e : ExecutionAttemptId) : Option AttemptCheckpoint :=
  s.checkpoint e

/-- mirrors ledger.py:1576-1590 -/
def hasReceivedTaskEmergencyStop (s : Ledger) : Bool :=
  s.commands.rows.any fun c => c.messageType = .taskEmergencyStop

/-! ## What a successful call did -/

/-- A command was new and became the latest of its attempt. -/
inductive Stored (s : Ledger) (c : Command) : Ledger → Prop where
  | first {P : Table AttemptCheckpoint} {C : Table Command}
      (hnone : s.checkpoint c.executionAttemptId = none) (hseq : c.sequence = 1)
      (hopens : opensAttempt c.messageType = true)
      (hP : s.checkpoints.insert? (firstCheckpoint c) = some P)
      (hC : s.commands.insert? c = some C) :
      Stored s c { s with checkpoints := P, commands := C }
  | next {p : AttemptCheckpoint} {C : Table Command}
      (hp : s.checkpoint c.executionAttemptId = some p) (htask : p.taskId = c.taskId)
      (hseq : c.sequence = p.lastCommandSequence + 1) (hadmits : admits p.state c.messageType)
      (hC : s.commands.insert? c = some C) :
      Stored s c { s with
        checkpoints := putCheckpoint s.checkpoints
          { p with lastCommandSequence := c.sequence, revision := p.revision + 1 }
        commands := C }

/-- The latch was engaged and the attempt's dispatched effects settled, as of `t`. -/
structure Swept (s : Ledger) (e : ExecutionAttemptId) (t : Time) (s' : Ledger) : Prop where
  eq : ∃ g, s' = { s with
    guard := g
    sideEffects := Book.sweep s.sideEffects (s.admittedTo e) (Record.settle none t) } ∧
    g.engaged = true ∧ g.networkConnected = s.guard.networkConnected
  none_dispatched : s'.hasEffect e .dispatched = false

theorem storeCommand_some {s s' : Ledger} {c : Command} (h : s.storeCommand c = some s') :
    Stored s c s' := by
  unfold storeCommand at h
  split at h
  · rename_i hp
    obtain ⟨⟨hseq, hopens⟩, h⟩ := require_eq_some.1 h
    obtain ⟨P, hP, h⟩ := Option.bind_eq_some_iff.1 h
    obtain ⟨C, hC, h⟩ := Option.bind_eq_some_iff.1 h
    cases h
    exact .first hp hseq hopens hP hC
  · rename_i p hp
    obtain ⟨⟨htask, hseq, hadm⟩, h⟩ := require_eq_some.1 h
    obtain ⟨C, hC, h⟩ := Option.bind_eq_some_iff.1 h
    cases h
    exact .next hp htask hseq hadm hC

theorem engageEmergencyStop_some {s s' : Ledger} {e : ExecutionAttemptId} {t : Time}
    (h : s.engageEmergencyStop e t = some s') : Swept s e t s' := by
  obtain ⟨s₁, h₁, h⟩ := Option.bind_eq_some_iff.1 h
  obtain ⟨g, rfl, hg, hn⟩ := engageActionLatch_eq h₁
  obtain ⟨hd, h⟩ := require_eq_some.1 h
  cases h
  exact ⟨⟨g, rfl, hg, hn⟩, hd⟩

/-- `applyStop` leaves the ledger alone or sweeps it. -/
theorem applyStop_some {s s' : Ledger} {e : ExecutionAttemptId} {stopAt : Option Time}
    (h : s.applyStop e stopAt = some s') :
    (stopAt = none ∧ s' = s) ∨ ∃ t, stopAt = some t ∧ Swept s e t s' := by
  cases stopAt with
  | none => cases h; exact .inl ⟨rfl, rfl⟩
  | some t => exact .inr ⟨t, rfl, engageEmergencyStop_some h⟩

theorem receive_some {I : Site} {s s' : Ledger} {c : Command} {stopAt : Option Time}
    {r : Reply Command} (h : s.receive I c stopAt = some (r, s')) :
    c.installationId = I.installationId ∧ c.executorId = I.executorId ∧
      (c.messageType = .taskEmergencyStop ↔ stopAt.isSome = true) ∧
      ∃ s₁, ((r.replayed = true ∧ s₁ = s ∧ r.value ∈ s.commands ∧ r.value.intent = c.intent ∧
            s.commands.rows.filter (fun r =>
              r.messageId = c.messageId ∨ r.idempotencyKey = c.idempotencyKey) = [r.value]) ∨
          (r.replayed = false ∧ r.value = c ∧ Stored s c s₁ ∧ ∀ d ∈ s.commands,
            d.messageId ≠ c.messageId ∧ d.idempotencyKey ≠ c.idempotencyKey)) ∧
        ((stopAt = none ∧ s' = s₁) ∨
          ∃ t, stopAt = some t ∧ Swept s₁ c.executionAttemptId t s') := by
  obtain ⟨⟨hi, hx, hstop⟩, h⟩ := require_eq_some.1 h
  refine ⟨hi, hx, hstop, ?_⟩
  split at h
  · rename_i row rows hrows
    obtain ⟨⟨hnil, hint⟩, h⟩ := require_eq_some.1 h
    obtain ⟨t, ht, h⟩ := Option.bind_eq_some_iff.1 h
    cases h
    subst hnil
    have hmem : row ∈ s.commands.rows.filter fun r =>
        r.messageId = c.messageId ∨ r.idempotencyKey = c.idempotencyKey := by
      rw [hrows]
      exact List.mem_singleton_self row
    exact ⟨s, .inl ⟨rfl, rfl, (List.mem_filter.1 hmem).1, hint, hrows⟩, applyStop_some ht⟩
  · rename_i hrows
    obtain ⟨s₁, h₁, h⟩ := Option.bind_eq_some_iff.1 h
    obtain ⟨t, ht, h⟩ := Option.bind_eq_some_iff.1 h
    cases h
    refine ⟨s₁, .inr ⟨rfl, rfl, storeCommand_some h₁, fun d hd => ?_⟩, applyStop_some ht⟩
    have hno := List.filter_eq_nil_iff.1 hrows d hd
    simpa [not_or] using hno

theorem Stored.mem {s s' : Ledger} {c : Command} (h : Stored s c s') : c ∈ s'.commands := by
  cases h with
  | first _ _ _ _ hC => exact (Table.mem_insert? hC).2 (.inr rfl)
  | next _ _ _ _ hC => exact (Table.mem_insert? hC).2 (.inr rfl)

/-- The receipt is a stored command of the same intent. -/
theorem receive_known {I : Site} {s s' : Ledger} {c : Command} {stopAt : Option Time}
    {r : Reply Command} (h : s.receive I c stopAt = some (r, s')) :
    r.value ∈ s'.commands ∧ r.value.intent = c.intent := by
  obtain ⟨-, -, -, s₁, h₁, h₂⟩ := receive_some h
  have hs : s'.commands = s₁.commands := by
    obtain ⟨-, rfl⟩ | ⟨t, -, ⟨g, rfl, -⟩, -⟩ := h₂ <;> rfl
  rw [hs]
  obtain ⟨-, rfl, hm, hi, -⟩ | ⟨-, hv, hst, -⟩ := h₁
  · exact ⟨hm, hi⟩
  · rw [hv]
    exact ⟨hst.mem, rfl⟩

end AutomationTool.Executor.Ledger
