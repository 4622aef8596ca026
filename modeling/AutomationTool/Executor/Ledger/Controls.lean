import AutomationTool.Executor.Ledger.Outbox

/-!
# Task controls

A pause, resume, cancel or emergency stop takes effect in two steps: the command
is stored and acknowledged, and later its event is projected together with the
checkpoint's new state. `pendingTaskControls` lists what still has to be
projected, `completeTaskControl` projects one of them. A pause or cancel waits
while the attempt has a dispatched effect.

`pendingTaskControls` joins each command with its attempt's checkpoint on
`c.sequence = p.last_command_sequence`: only the latest command of an attempt
can be pending.
-/
namespace AutomationTool.Executor.Ledger

open Protocol Dispatch

/-! ## The controls -/

/-- The states a control may be projected in (`allowed_states`).
mirrors ledger.py:1769-1780,1871-1882 -/
def controlStates : CommandType → List AttemptCheckpointState
  | .taskPause => [.running]
  | .taskResume => [.paused]
  | .taskCancel | .taskEmergencyStop => [.running, .paused]
  | _ => []

/-- The events that project a control (`allowed_event_types`).
mirrors ledger.py:1791-1806,1883-1888 -/
def controlEvents : CommandType → List TaskEventType
  | .taskPause => [.taskPaused]
  | .taskResume => [.taskResumed]
  | .taskCancel => [.taskCancelled, .taskOutcomeUncertain]
  | .taskEmergencyStop => [.taskOutcomeUncertain]
  | _ => []

/-- mirrors ledger.py:1782-1787 -/
def acknowledged (s : Ledger) (m : MessageId) : Bool :=
  s.sent.any fun r => r.sourceMessageId = m && r.message.isControlAck

/-- An outbox row of the command carries one of the events. -/
def hasEvent (s : Ledger) (m : MessageId) (types : List TaskEventType) : Bool :=
  s.sent.any fun r => r.sourceMessageId = m && r.message.eventType.any types.contains

/-- The projection event of the command is in the outbox. -/
def projected (s : Ledger) (c : Command) : Bool := s.hasEvent c.messageId (controlEvents c.messageType)

/-- A pause or cancel waits for the dispatched effects of its attempt. -/
def waitsForEffects : CommandType → Bool
  | .taskPause | .taskCancel => true
  | _ => false

/-! ## Listing -/

/-- mirrors ledger.py:144-175 -/
structure PendingTaskControl where
  command : Command
  checkpointRevision : Nat
  nextEventSequence : Nat
  outcomeUncertain : Bool
  deriving DecidableEq

/-- `PendingTaskControl.__post_init__`. -/
def PendingTaskControl.valid (p : PendingTaskControl) : Bool :=
  !(controlStates p.command.messageType).isEmpty && 0 < p.checkpointRevision &&
    1 ≤ p.nextEventSequence && p.nextEventSequence ≤ maxExecutorSequence &&
    (!p.outcomeUncertain || p.command.messageType = .taskCancel ||
      p.command.messageType = .taskEmergencyStop) &&
    (p.command.messageType ≠ .taskEmergencyStop || p.outcomeUncertain)

/-- mirrors ledger.py:177-185 -/
def PendingTaskControl.eventType (p : PendingTaskControl) : TaskEventType :=
  match p.command.messageType with
  | .taskPause => .taskPaused
  | .taskResume => .taskResumed
  | .taskEmergencyStop => .taskOutcomeUncertain
  | _ => if p.outcomeUncertain then .taskOutcomeUncertain else .taskCancelled

/-- The `CASE` of the select.
mirrors ledger.py:1752-1763 -/
def outcomeUncertain (s : Ledger) (c : Command) : Bool :=
  match c.messageType with
  | .taskEmergencyStop => true
  | .taskCancel => s.hasEffect c.executionAttemptId .uncertain
  | _ => false

/-- One joined row of the select, when it passes the `WHERE`.
mirrors ledger.py:1764-1816 -/
def selectedControl (s : Ledger) (c : Command) : Option PendingTaskControl := do
  let p ← s.checkpoint c.executionAttemptId
  require (c.sequence = p.lastCommandSequence ∧ p.state ∈ controlStates c.messageType ∧
      s.acknowledged c.messageId = true ∧ s.projected c = false ∧
      (waitsForEffects c.messageType = true →
        s.hasEffect c.executionAttemptId .dispatched = false)) <|
    some ⟨c, p.revision, p.lastEventSequence + 1, s.outcomeUncertain c⟩

/-- The select, in `rowid` order. -/
def selectedControls (s : Ledger) : List PendingTaskControl :=
  s.commands.rows.filterMap s.selectedControl

/-- mirrors ledger.py:1742-1834 -/
def pendingTaskControls (s : Ledger) (limit : Nat) : Option (List PendingTaskControl) :=
  require (1 ≤ limit ∧ limit ≤ maxOutboxBatch ∧
      -- one row that cannot be built refuses the whole listing
      ∀ p ∈ s.selectedControls.take limit, p.valid = true) <|
    some (s.selectedControls.take limit)

theorem selectedControl_some {s : Ledger} {c : Command} {q : PendingTaskControl} :
    s.selectedControl c = some q ↔ ∃ p, s.checkpoint c.executionAttemptId = some p ∧
      c.sequence = p.lastCommandSequence ∧ p.state ∈ controlStates c.messageType ∧
      s.acknowledged c.messageId = true ∧ s.projected c = false ∧
      (waitsForEffects c.messageType = true →
        s.hasEffect c.executionAttemptId .dispatched = false) ∧
      q = ⟨c, p.revision, p.lastEventSequence + 1, s.outcomeUncertain c⟩ := by
  unfold selectedControl
  constructor
  · intro h
    obtain ⟨p, hp, h⟩ := Option.bind_eq_some_iff.1 h
    obtain ⟨⟨h1, h2, h3, h4, h5⟩, h⟩ := require_eq_some.1 h
    cases h
    exact ⟨p, hp, h1, h2, h3, h4, h5, rfl⟩
  · rintro ⟨p, hp, h1, h2, h3, h4, h5, rfl⟩
    exact Option.bind_eq_some_iff.2 ⟨p, hp, require_eq_some.2 ⟨⟨h1, h2, h3, h4, h5⟩, rfl⟩⟩

theorem mem_selectedControls {s : Ledger} {q : PendingTaskControl} :
    q ∈ s.selectedControls ↔ q.command ∈ s.commands ∧ s.selectedControl q.command = some q := by
  unfold selectedControls
  rw [List.mem_filterMap]
  constructor
  · rintro ⟨c, hc, h⟩
    obtain ⟨p, -, -, -, -, -, -, rfl⟩ := selectedControl_some.1 h
    exact ⟨hc, h⟩
  · rintro ⟨hc, h⟩
    exact ⟨q.command, hc, h⟩

/-! ## Projecting -/

/-- The state and the event a control leads to.
mirrors ledger.py:1955-1983 -/
def controlTarget (s : Ledger) (c : Command) : AttemptCheckpointState × TaskEventType :=
  match c.messageType with
  | .taskPause => (.paused, .taskPaused)
  | .taskResume => (.running, .taskResumed)
  | .taskEmergencyStop => (.outcomeUncertain, .taskOutcomeUncertain)
  | _ =>
    if s.hasEffect c.executionAttemptId .uncertain then (.outcomeUncertain, .taskOutcomeUncertain)
    else (.terminal, .taskCancelled)

/-- Any of the four control events of the command. -/
def existingControlEvent (s : Ledger) (m : MessageId) : Option OutboxFact :=
  s.sent.find? fun r => r.sourceMessageId = m && r.message.eventType.any
    [.taskPaused, .taskResumed, .taskCancelled, .taskOutcomeUncertain].contains

/-- mirrors ledger.py:1836-2038 -/
def completeTaskControl (I : Site) (s : Ledger) (source : MessageId)
    (expectedCheckpointRevision : Nat) (event : Outbound) :
    Option (Option OutboxEntry × Ledger) :=
  require (0 < expectedCheckpointRevision ∧ event.isTaskEvent = true ∧ ownMessage I event) <| do
    let c ← s.command source
    let p ← s.checkpoint c.executionAttemptId
    require (controlStates c.messageType ≠ []) <|
      match s.existingControlEvent source with
      | some r =>
        require (r.message.eventType.any (controlEvents c.messageType).contains = true ∧
            r.message.eventType = event.eventType ∧ answers r.message c ∧
            r.message.sequence = p.lastEventSequence ∧ answers event c ∧
            event.sequence = r.message.sequence) <|
          some (some ⟨r.message, r.sourceMessageId, true⟩, s)
      | none =>
        require (s.acknowledged source = true ∧ answers event c ∧
            event.eventType.any (controlEvents c.messageType).contains = true ∧
            c.sequence = p.lastCommandSequence ∧ p.state ∈ controlStates c.messageType ∧
            p.revision = expectedCheckpointRevision ∧
            event.sequence = p.lastEventSequence + 1) <|
          if waitsForEffects c.messageType && s.hasEffect c.executionAttemptId .dispatched then
            some (none, s)
          else require (event.eventType = some (s.controlTarget c).2 ∧
              s.hasCapacity I [event] = true) <| do
            let O ← s.append? source [event]
            some (some ⟨event, source, false⟩, { s with
              checkpoints := putCheckpoint s.checkpoints { p with
                state := (s.controlTarget c).1
                lastEventSequence := event.sequence
                revision := p.revision + 1 }
              outbox := O })

/-- What a control projection did: nothing (a replay, or an effect still in
flight), or the latest command of the attempt reached its target state. -/
theorem completeTaskControl_some {I : Site} {s s' : Ledger} {source : MessageId} {rev : Nat}
    {event : Outbound} {r : Option OutboxEntry}
    (h : s.completeTaskControl I source rev event = some (r, s')) :
    s' = s ∨ ∃ c p O, s.command source = some c ∧ s.checkpoint c.executionAttemptId = some p ∧
      c.sequence = p.lastCommandSequence ∧ p.state ∈ controlStates c.messageType ∧
      s.existingControlEvent source = none ∧
      (waitsForEffects c.messageType = true →
        s.hasEffect c.executionAttemptId .dispatched = false) ∧
      answers event c ∧ event.sequence = p.lastEventSequence + 1 ∧
      event.eventType = some (s.controlTarget c).2 ∧ s.append? source [event] = some O ∧
      s' = { s with
        checkpoints := putCheckpoint s.checkpoints { p with
          state := (s.controlTarget c).1
          lastEventSequence := event.sequence
          revision := p.revision + 1 }
        outbox := O } := by
  obtain ⟨-, h⟩ := require_eq_some.1 h
  obtain ⟨c, hc, h⟩ := Option.bind_eq_some_iff.1 h
  obtain ⟨p, hp, h⟩ := Option.bind_eq_some_iff.1 h
  obtain ⟨-, h⟩ := require_eq_some.1 h
  split at h
  · obtain ⟨-, h⟩ := require_eq_some.1 h
    cases h
    exact .inl rfl
  · rename_i hex
    obtain ⟨⟨-, ha, -, hseq, hst, -, hev⟩, h⟩ := require_eq_some.1 h
    split at h
    · cases h
      exact .inl rfl
    · rename_i hw
      obtain ⟨⟨hty, -⟩, h⟩ := require_eq_some.1 h
      obtain ⟨O, hO, h⟩ := Option.bind_eq_some_iff.1 h
      cases h
      refine .inr ⟨c, p, O, hc, hp, hseq, hst, hex, fun hwait => ?_, ha, hev, hty, hO, rfl⟩
      rw [hwait, Bool.true_and] at hw
      simpa using hw

end AutomationTool.Executor.Ledger
