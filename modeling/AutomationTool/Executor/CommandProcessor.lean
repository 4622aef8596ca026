import AutomationTool.Executor.ActionOperation
import AutomationTool.Executor.JournalInvariants

/-!
# The command processor

`handle` takes one command off the wire: it is stored before anything is done,
answered from the outbox when it was answered before, and otherwise worked on;
its outcome is committed against the checkpoint revision that was read first.
A control is stored and acknowledged, and then projected like every other
control that waits (`advanceControls`), which a poll does for all of them.

Between two calls of the ledger anything may happen to it: other handlers and
polls run too. `handle_issues` and `pollControls_issues`: whatever happens, the
operations issued are the ones `issued` describes.
-/
namespace AutomationTool.Executor

open Protocol Dispatch Ledger

/-! ## Messages -/

/-- One reading of the clock and one fresh id. -/
structure Stamp where
  now : Time
  id : MessageId

/-- mirrors command_processor.py:38 -/
def messageDeadline : Time := seconds 30

/-- What every message for a command has in common; `none` when the clock or the id
source fails, or the sequence is out of bounds. -/
def envelope (I : Site) (c : Command) (stamp : Option Stamp) (key : IdempotencyKey) (sequence : Nat)
    (body : OutboundBody) : Option Outbound := do
  let t ← stamp
  if h : 1 ≤ sequence ∧ sequence ≤ maxExecutorSequence then
    some
      { messageId := t.id, sentAt := t.now, deadlineAt := t.now + messageDeadline
        installationId := I.installationId, executorId := I.executorId
        correlationId := c.correlationId, idempotencyKey := key, sequence := sequence
        taskId := c.taskId, executionAttemptId := c.executionAttemptId, body := body
        sequence_pos := h.1, sequence_le := h.2
        deadline_later := Nat.lt_add_of_pos_right (by decide) }
  else none

theorem envelope_some {I : Site} {c : Command} {stamp : Option Stamp} {key : IdempotencyKey} {n : Nat} {body : OutboundBody}
    {m : Outbound} (h : envelope I c stamp key n body = some m) :
    m.body = body ∧ m.sequence = n ∧ m.idempotencyKey = key ∧ m.taskId = c.taskId := by
  obtain ⟨t, -, h⟩ := Option.bind_eq_some_iff.1 h
  split at h
  · cases h
    exact ⟨rfl, rfl, rfl, rfl⟩
  · cases h

namespace ExecutorCommandProcessor

variable (I : Site)

/-- `_result`. mirrors command_processor.py:381-400 -/
def result (c : Command) (stamp : Option Stamp) : Option Outbound :=
  envelope I c stamp (.result c.messageId) c.sequence
    (.commandResult (if c.messageType = .actionExecute then .actionAccept else .taskAccept) .accepted)

/-- `_control_ack`: keyed by the stored command.
mirrors command_processor.py:402-425 -/
def controlAck (c : Command) (sourceMessageId : MessageId) (stamp : Option Stamp) :
    Option Outbound :=
  envelope I c stamp (.result sourceMessageId) c.sequence
    (.commandResult .taskControlAck .acknowledged)

/-- `_event`. mirrors command_processor.py:510-550 -/
def event (c : Command) (type : TaskEventType) (sequence : Nat) (payload : EventPayload)
    (stamp : Option Stamp) : Option Outbound :=
  envelope I c stamp (.event c.taskId sequence) sequence (.taskEvent type payload)

/-- `_started_batch`. mirrors command_processor.py:325-338 -/
def startedBatch (c : Command) (baseline : Nat) (stamps : Nat → Option Stamp) :
    Option (List Outbound) := do
  let r ← result I c (stamps 0)
  let e ← event I c .taskStarted (baseline + 1) {} (stamps 1)
  some [r, e]

/-- `_action_batch`. mirrors command_processor.py:340-357 -/
def actionBatch (c : Command) (q : DouyinActionCommandPayload) (fact : DouyinActionResultFact)
    (lastEventSequence : Nat) (stamps : Nat → Option Stamp) : Option (List Outbound) := do
  let r ← result I c (stamps 0)
  let e₁ ← event I c .stepStarted (lastEventSequence + 1) { actionId := some q.actionId } (stamps 1)
  let e₂ ← event I c fact.messageType.eventType (lastEventSequence + 2) fact.payload (stamps 2)
  some [r, e₁, e₂]

/-- mirrors discovery_operation.py:82-112 -/
structure DouyinDiscoveryExecutionResult where
  state : DiscoveryOutcome
  evidence : DiscoveryEvidence
  pageRevision : Nat
  candidates : List DouyinCandidate
  evidence_allowed : evidence.outcome = state
  revision_pos : 1 ≤ pageRevision
  candidates_le : candidates.length ≤ maxTaskTargetLimit
  candidates_page : ∀ x ∈ candidates, x.pageRevision = pageRevision
  completed_iff : state = .completed ↔ candidates ≠ []

/-- `_discovery_chunk` for the chunks from `index` on.
mirrors command_processor.py:367-375,427-469 -/
def discoveryChunks (c : Command) (d : DouyinDiscoveryCommandPayload) (batchCount : Nat)
    (stamps : Nat → Option Stamp) : Nat → List (List DouyinCandidate) → Option (List Outbound)
  | _, [] => some []
  | index, chunk :: chunks => do
    let m ← envelope I c (stamps index) (.discoveryBatch c.executionAttemptId index) index
      (.discoveryBatch ⟨d.pageRevision, index, batchCount, chunk⟩)
    let ms ← discoveryChunks c d batchCount stamps (index + 1) chunks
    some (m :: ms)

/-- `_discovery_batch`.
mirrors command_processor.py:359-390,471-508 -/
def discoveryBatch (c : Command) (d : DouyinDiscoveryCommandPayload)
    (outcome : DouyinDiscoveryExecutionResult) (stamps : Nat → Option Stamp) :
    Option (List Outbound) := do
  let chunks := outcome.candidates.toChunks maxDiscoveryBatchCandidates
  let r ← result I c (stamps 0)
  let ms ← discoveryChunks I c d chunks.length stamps 1 chunks
  let completed ← envelope I c (stamps (chunks.length + 1))
    (.discoveryCompleted c.executionAttemptId) (chunks.length + 1)
    (.discoveryCompleted ⟨outcome.state, outcome.evidence, outcome.pageRevision, chunks.length,
      outcome.candidates.length⟩)
  some (r :: ms ++ [completed])

/-! ## Handling -/

/-- What the outside answers while one command is handled. -/
structure Surroundings where
  now : Option Time
  stoppedAt : Option Time
  /-- `none` without a discovery operation, `some none` when it raises. -/
  discovery : Option (Option DouyinDiscoveryExecutionResult)
  /-- `none` without an action operation. -/
  action : Option (ExecutorActionGate × ActionSurroundings)
  /-- The messages of the batch, in order; a control acknowledgement is the first. -/
  stamps : Nat → Option Stamp
  /-- The events of pending controls, by how many of them are left. -/
  projections : Nat → Option Stamp

/-- The outcome of a command: what is committed for it. -/
structure CommandOutcome where
  state : AttemptCheckpointState
  lastEventSequence : Nat
  batch : List Outbound

/-- mirrors command_processor.py:186-206 -/
def performAction (w : Surroundings) (c : Command) (p : AttemptCheckpoint)
    (q : DouyinActionCommandPayload) (h : c.body = .actionExecute q) :
    Prog Op Op.Ret CommandOutcome := do
  let (gate, surroundings) ← Prog.ofOption w.action
  Prog.require (p.state = .running)
  let fact ← ProductionDouyinActionOperation.run gate surroundings c q h
  Prog.require (fact.actionId = q.actionId ∧ fact.targetId = q.targetId)
  let batch ← Prog.ofOption (actionBatch I c q fact p.lastEventSequence w.stamps)
  pure ⟨if fact.messageType = .taskOutcomeUncertain then .outcomeUncertain else .running,
    p.lastEventSequence + 2, batch⟩

/-- mirrors command_processor.py:207-227 -/
def discover (w : Surroundings) (c : Command) (p : AttemptCheckpoint)
    (d : DouyinDiscoveryCommandPayload) : Prog Op Op.Ret CommandOutcome := do
  Prog.require (p.state = .received ∧ p.lastEventSequence = 0)
  let answer ← Prog.ofOption w.discovery
  let outcome ← Prog.ofOption answer
  Prog.require (outcome.pageRevision = d.pageRevision ∧ outcome.candidates.length ≤ d.targetLimit)
  let batch ← Prog.ofOption (discoveryBatch I c d outcome w.stamps)
  pure ⟨.terminal, batch.length - 1, batch⟩

/-- mirrors command_processor.py:207-208,228-234 -/
def start (w : Surroundings) (c : Command) (p : AttemptCheckpoint) (baseline : Nat) :
    Prog Op Op.Ret CommandOutcome := do
  Prog.require (p.state = .received ∧ p.lastEventSequence = baseline)
  let batch ← Prog.ofOption (startedBatch I c baseline w.stamps)
  pure ⟨.running, baseline + 1, batch⟩

def perform (w : Surroundings) (c : Command) (p : AttemptCheckpoint) :
    Prog Op Op.Ret CommandOutcome :=
  match h : c.body with
  | .actionExecute q => performAction I w c p q h
  | .taskDiscover d => discover I w c p d
  | .taskOffer baseline => start I w c p baseline
  | _ => .raise

/-- An outcome the ledger refuses is answered from the outbox, if it is there.
mirrors command_processor.py:235-248 -/
def commit (source : MessageId) (revision : Nat) (o : CommandOutcome) :
    Prog Op Op.Ret (List Outbound) := do
  let committed : Option (List OutboxEntry) ←
    Op.call (.commitOutcome source revision o.state o.lastEventSequence o.batch)
  match committed with
  | some entries => pure (entries.map (·.message))
  | none => do
    let replay : List OutboxEntry ← Op.call (.outboxForCommand source)
    Prog.require (replay ≠ [])
    pure (replay.map (·.message))

/-- An offer, a discovery or an action.
mirrors command_processor.py:178-248 -/
def handleCommand (w : Surroundings) (c : Command) : Prog Op Op.Ret (List Outbound) := do
  let received : Option (Reply Command) ← Op.call (.receiveCommand c)
  let receipt ← Prog.ofOption received
  let existing : List OutboxEntry ← Op.call (.outboxForCommand receipt.value.messageId)
  if existing ≠ [] then pure (existing.map (·.message))
  else do
    let found : Option AttemptCheckpoint ←
      Op.call (.getCheckpoint receipt.value.executionAttemptId)
    let p ← Prog.ofOption found
    let o ← perform I w c p
    commit receipt.value.messageId p.revision o

/-! ## Controls -/

/-- mirrors command_processor.py:305-316 -/
def projectControls (source : Option MessageId) (projections : Nat → Option Stamp) :
    List PendingTaskControl → Prog Op Op.Ret (List Outbound)
  | [] => pure []
  | q :: qs =>
    if source.any (· ≠ q.command.messageId) then projectControls source projections qs
    else do
      let e ← Prog.ofOption
        (event I q.command q.eventType q.nextEventSequence {} (projections qs.length))
      let completed : Option (Option OutboxEntry) ←
        Op.call (.completeTaskControl q.command.messageId q.checkpointRevision e)
      let done ← Prog.ofOption completed
      let rest ← projectControls source projections qs
      pure ((done.filter (!·.replayed)).toList.map (·.message) ++ rest)

/-- `_advance_controls`.
mirrors command_processor.py:299-317 -/
def advanceControls (source : Option MessageId) (projections : Nat → Option Stamp) :
    Prog Op Op.Ret (List Outbound) := do
  let pending : Option (List PendingTaskControl) ← Op.call (.pendingTaskControls 100)
  let listed ← Prog.ofOption pending
  projectControls I source projections listed

def receiveControl (w : Surroundings) (c : Command) : Prog Op Op.Ret (Option (Reply Command)) :=
  if c.messageType = .taskEmergencyStop then do
    let t ← Prog.ofOption w.stoppedAt
    Op.call (.receiveTaskEmergencyStop c t)
  else Op.call (.receiveCommand c)

def acknowledge (w : Surroundings) (c : Command) (source : MessageId) (existing : List OutboxEntry) :
    Prog Op Op.Ret Unit :=
  if existing ≠ [] then pure ()
  else do
    let ack ← Prog.ofOption (controlAck I c source (w.stamps 0))
    let enqueued : Option OutboxEntry ← Op.call (.enqueueOutbox source ack)
    let _entry ← Prog.ofOption enqueued
    pure ()

/-- `_handle_control`.
mirrors command_processor.py:250-270 -/
def handleControl (w : Surroundings) (c : Command) : Prog Op Op.Ret (List Outbound) := do
  let received ← receiveControl w c
  let receipt ← Prog.ofOption received
  let existing : List OutboxEntry ← Op.call (.outboxForCommand receipt.value.messageId)
  acknowledge I w c receipt.value.messageId existing
  let _projected ← advanceControls I (some receipt.value.messageId) w.projections
  let entries : List OutboxEntry ← Op.call (.outboxForCommand receipt.value.messageId)
  Prog.require (entries.head?.any (·.message.isControlAck) = true)
  pure (entries.map (·.message))

/-! ## What the processor offers -/

inductive Handled where
  /-- `ExecutorCommandExpired` -/
  | expired
  | answered (messages : List Outbound)

def answer (w : Surroundings) (c : Command) : Prog Op Op.Ret (List Outbound) :=
  if controlStates c.messageType ≠ [] then handleControl I w c else handleCommand I w c

/-- A parsed command; raising is `ExecutorCommandRejected`.
mirrors command_processor.py:146-248 -/
def handle (w : Surroundings) (c : Command) : Prog Op Op.Ret Handled := do
  Prog.require (c.installationId = I.installationId ∧ c.executorId = I.executorId)
  let now ← Prog.ofOption w.now
  if c.deadlineAt ≤ now then pure .expired
  else do
    let messages ← answer I w c
    pure (.answered messages)

/-- mirrors command_processor.py:294-297 -/
def pollControls (projections : Nat → Option Stamp) : Prog Op Op.Ret (List Outbound) :=
  advanceControls I none projections

/-- `pending_outbox` and `recover_outbox`.
mirrors command_processor.py:272-292 -/
def outbox (now : Option Time) (recoverDelivered : Bool) : Prog Op Op.Ret (List Outbound) := do
  let t ← Prog.ofOption now
  let entries : List OutboxEntry ← Op.call (.outboxForDelivery t recoverDelivered)
  pure (entries.map (·.message))

def pendingOutbox (now : Option Time) : Prog Op Op.Ret (List Outbound) := outbox now false

def recoverOutbox (now : Option Time) : Prog Op Op.Ret (List Outbound) := outbox now true

/-- mirrors command_processor.py:161-162 -/
def markDelivered (m : MessageId) : Prog Op Op.Ret Bool := do
  let marked : Option Bool ← Op.call (.markOutboxDelivered m)
  Prog.ofOption marked

/-- mirrors command_processor.py:164-165 -/
def emergencyStopReceived : Prog Op Op.Ret Bool := Op.call .hasReceivedTaskEmergencyStop

/-! ## What it issues -/

section Issues

variable {I : Site} {c : Command}

theorem event_some {t : TaskEventType} {n : Nat} {v : EventPayload} {stamp : Option Stamp}
    {m : Outbound} (h : event I c t n v stamp = some m) : IsEvent m t n v := by
  obtain ⟨hb, hn, hk, ht⟩ := envelope_some h
  exact ⟨hb, hn, by rw [hk, ht]⟩

theorem not_event_of_body {m : Outbound} {t : CommandResultType} {v : CommandResultPayload}
    (h : m.body = .commandResult t v) : m.isTaskEvent = false := by
  unfold Outbound.isTaskEvent Outbound.eventType
  rw [h]
  rfl

theorem result_some {stamp : Option Stamp} {m : Outbound} (h : result I c stamp = some m) :
    m.isTaskEvent = false := not_event_of_body (envelope_some h).1

theorem controlAck_some {source : MessageId} {stamp : Option Stamp} {m : Outbound}
    (h : controlAck I c source stamp = some m) : m.isControlAck = true := by
  unfold Outbound.isControlAck
  rw [(envelope_some h).1]

theorem startedBatch_some {b : Nat} {stamps : Nat → Option Stamp} {ms : List Outbound}
    (h : startedBatch I c b stamps = some ms) : ∃ r e, ms = [r, e] ∧ r.isTaskEvent = false ∧
      IsEvent e .taskStarted (b + 1) {} := by
  obtain ⟨r, hr, h⟩ := Option.bind_eq_some_iff.1 h
  obtain ⟨e, he, h⟩ := Option.bind_eq_some_iff.1 h
  cases h
  exact ⟨r, e, rfl, result_some hr, event_some he⟩

theorem actionBatch_some {q : DouyinActionCommandPayload} {fact : DouyinActionResultFact} {l : Nat}
    {stamps : Nat → Option Stamp} {ms : List Outbound}
    (h : actionBatch I c q fact l stamps = some ms) : ∃ r e₁ e₂, ms = [r, e₁, e₂] ∧
      r.isTaskEvent = false ∧ IsEvent e₁ .stepStarted (l + 1) { actionId := some q.actionId } ∧
      IsEvent e₂ fact.messageType.eventType (l + 2) fact.payload := by
  obtain ⟨r, hr, h⟩ := Option.bind_eq_some_iff.1 h
  obtain ⟨e₁, h₁, h⟩ := Option.bind_eq_some_iff.1 h
  obtain ⟨e₂, h₂, h⟩ := Option.bind_eq_some_iff.1 h
  cases h
  exact ⟨r, e₁, e₂, rfl, result_some hr, event_some h₁, event_some h₂⟩

theorem discoveryChunks_some {d : DouyinDiscoveryCommandPayload} {n : Nat}
    {stamps : Nat → Option Stamp} {i : Nat} {chunks : List (List DouyinCandidate)}
    {ms : List Outbound} (h : discoveryChunks I c d n stamps i chunks = some ms) :
    ∀ m ∈ ms, m.isTaskEvent = false := by
  induction chunks generalizing i ms with
  | nil =>
    cases h
    exact fun m hm => nomatch hm
  | cons chunk chunks ih =>
    obtain ⟨m, hm, h⟩ := Option.bind_eq_some_iff.1 h
    obtain ⟨rest, hrest, h⟩ := Option.bind_eq_some_iff.1 h
    cases h
    intro m' hm'
    rcases List.mem_cons.1 hm' with rfl | hm'
    · unfold Outbound.isTaskEvent Outbound.eventType
      rw [(envelope_some hm).1]
      rfl
    · exact ih hrest m' hm'

theorem discoveryBatch_some {d : DouyinDiscoveryCommandPayload}
    {o : DouyinDiscoveryExecutionResult} {stamps : Nat → Option Stamp} {ms : List Outbound}
    (h : discoveryBatch I c d o stamps = some ms) : ∀ m ∈ ms, m.isTaskEvent = false := by
  obtain ⟨r, hr, h⟩ := Option.bind_eq_some_iff.1 h
  obtain ⟨chunks, hchunks, h⟩ := Option.bind_eq_some_iff.1 h
  obtain ⟨done, hdone, h⟩ := Option.bind_eq_some_iff.1 h
  cases h
  intro m hm
  simp only [List.cons_append, List.mem_cons, List.mem_append, List.not_mem_nil, or_false] at hm
  rcases hm with rfl | hm | rfl
  · exact result_some hr
  · exact discoveryChunks_some hchunks m hm
  · unfold Outbound.isTaskEvent Outbound.eventType
    rw [(envelope_some hdone).1]
    rfl

/-- The operations `p` issues from `s` on are the ones `issued` allows, whatever
happens in between, and `Q` holds where it ends. -/
abbrev Issues {α : Type} (I : Site) (p : Prog Op Op.Ret α) (Q : α → Ledger → Prop) (s : Ledger) :
    Prop :=
  p.wp (exec I) (fun s => s.journal.Inv) (fun s t => s.journal.Later t.journal) issued Q
    (fun _ => True) s

theorem actionCall_issued {o : Op} (s : Ledger) (h : actionCall o) : issued o s := by
  cases o <;> first | exact trivial | cases h

open Prog

variable {w : Surroundings} {s : Ledger} {p : AttemptCheckpoint}

theorem performAction_issues {q : DouyinActionCommandPayload} (h : c.body = .actionExecute q)
    (hs : s.journal.Inv) : Issues I (performAction I w c p q h)
      (fun o _ => Outcome c p o.state o.lastEventSequence o.batch) s := by
  refine wp_bind (wp_ofOption (fun a _ => ?_) trivial)
  refine wp_bind (wp_require (fun hst => ?_) trivial)
  refine wp_bind (wp_of_uses (guarantee I) (fun o s ho _ => actionCall_issued s ho)
    (ProductionDouyinActionOperation.run_uses _ _ c q h) (fun fact s hs => ?_)
    (fun _ _ => trivial) hs)
  refine wp_bind (wp_require (fun hid => ?_) trivial)
  refine wp_bind (wp_ofOption (fun batch hb => ?_) trivial)
  obtain ⟨r, e₁, e₂, rfl, hr, h₁, h₂⟩ := actionBatch_some hb
  have hout := Outcome.acted (c := c) (p := p) h hst hr h₁
    (by cases fact.messageType <;> rfl) (congrArg some hid.1) h₂
  have hty : fact.messageType.eventType = .taskOutcomeUncertain ↔
      fact.messageType = .taskOutcomeUncertain := by
    cases fact.messageType <;> simp [ActionResultType.eventType]
  simp only [hty] at hout
  exact hout

theorem discover_issues {d : DouyinDiscoveryCommandPayload} (h : c.body = .taskDiscover d) :
    Issues I (discover I w c p d)
      (fun o _ => Outcome c p o.state o.lastEventSequence o.batch) s := by
  refine wp_bind (wp_require (fun hst => ?_) trivial)
  refine wp_bind (wp_ofOption (fun a _ => ?_) trivial)
  refine wp_bind (wp_ofOption (fun o _ => ?_) trivial)
  refine wp_bind (wp_require (fun _ => ?_) trivial)
  refine wp_bind (wp_ofOption (fun batch hb => ?_) trivial)
  exact .discovered h hst.1 hst.2 (discoveryBatch_some hb)

theorem start_issues {b : Nat} (h : c.body = .taskOffer b) : Issues I (start I w c p b)
    (fun o _ => Outcome c p o.state o.lastEventSequence o.batch) s := by
  refine wp_bind (wp_require (fun hst => ?_) trivial)
  refine wp_bind (wp_ofOption (fun batch hb => ?_) trivial)
  obtain ⟨r, e, rfl, hr, he⟩ := startedBatch_some hb
  exact .started h hst.1 hst.2 hr he

theorem perform_issues (hs : s.journal.Inv) : Issues I (perform I w c p)
    (fun o _ => Outcome c p o.state o.lastEventSequence o.batch) s := by
  unfold perform
  split
  · exact performAction_issues _ hs
  · exact discover_issues ‹_›
  · exact start_issues ‹_›
  · exact trivial

/-- A commit for a stored command, against the checkpoint that was read at `s₀`. -/
theorem commit_issues {s₀ : Ledger} {d : Command} {o : CommandOutcome} (hd : d ∈ s₀.commands)
    (hp : s₀.checkpoint d.executionAttemptId = some p)
    (ho : Outcome d p o.state o.lastEventSequence o.batch) (h₀ : s₀.journal.Later s.journal) :
    Issues I (commit d.messageId p.revision o) (fun _ _ => True) s := by
  refine wp_op fun s' _ hs => ⟨fun d' p' hd' hp' hrev => ?_, ?_⟩
  · have hlater := h₀.trans hs
    obtain ⟨hmem, hid⟩ := command_eq_some.1 hd'
    cases Journal.eq_of_messageId hmem (hlater.mem hd) hid
    rwa [hlater.same hp hp' hrev]
  · split
    · exact trivial
    · refine wp_op fun s'' _ _ => ⟨trivial, ?_⟩
      exact wp_bind (wp_require (fun _ => trivial) trivial)

theorem handleCommand_issues : Issues I (handleCommand I w c) (fun _ _ => True) s := by
  refine wp_op fun s₁ hi₁ _ => ⟨trivial, ?_⟩
  refine wp_bind (wp_ofOption (fun r hr => ?_) trivial)
  have hknown : r.value ∈ (exec I (.receiveCommand c) s₁).2.commands ∧ r.value.intent = c.intent := by
    dsimp only [exec] at hr ⊢
    cases h : s₁.receiveCommand I c with
    | none => rw [h] at hr; cases hr
    | some a =>
      rw [h] at hr
      cases hr
      exact receive_known h
  refine wp_op fun s₂ _ h₂ => ⟨trivial, ?_⟩
  split
  · exact trivial
  · refine wp_op fun s₃ hi₃ h₃ => ⟨trivial, ?_⟩
    refine wp_bind (wp_ofOption (fun p hp => ?_) trivial)
    refine wp_bind (wp_mono (wp_since (guarantee I) hi₃ (.refl _) (perform_issues hi₃)) ?_
      fun _ _ => trivial)
    rintro o s₄ ⟨hout, -, h₄⟩
    exact commit_issues ((h₂.trans h₃).mem hknown.1) hp
      (hout.of_body (congrArg CommandIntent.body hknown.2)) h₄

theorem projectControls_issues (source : Option MessageId) (stamps : Nat → Option Stamp)
    (qs : List PendingTaskControl) :
    Issues I (projectControls I source stamps qs) (fun _ _ => True) s := by
  induction qs generalizing s with
  | nil => exact trivial
  | cons q qs ih =>
    unfold projectControls
    split
    · exact ih
    · refine wp_bind (wp_ofOption (fun e he => ?_) trivial)
      refine wp_op fun s' _ _ => ⟨⟨_, _, event_some he⟩, ?_⟩
      refine wp_bind (wp_ofOption (fun done _ => ?_) trivial)
      exact wp_bind (wp_mono ih (fun _ _ _ => trivial) fun _ _ => trivial)

theorem advanceControls_issues (source : Option MessageId) (stamps : Nat → Option Stamp) :
    Issues I (advanceControls I source stamps) (fun _ _ => True) s := by
  refine wp_op fun s' _ _ => ⟨trivial, ?_⟩
  exact wp_bind (wp_ofOption (fun qs _ => projectControls_issues source stamps qs) trivial)

theorem receiveControl_issues : Issues I (receiveControl w c) (fun _ _ => True) s := by
  unfold receiveControl
  split
  · refine wp_bind (wp_ofOption (fun t _ => ?_) trivial)
    exact wp_op fun s' _ _ => ⟨trivial, trivial⟩
  · exact wp_op fun s' _ _ => ⟨trivial, trivial⟩

theorem acknowledge_issues (source : MessageId) (existing : List OutboxEntry) :
    Issues I (acknowledge I w c source existing) (fun _ _ => True) s := by
  unfold acknowledge
  split
  · exact trivial
  · refine wp_bind (wp_ofOption (fun ack hack => ?_) trivial)
    refine wp_op fun s' _ _ => ⟨controlAck_some hack, ?_⟩
    exact wp_bind (wp_ofOption (fun _ _ => trivial) trivial)

theorem handleControl_issues : Issues I (handleControl I w c) (fun _ _ => True) s := by
  refine wp_bind (wp_mono receiveControl_issues (fun received s₁ _ => ?_) fun _ _ => trivial)
  refine wp_bind (wp_ofOption (fun r _ => ?_) trivial)
  refine wp_op fun s₂ _ _ => ⟨trivial, ?_⟩
  refine wp_bind (wp_mono (acknowledge_issues _ _) (fun _ s₃ _ => ?_) fun _ _ => trivial)
  refine wp_bind (wp_mono (advanceControls_issues _ _) (fun _ s₄ _ => ?_) fun _ _ => trivial)
  refine wp_op fun s₅ _ _ => ⟨trivial, ?_⟩
  exact wp_bind (wp_require (fun _ => trivial) trivial)

/-- **The processor issues what `issued` describes**, whatever else runs. -/
theorem handle_issues : Issues I (handle I w c) (fun _ _ => True) s := by
  refine wp_bind (wp_require (fun _ => ?_) trivial)
  refine wp_bind (wp_ofOption (fun t _ => ?_) trivial)
  split
  · exact trivial
  · refine wp_bind (Q := fun _ _ => True) ?_
    unfold answer
    split
    · exact wp_mono handleControl_issues (fun _ _ _ => trivial) fun _ _ => trivial
    · exact wp_mono handleCommand_issues (fun _ _ _ => trivial) fun _ _ => trivial

theorem pollControls_issues (stamps : Nat → Option Stamp) :
    Issues I (pollControls I stamps) (fun _ _ => True) s := advanceControls_issues none stamps

end Issues
end ExecutorCommandProcessor
end AutomationTool.Executor
