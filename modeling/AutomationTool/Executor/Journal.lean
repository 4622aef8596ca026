import AutomationTool.Executor.Ledger.Service

/-!
# The journal of an attempt

What the ledger is for: an execution attempt receives numbered commands and
answers with numbered events. The journal keeps the three tables in which this
happens (checkpoints, commands, sent messages) and forgets the rest of the
ledger. It has two kinds of step: a command is stored as the next of its
attempt (`first`, `next`), or a stored command makes the executor speak
(`emits`), and then the checkpoint moves with what is said.

`Emits` lists everything the executor says: an acknowledgement, the outcome of
an offer, a discovery or an action (`Outcome`), the projection of a control, and
the projection of crash recovery.

`effect_journal`: an operation of the ledger is such a step or leaves the
journal alone, provided its caller asks for what the executor's code asks for
(`issued`): the ledger does not check the messages it is handed, so which
messages these are is the callers' part.
-/
namespace AutomationTool.Executor

open Protocol Dispatch Ledger

/-! ## What the executor says -/

/-- A task event with the key the command processor gives its events. -/
structure IsEvent (m : Outbound) (t : TaskEventType) (n : Nat) (v : EventPayload) : Prop where
  body : m.body = .taskEvent t v
  sequence : m.sequence = n
  key : m.idempotencyKey = .event m.taskId n

theorem IsEvent.eventType {m : Outbound} {t : TaskEventType} {n : Nat} {v : EventPayload}
    (h : IsEvent m t n v) : m.eventType = some t := Outbound.eventType_of_body h.body

/-- The events that settle an action. -/
def isResult : TaskEventType → Bool
  | .stepCompleted | .stepFailed | .taskOutcomeUncertain => true
  | _ => false

/-- The batch that answers command `c` at checkpoint `p`, with the state and the
last event sequence it leads to.
mirrors command_processor.py:187-245 -/
inductive Outcome (c : Command) (p : AttemptCheckpoint) :
    AttemptCheckpointState → Nat → List Outbound → Prop where
  | started {b : Nat} {r e : Outbound} (hc : c.body = .taskOffer b) (hst : p.state = .received)
      (hl : p.lastEventSequence = b) (hr : r.isTaskEvent = false)
      (he : IsEvent e .taskStarted (b + 1) {}) : Outcome c p .running (b + 1) [r, e]
  | acted {q : DouyinActionCommandPayload} {t : TaskEventType} {v : EventPayload}
      {r e₁ e₂ : Outbound} (hc : c.body = .actionExecute q) (hst : p.state = .running)
      (hr : r.isTaskEvent = false)
      (h₁ : IsEvent e₁ .stepStarted (p.lastEventSequence + 1) { actionId := some q.actionId })
      (ht : isResult t = true) (hv : v.actionId = some q.actionId)
      (h₂ : IsEvent e₂ t (p.lastEventSequence + 2) v) :
      Outcome c p (if t = .taskOutcomeUncertain then .outcomeUncertain else .running)
        (p.lastEventSequence + 2) [r, e₁, e₂]
  | discovered {d : DouyinDiscoveryCommandPayload} {ms : List Outbound}
      (hc : c.body = .taskDiscover d) (hst : p.state = .received) (hl : p.lastEventSequence = 0)
      (hms : ∀ m ∈ ms, m.isTaskEvent = false) : Outcome c p .terminal (ms.length - 1) ms

/-- Only the body of a command matters to its outcome. -/
theorem Outcome.of_body {c d : Command} {p : AttemptCheckpoint} {st : AttemptCheckpointState} {l : Nat} {ms : List Outbound}
    (h : Outcome c p st l ms) (hb : d.body = c.body) : Outcome d p st l ms := by
  cases h with
  | started hc hst hl hr he => exact .started (hb.trans hc) hst hl hr he
  | acted hc hst hr h₁ ht hv h₂ => exact .acted (hb.trans hc) hst hr h₁ ht hv h₂
  | discovered hc hst hl hms => exact .discovered (hb.trans hc) hst hl hms

/-- The state and event a control may lead to. -/
inductive ControlOutcome : CommandType → AttemptCheckpointState → TaskEventType → Prop where
  | pause : ControlOutcome .taskPause .paused .taskPaused
  | resume : ControlOutcome .taskResume .running .taskResumed
  | cancel : ControlOutcome .taskCancel .terminal .taskCancelled
  | cancelUncertain : ControlOutcome .taskCancel .outcomeUncertain .taskOutcomeUncertain
  | stop : ControlOutcome .taskEmergencyStop .outcomeUncertain .taskOutcomeUncertain

theorem ControlOutcome.ne_received {ty : CommandType} {st : AttemptCheckpointState}
    {t : TaskEventType} (h : ControlOutcome ty st t) : st ≠ .received := by
  cases h <;> nofun

theorem ControlOutcome.ne_taskStarted {ty : CommandType} {st : AttemptCheckpointState}
    {t : TaskEventType} (h : ControlOutcome ty st t) : t ≠ .taskStarted := by
  cases h <;> nofun

/-- Only a pause pauses. -/
theorem ControlOutcome.of_paused {ty : CommandType} {st : AttemptCheckpointState}
    {t : TaskEventType} (h : ControlOutcome ty st t) (hst : st = .paused) :
    ty = .taskPause ∧ t = .taskPaused := by
  cases h with
  | pause => exact ⟨rfl, rfl⟩
  | _ => cases hst

/-- A control takes effect in a running or paused attempt. -/
theorem running_or_paused {ty : CommandType} {st : AttemptCheckpointState}
    (h : st ∈ controlStates ty) : st = .running ∨ st = .paused := by
  cases ty <;> simp [controlStates] at h <;> simp [h]

structure Journal where
  checkpoints : Table AttemptCheckpoint
  commands : Table Command
  sent : List OutboxFact

def Ledger.journal (s : Ledger) : Journal := ⟨s.checkpoints, s.commands, s.sent⟩

namespace Journal

def checkpoint (J : Journal) (e : ExecutionAttemptId) : Option AttemptCheckpoint :=
  checkpointOf J.checkpoints e

inductive Label where
  | store (c : Command)
  | acknowledge (c : Command)
  | outcome (c : Command)
  | control (c : Command)
  | recover (a : ActionId)

/-- Something the executor says for the command `c` at checkpoint `p`, after it
sent `sent`: the label, the checkpoint afterwards, and the messages. -/
inductive Emits (sent : List OutboxFact) (c : Command) (p : AttemptCheckpoint) :
    Label → AttemptCheckpoint → List Outbound → Prop where
  | acknowledge {m : Outbound} (hm : m.isControlAck = true) : Emits sent c p (.acknowledge c) p [m]
  | outcome {st : AttemptCheckpointState} {l : Nat} {ms : List Outbound} (h : Outcome c p st l ms)
      (hfresh : ∀ f ∈ sent, f.sourceMessageId ≠ c.messageId) :
      Emits sent c p (.outcome c)
        { p with state := st, lastEventSequence := l, revision := p.revision + 1 } ms
  | control {st : AttemptCheckpointState} {t : TaskEventType} {m : Outbound}
      (hseq : c.sequence = p.lastCommandSequence) (hst : p.state ∈ controlStates c.messageType)
      (ht : ControlOutcome c.messageType st t) (hm : IsEvent m t (p.lastEventSequence + 1) {}) :
      Emits sent c p (.control c) { p with
        state := st, lastEventSequence := p.lastEventSequence + 1, revision := p.revision + 1 } [m]
  | recover {a : ActionId} {t : TaskEventType} {v : EventPayload} {m : Outbound}
      (hc : c.messageType = .taskOffer) (hseq : c.sequence = 1)
      (hst : p.state = .running ∨ p.state = .paused) (hm : m.body = .taskEvent t v)
      (ht : t = .stepCompleted ∨ t = .taskOutcomeUncertain)
      (hmseq : m.sequence = p.lastEventSequence + 1) (hkey : m.idempotencyKey = .recovery a)
      (hv : v.actionId = some a) (hfresh : ∀ f ∈ sent, f.message.idempotencyKey ≠ .recovery a) :
      Emits sent c p (.recover a) { p with
        state := if t = .taskOutcomeUncertain then .outcomeUncertain else p.state
        lastEventSequence := p.lastEventSequence + 1
        revision := p.revision + 1 } [m]

inductive Step : Journal → Label → Journal → Prop where
  | first {J : Journal} {c : Command} {P : Table AttemptCheckpoint} {C : Table Command}
      (hnone : J.checkpoint c.executionAttemptId = none) (hseq : c.sequence = 1)
      (hopens : opensAttempt c.messageType = true)
      (hP : J.checkpoints.insert? (firstCheckpoint c) = some P)
      (hC : J.commands.insert? c = some C) : Step J (.store c) ⟨P, C, J.sent⟩
  | next {J : Journal} {c : Command} {p : AttemptCheckpoint} {C : Table Command}
      (hp : J.checkpoint c.executionAttemptId = some p) (htask : p.taskId = c.taskId)
      (hseq : c.sequence = p.lastCommandSequence + 1) (hadmits : admits p.state c.messageType)
      (hC : J.commands.insert? c = some C) :
      Step J (.store c) ⟨putCheckpoint J.checkpoints
        { p with lastCommandSequence := c.sequence, revision := p.revision + 1 }, C, J.sent⟩
  | emits {J : Journal} {c : Command} {p p' : AttemptCheckpoint} {l : Label} {ms : List Outbound}
      (hc : c ∈ J.commands) (hp : J.checkpoint c.executionAttemptId = some p)
      (hms : ∀ m ∈ ms, m.executionAttemptId = c.executionAttemptId ∧
        m.correlationId = c.correlationId) (h : Emits J.sent c p l p' ms) :
      Step J l ⟨putCheckpoint J.checkpoints p', J.commands,
        J.sent ++ newFacts c.messageId (nextOrdinal J.sent) ms⟩

/-- What an `emits` step does to its checkpoint: nothing, or one more revision. -/
theorem Emits.checkpoint {sent : List OutboxFact} {c : Command} {p p' : AttemptCheckpoint}
    {l : Label} {ms : List Outbound} (h : Emits sent c p l p' ms) :
    p'.attemptId = p.attemptId ∧ p'.taskId = p.taskId ∧
      p'.lastCommandSequence = p.lastCommandSequence ∧
      (p' = p ∨ p'.revision = p.revision + 1) := by
  cases h with
  | acknowledge => exact ⟨rfl, rfl, rfl, .inl rfl⟩
  | _ => exact ⟨rfl, rfl, rfl, .inr rfl⟩

end Journal

/-! ## The ledger refines the journal -/

open Journal

/-- The foreign key of `executor_commands`: every command's attempt has a checkpoint. -/
def Journal.Linked (J : Journal) : Prop :=
  ∀ c ∈ J.commands, ∃ p, J.checkpoint c.executionAttemptId = some p

/-- What the executor's own code asks of the two operations that take messages
on trust, and of a control projection. -/
def issued (o : Op) (s : Ledger) : Prop :=
  match o with
  | .enqueueOutbox _ m => m.isControlAck = true
  | .commitOutcome m n st l ms => ∀ c p, s.command m = some c →
      s.checkpoint c.executionAttemptId = some p → p.revision = n → Outcome c p st l ms
  | .completeTaskControl _ _ v => ∃ t n, IsEvent v t n {}
  | _ => True

/-- The step an operation may stand for. -/
def Op.Stands : Op → Label → Prop
  | .receiveCommand c, l => l = .store c
  | .receiveTaskEmergencyStop c _, l => l = .store c
  | .enqueueOutbox m _, l => ∃ c, c.messageId = m ∧ l = .acknowledge c
  | .commitOutcome m _ _ _ _, l => ∃ c, c.messageId = m ∧ l = .outcome c
  | .completeTaskControl m _ _, l => ∃ c, c.messageId = m ∧ l = .control c
  | .commitSideEffectRecovery a _ _, l => l = .recover a
  | _, _ => False

theorem stored_journal {s s' : Ledger} {c : Command} (h : Stored s c s') :
    Step s.journal (.store c) s'.journal := by
  cases h with
  | first hnone hseq hopens hP hC => exact .first hnone hseq hopens hP hC
  | next hp htask hseq hadmits hC => exact .next hp htask hseq hadmits hC

theorem swept_journal {s s' : Ledger} {e : ExecutionAttemptId} {t : Time} (h : Swept s e t s') :
    s'.journal = s.journal := by
  obtain ⟨⟨g, rfl, -⟩, -⟩ := h
  rfl

theorem append_journal {s : Ledger} {m : MessageId} {ms : List Outbound} {O : Table OutboxRow}
    {P : Table AttemptCheckpoint} (h : s.append? m ms = some O) :
    Ledger.journal { s with checkpoints := P, outbox := O } =
      ⟨P, s.commands, s.sent ++ newFacts m (nextOrdinal s.sent) ms⟩ := by
  unfold Ledger.journal
  rw [← append?_some h]
  rfl

/-- The target of a control, whatever the state of the attempt's effects. -/
theorem controlTarget_outcome {s : Ledger} {c : Command} {st : AttemptCheckpointState}
    (h : st ∈ controlStates c.messageType) :
    ControlOutcome c.messageType (s.controlTarget c).1 (s.controlTarget c).2 := by
  unfold controlTarget
  cases ht : c.messageType <;> rw [ht] at h
  case taskPause => exact .pause
  case taskResume => exact .resume
  case taskEmergencyStop => exact .stop
  case taskCancel =>
    dsimp only
    split
    · exact .cancelUncertain
    · exact .cancel
  all_goals cases h

theorem answered_singleton {m : Outbound} {c : Command} (h : answers m c) :
    ∀ m' ∈ [m], m'.executionAttemptId = c.executionAttemptId ∧ m'.correlationId = c.correlationId := by
  intro m' hm
  rw [List.mem_singleton.1 hm]
  exact ⟨h.2.1.symm, h.2.2.symm⟩

/-- The body of a message with a recovery result type. -/
theorem recovery_body {m : Outbound} (h : isRecoveryResult m.eventType = true) :
    ∃ t v, m.body = .taskEvent t v ∧ (t = .stepCompleted ∨ t = .taskOutcomeUncertain) := by
  unfold Outbound.eventType at h
  split at h
  · rename_i t v hb
    refine ⟨t, v, hb, ?_⟩
    cases t <;> first | exact .inl rfl | exact .inr rfl | cases h
  · cases h

/-- **Refinement.** An operation the executor issues leaves the journal alone or
takes one step of it, the step the operation stands for. -/
theorem effect_journal {I : Site} {o : Op} {s s' : Ledger} (h : Effect I o s s')
    (ho : issued o s) (hlink : s.journal.Linked) :
    s'.journal = s.journal ∨ ∃ l, o.Stands l ∧ Step s.journal l s'.journal := by
  cases h with
  | store hs hc => exact .inr ⟨_, rfl, stored_journal hc⟩
  | storeStop hs hc hw => exact .inr ⟨_, rfl, swept_journal hw ▸ stored_journal hc⟩
  | stopAgain hw => exact .inl (swept_journal hw)
  | @control m n v _ _ r h =>
    obtain rfl | ⟨c, p, O, hc, hp, hseq, hst, -, -, ha, hev, hty, hO, rfl⟩ :=
      completeTaskControl_some h
    · exact .inl rfl
    · obtain ⟨hcm, rfl⟩ := command_eq_some.1 hc
      obtain ⟨t, k, hm⟩ := ho
      have ht : t = (s.controlTarget c).2 := by
        have : v.eventType = some t := by unfold Outbound.eventType; rw [hm.body]
        rw [this] at hty
        exact Option.some.inj hty
      have hk : k = p.lastEventSequence + 1 := hm.sequence.symm.trans hev
      subst ht hk
      refine .inr ⟨.control c, ⟨c, rfl, rfl⟩, ?_⟩
      rw [append_journal hO, hm.sequence]
      exact .emits hcm hp (answered_singleton ha)
        (.control hseq hst (controlTarget_outcome hst) hm)
  | @enqueue m x _ c O hc ha hO =>
    obtain ⟨hcm, rfl⟩ := command_eq_some.1 hc
    obtain ⟨p, hp⟩ := hlink c hcm
    refine .inr ⟨.acknowledge c, ⟨c, rfl, rfl⟩, ?_⟩
    have hstep := Step.emits hcm hp (answered_singleton ha) (.acknowledge ho)
    rw [putCheckpoint_self (checkpointOf_eq_some.1 hp).1] at hstep
    rwa [append_journal hO]
  | @recover a n v _ _ r h =>
    obtain ⟨hty, hkey, ⟨-, rfl, -⟩ | ⟨-, -, hfresh, x, ad, p, c, O, -, -, hp, hc, -, hatt, -, hseq,
      hst, -, hcor, hv, hO, rfl⟩⟩ := commitSideEffectRecovery_some h
    · exact .inl rfl
    · obtain ⟨hcm, hce, hct, hc1⟩ := initialOffer_eq_some.1 hc
      obtain ⟨t, w, hbody, ht⟩ := recovery_body hty
      refine .inr ⟨.recover a, rfl, ?_⟩
      rw [append_journal hO, hseq, Outbound.eventType_of_body hbody]
      simp only [Option.some.injEq]
      rw [← hce] at hp
      refine .emits hcm hp (fun m hm => ?_) (.recover hct hc1 hst hbody ht hseq hkey ?_ hfresh)
      · rw [List.mem_singleton.1 hm, hce]
        exact ⟨hatt.symm, hcor.symm⟩
      · rw [Outbound.eventPayload_of_body hbody] at hv
        simpa using hv
  | @commit m n st l ms _ _ r h =>
    obtain ⟨c, p, O, hc, hp, hrev, -, -, hans, hfresh, hO, rfl⟩ := commitOutcome_some h
    have hout := ho c p hc hp hrev
    obtain ⟨hcm, rfl⟩ := command_eq_some.1 hc
    refine .inr ⟨.outcome c, ⟨c, rfl, rfl⟩, ?_⟩
    rw [append_journal hO]
    exact .emits hcm hp (fun m hm => ⟨(hans m hm).2.1.symm, (hans m hm).2.2.symm⟩)
      (.outcome hout hfresh)
  | flags h =>
    obtain ⟨O, rfl, hO⟩ := h
    left
    unfold Ledger.journal
    rw [← hO]
    rfl
  | policy => rw [bindActionHardPolicy_policy]; exact .inl rfl
  | admitted h hr =>
    obtain ⟨-, ⟨-, rfl, -⟩ | ⟨-, -, -, -, -, -, -, -, A, -, rfl⟩⟩ := admitAction_ok h <;>
      exact .inl rfl
  | _ => exact .inl rfl

end AutomationTool.Executor
