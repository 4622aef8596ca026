import AutomationTool.Core.Prog
import AutomationTool.Executor.Ledger.Recovery

/-!
# The ledger as a service

One operation per public method that the command processor, the action
executors and crash recovery use, and `exec`, which runs one as a transaction:
a refused operation changes nothing.

`Effect` says once what each operation can do to the ledger, guards included;
`exec_effect` proves it of `exec`. Every invariant below is a case analysis of
`Effect`, never of the operations.
-/
namespace AutomationTool.Executor

open Protocol Dispatch

inductive Op where
  | setTransportConnected (connected : Bool)
  | bindActionHardPolicy (proposed : Ledger.LocalActionHardPolicyBinding)
  | getActionAdmission (a : ActionId)
  | admitAction (claims : ActionAuthorizationClaims) (fingerprint : Ledger.Digest)
      (admittedAt : Time) (minimumIntervalSeconds taskActionLimit : Nat)
  | getSideEffect (a : ActionId)
  | listCrashRecoverySideEffects (limit : Nat)
  | getSideEffectRecoveryEvent (a : ActionId)
  | initialTaskCommand (e : ExecutionAttemptId)
  | prepareSideEffect (a : ActionId) (fingerprint : Ledger.Digest) (preparedAt : Time)
  | beginSideEffectDispatch (a : ActionId) (fingerprint : Ledger.Digest) (dispatchedAt : Time)
  | verifySideEffect (a : ActionId) (fingerprint verification : Ledger.Digest) (verifiedAt : Time)
  | markSideEffectUncertain (a : ActionId) (fingerprint : Ledger.Digest) (uncertainAt : Time)
  | preparePublishDispatch (j : Ledger.PublishJobId) (contentHash : Ledger.Digest)
      (preparedAt : Time)
  | beginPublishDispatch (j : Ledger.PublishJobId) (contentHash : Ledger.Digest)
      (dispatchedAt : Time) (minimumIntervalSeconds : Nat)
  | verifyPublishDispatch (j : Ledger.PublishJobId) (contentHash verification : Ledger.Digest)
      (verifiedAt : Time)
  | markPublishDispatchUncertain (j : Ledger.PublishJobId) (contentHash : Ledger.Digest)
      (uncertainAt : Time)
  | getActionEmergencyStop
  | engageActionEmergencyStop (changedAt : Time)
  | clearActionEmergencyStop (expectedRevision : Nat) (changedAt : Time)
  | receiveCommand (c : Command)
  | receiveTaskEmergencyStop (c : Command) (changedAt : Time)
  | getCheckpoint (e : ExecutionAttemptId)
  | hasReceivedTaskEmergencyStop
  | pendingTaskControls (limit : Nat)
  | completeTaskControl (source : MessageId) (expectedCheckpointRevision : Nat) (event : Outbound)
  | enqueueOutbox (source : MessageId) (message : Outbound)
  | commitSideEffectRecovery (a : ActionId) (expectedCheckpointRevision : Nat) (event : Outbound)
  | commitOutcome (source : MessageId) (expectedCheckpointRevision : Nat)
      (checkpointState : Ledger.AttemptCheckpointState) (lastEventSequence : Nat)
      (messages : List Outbound)
  | outboxForCommand (source : MessageId)
  | requeueDeliveredOutbox
  | outboxForDelivery (observedAt : Time) (recoverDelivered : Bool)
  | markOutboxDelivered (m : MessageId)

open Ledger in
/-- What an operation returns; the outer `Option` is `ExecutorLedgerRejected`. -/
abbrev Op.Ret : Op → Type
  | .setTransportConnected _ => Bool
  | .bindActionHardPolicy _ => LocalActionHardPolicyBinding
  | .getActionAdmission _ => Option LocalActionAdmission
  | .admitAction .. => Except AdmissionError (Reply LocalActionAdmission)
  | .getSideEffect _ => Option (Option LocalSideEffect)
  | .listCrashRecoverySideEffects _ => Option (List LocalSideEffect)
  | .getSideEffectRecoveryEvent _ => Option (Option Outbound)
  | .initialTaskCommand _ => Option Command
  | .prepareSideEffect .. => Option (Reply LocalSideEffect)
  | .beginSideEffectDispatch .. => Option (Reply LocalSideEffect)
  | .verifySideEffect .. => Option (Reply LocalSideEffect)
  | .markSideEffectUncertain .. => Option (Reply LocalSideEffect)
  | .preparePublishDispatch .. => Option (Reply EffectRecord)
  | .beginPublishDispatch .. => Option (Reply EffectRecord)
  | .verifyPublishDispatch .. => Option (Reply EffectRecord)
  | .markPublishDispatchUncertain .. => Option (Reply EffectRecord)
  | .getActionEmergencyStop => ActionGuard
  | .engageActionEmergencyStop _ => Option ActionGuard
  | .clearActionEmergencyStop .. => Option ActionGuard
  | .receiveCommand _ => Option (Reply Command)
  | .receiveTaskEmergencyStop .. => Option (Reply Command)
  | .getCheckpoint _ => Option AttemptCheckpoint
  | .hasReceivedTaskEmergencyStop => Bool
  | .pendingTaskControls _ => Option (List PendingTaskControl)
  | .completeTaskControl .. => Option (Option OutboxEntry)
  | .enqueueOutbox .. => Option OutboxEntry
  | .commitSideEffectRecovery .. => Option OutboxEntry
  | .commitOutcome .. => Option (List OutboxEntry)
  | .outboxForCommand _ => List OutboxEntry
  | .requeueDeliveredOutbox => Nat
  | .outboxForDelivery .. => List OutboxEntry
  | .markOutboxDelivered _ => Option Bool

/-- One operation, as a program. -/
abbrev Op.call (o : Op) : Prog Op Op.Ret o.Ret := Prog.op o

namespace Ledger

/-- Commit, or roll back. -/
def atomic {α : Type} (s : Ledger) : Option (α × Ledger) → Option α × Ledger
  | some (a, s') => (some a, s')
  | none => (none, s)

def atomicExcept {ε α : Type} (s : Ledger) : Except ε (α × Ledger) → Except ε α × Ledger
  | .ok (a, s') => (.ok a, s')
  | .error e => (.error e, s)

@[simp] theorem atomic_some {α : Type} (s s' : Ledger) (a : α) :
    s.atomic (some (a, s')) = (some a, s') := rfl

@[simp] theorem atomic_none {α : Type} (s : Ledger) :
    s.atomic (none : Option (α × Ledger)) = (none, s) := rfl

/-- One operation as one transaction. -/
def exec (I : Site) : (o : Op) → Ledger → o.Ret × Ledger
  | .setTransportConnected b, s => s.setTransportConnected b
  | .bindActionHardPolicy p, s => s.bindActionHardPolicy p
  | .getActionAdmission a, s => (s.admission a, s)
  | .admitAction claims f t i n, s => s.atomicExcept (s.admitAction I claims f t i n)
  | .getSideEffect a, s => (s.getSideEffect a, s)
  | .listCrashRecoverySideEffects n, s => (s.listCrashRecoverySideEffects n, s)
  | .getSideEffectRecoveryEvent a, s => (s.getSideEffectRecoveryEvent a, s)
  | .initialTaskCommand e, s => (s.initialTaskCommand e, s)
  | .prepareSideEffect a f t, s => s.atomic (s.prepareSideEffect a f t)
  | .beginSideEffectDispatch a f t, s => s.atomic (s.beginSideEffectDispatch a f t)
  | .verifySideEffect a f v t, s => s.atomic (s.verifySideEffect a f v t)
  | .markSideEffectUncertain a f t, s => s.atomic (s.markSideEffectUncertain a f t)
  | .preparePublishDispatch j h t, s => s.atomic (s.preparePublishDispatch j h t)
  | .beginPublishDispatch j h t i, s => s.atomic (s.beginPublishDispatch j h t i)
  | .verifyPublishDispatch j h v t, s => s.atomic (s.settlePublishDispatch j h (some v) t)
  | .markPublishDispatchUncertain j h t, s => s.atomic (s.settlePublishDispatch j h none t)
  | .getActionEmergencyStop, s => (s.guard, s)
  | .engageActionEmergencyStop t, s => s.atomic (s.engageActionEmergencyStop t)
  | .clearActionEmergencyStop n t, s => s.atomic (s.clearActionEmergencyStop n t)
  | .receiveCommand c, s => s.atomic (s.receiveCommand I c)
  | .receiveTaskEmergencyStop c t, s => s.atomic (s.receiveTaskEmergencyStop I c t)
  | .getCheckpoint e, s => (s.getCheckpoint e, s)
  | .hasReceivedTaskEmergencyStop, s => (s.hasReceivedTaskEmergencyStop, s)
  | .pendingTaskControls n, s => (s.pendingTaskControls n, s)
  | .completeTaskControl m n v, s => s.atomic (s.completeTaskControl I m n v)
  | .enqueueOutbox m x, s => s.atomic (s.enqueueOutbox I m x)
  | .commitSideEffectRecovery a n v, s => s.atomic (s.commitSideEffectRecovery I a n v)
  | .commitOutcome m n st l ms, s => s.atomic (s.commitOutcome I m n st l ms)
  | .outboxForCommand m, s => (s.outboxForCommand m, s)
  | .requeueDeliveredOutbox, s => s.requeueDeliveredOutbox
  | .outboxForDelivery t b, s => s.outboxForDelivery t b
  | .markOutboxDelivered m, s => s.atomic (s.markOutboxDelivered m)

/-! ## What an operation can do -/

/-- `Effect I o s s'`: the operation `o`, issued in `s`, may leave `s'`. -/
inductive Effect (I : Site) : Op → Ledger → Ledger → Prop where
  /-- A read, a replay or a refusal. -/
  | same {o : Op} {s : Ledger} : Effect I o s s
  | transport {b : Bool} {s : Ledger} :
      Effect I (.setTransportConnected b) s
        { s with guard := { s.guard with networkConnected := b } }
  | policy {p : LocalActionHardPolicyBinding} {s : Ledger} :
      Effect I (.bindActionHardPolicy p) s (s.bindActionHardPolicy p).2
  | admitted {claims : ActionAuthorizationClaims} {f : Digest} {t : Time} {i n : Nat} {s s' : Ledger}
      {r : Reply LocalActionAdmission} (h : s.admitAction I claims f t i n = .ok (r, s'))
      (hr : r.replayed = false) : Effect I (.admitAction claims f t i n) s s'
  | prepare {a : ActionId} {f : Digest} {t : Time} {s : Ledger} {ad : LocalActionAdmission}
      {b : Book ActionId Digest Digest} (ha : s.admission a = some ad)
      (hact : ad.action ≠ .browse) (hb : Book.prepare? s.sideEffects a f t = some b) :
      Effect I (.prepareSideEffect a f t) s { s with sideEffects := b }
  | grant {a : ActionId} {f : Digest} {t : Time} {s : Ledger} {x : EffectRecord}
      {ad : LocalActionAdmission} (hx : s.effect a = some x) (ha : s.admission a = some ad)
      (hst : x.state = .prepared) (hb : s.dispatchBlocked ad.executionAttemptId = false)
      (hg : s.guard.engaged = false) (hn : s.guard.networkConnected = true) :
      Effect I (.beginSideEffectDispatch a f t) s
        { s with sideEffects := Book.sweep s.sideEffects (· = a) (Record.grant t) }
  | verify {a : ActionId} {f v : Digest} {t : Time} {s : Ledger} :
      Effect I (.verifySideEffect a f v t) s
        { s with sideEffects := Book.sweep s.sideEffects (· = a) (Record.settle (some v) t) }
  | doubt {a : ActionId} {f : Digest} {t : Time} {s : Ledger} :
      Effect I (.markSideEffectUncertain a f t) s
        { s with sideEffects := Book.sweep s.sideEffects (· = a) (Record.settle none t) }
  | preparePublish {j : PublishJobId} {c : Digest} {t : Time} {s : Ledger}
      {b : Book PublishJobId Digest Digest}
      (hb : Book.prepare? s.publishDispatches j c t = some b) :
      Effect I (.preparePublishDispatch j c t) s { s with publishDispatches := b }
  | grantPublish {j : PublishJobId} {c : Digest} {t : Time} {i : Nat} {s : Ledger}
      {x : EffectRecord} (hx : Book.lookup s.publishDispatches j = some x)
      (hst : x.state = .prepared) :
      Effect I (.beginPublishDispatch j c t i) s
        { s with publishDispatches := Book.sweep s.publishDispatches (· = j) (Record.grant t) }
  | verifyPublish {j : PublishJobId} {c v : Digest} {t : Time} {s : Ledger} :
      Effect I (.verifyPublishDispatch j c v t) s
        { s with
          publishDispatches := Book.sweep s.publishDispatches (· = j) (Record.settle (some v) t) }
  | doubtPublish {j : PublishJobId} {c : Digest} {t : Time} {s : Ledger} :
      Effect I (.markPublishDispatchUncertain j c t) s
        { s with
          publishDispatches := Book.sweep s.publishDispatches (· = j) (Record.settle none t) }
  | engage {t : Time} {s : Ledger} {g : ActionGuard} :
      Effect I (.engageActionEmergencyStop t) s { s with guard := g }
  | clear {n : Nat} {t : Time} {s : Ledger} {g : ActionGuard} :
      Effect I (.clearActionEmergencyStop n t) s { s with guard := g }
  | store {c : Command} {s s' : Ledger} (hs : c.messageType ≠ .taskEmergencyStop)
      (hc : Stored s c s') : Effect I (.receiveCommand c) s s'
  | storeStop {c : Command} {t : Time} {s s₁ s' : Ledger}
      (hs : c.messageType = .taskEmergencyStop) (hc : Stored s c s₁)
      (hw : Swept s₁ c.executionAttemptId t s') : Effect I (.receiveTaskEmergencyStop c t) s s'
  | stopAgain {c : Command} {t : Time} {s s' : Ledger}
      (hw : Swept s c.executionAttemptId t s') : Effect I (.receiveTaskEmergencyStop c t) s s'
  | control {m : MessageId} {n : Nat} {v : Outbound} {s s' : Ledger}
      {r : Option OutboxEntry} (h : s.completeTaskControl I m n v = some (r, s')) :
      Effect I (.completeTaskControl m n v) s s'
  | enqueue {m : MessageId} {x : Outbound} {s : Ledger} {c : Command} {O : Table OutboxRow}
      (hc : s.command m = some c) (ha : answers x c) (hO : s.append? m [x] = some O) :
      Effect I (.enqueueOutbox m x) s { s with outbox := O }
  | recover {a : ActionId} {n : Nat} {v : Outbound} {s s' : Ledger} {r : OutboxEntry}
      (h : s.commitSideEffectRecovery I a n v = some (r, s')) :
      Effect I (.commitSideEffectRecovery a n v) s s'
  | commit {m : MessageId} {n : Nat} {st : AttemptCheckpointState} {l : Nat} {ms : List Outbound}
      {s s' : Ledger} {r : List OutboxEntry} (h : s.commitOutcome I m n st l ms = some (r, s')) :
      Effect I (.commitOutcome m n st l ms) s s'
  | flags {o : Op} {s s' : Ledger} (h : SameFacts s s') : Effect I o s s'

theorem exec_effect_receive {I : Site} {s : Ledger} {c : Command} {s' : Ledger} {r : Reply Command}
    (h : s.receiveCommand I c = some (r, s')) : Effect I (.receiveCommand c) s s' := by
  obtain ⟨-, -, hstop, s₁, h₁, h₂⟩ := receive_some h
  obtain ⟨-, rfl⟩ | ⟨t, ht, -⟩ := h₂
  · obtain ⟨-, rfl, -⟩ | ⟨-, -, hst, -⟩ := h₁
    · exact .same
    · exact .store (fun he => absurd (hstop.1 he) nofun) hst
  · cases ht

theorem exec_effect_stop {I : Site} {s : Ledger} {c : Command} {t : Time} {s' : Ledger}
    {r : Reply Command} (h : s.receiveTaskEmergencyStop I c t = some (r, s')) :
    Effect I (.receiveTaskEmergencyStop c t) s s' := by
  obtain ⟨hty, h⟩ := require_eq_some.1 h
  obtain ⟨-, -, -, s₁, h₁, h₂⟩ := receive_some h
  obtain ⟨ht, -⟩ | ⟨t', ht, hw⟩ := h₂
  · cases ht
  · cases ht
    obtain ⟨-, rfl, -⟩ | ⟨-, -, hst, -⟩ := h₁
    · exact .stopAgain hw
    · exact .storeStop hty hst hw

/-- Every operation, run as a transaction, stays within `Effect`. -/
theorem exec_effect (I : Site) (o : Op) (s : Ledger) : Effect I o s (exec I o s).2 := by
  cases o
  case setTransportConnected b =>
    dsimp only [exec, setTransportConnected]
    split
    · exact .same
    · exact .transport
  case bindActionHardPolicy p => exact .policy
  case admitAction claims f t i n =>
    dsimp only [exec]
    cases h : s.admitAction I claims f t i n with
    | error e => exact .same
    | ok p =>
      obtain ⟨r, s'⟩ := p
      cases hr : r.replayed with
      | false => exact .admitted h hr
      | true =>
        obtain ⟨-, ⟨-, rfl, -⟩ | ⟨hr', -⟩⟩ := admitAction_ok h
        · exact .same
        · rw [hr] at hr'
          cases hr'
  case prepareSideEffect a f t =>
    dsimp only [exec]
    cases h : s.prepareSideEffect a f t with
    | none => exact .same
    | some p =>
      obtain ⟨r, s'⟩ := p
      obtain ⟨-, rfl, -⟩ | ⟨-, -, -, had, hact, -, b, hb, rfl⟩ := prepareSideEffect_some h
      · exact .same
      · exact .prepare had hact hb
  case beginSideEffectDispatch a f t =>
    dsimp only [exec]
    cases h : s.beginSideEffectDispatch a f t with
    | none => exact .same
    | some p =>
      obtain ⟨r, s'⟩ := p
      obtain ⟨x, hx, had, -, -, ⟨-, rfl, -⟩ | ⟨-, hst, -, -, hb, hg, hn, -, rfl⟩⟩ :=
        beginSideEffectDispatch_some h
      · exact .same
      · exact .grant hx had hst hb hg hn
  case verifySideEffect a f v t =>
    dsimp only [exec]
    cases h : s.verifySideEffect a f v t with
    | none => exact .same
    | some p =>
      obtain ⟨r, s'⟩ := p
      obtain ⟨x, -, -, -, -, ⟨-, rfl, -⟩ | ⟨-, -, -, -, rfl⟩⟩ := settleSideEffect_some h
      · exact .same
      · exact .verify
  case markSideEffectUncertain a f t =>
    dsimp only [exec]
    cases h : s.markSideEffectUncertain a f t with
    | none => exact .same
    | some p =>
      obtain ⟨r, s'⟩ := p
      obtain ⟨x, -, -, -, -, ⟨-, rfl, -⟩ | ⟨-, -, -, -, rfl⟩⟩ := settleSideEffect_some h
      · exact .same
      · exact .doubt
  case preparePublishDispatch j c t =>
    dsimp only [exec]
    cases h : s.preparePublishDispatch j c t with
    | none => exact .same
    | some p =>
      obtain ⟨r, s'⟩ := p
      obtain ⟨-, rfl⟩ | ⟨-, -, b, hb, rfl⟩ := preparePublishDispatch_some h
      · exact .same
      · exact .preparePublish hb
  case beginPublishDispatch j c t i =>
    dsimp only [exec]
    cases h : s.beginPublishDispatch j c t i with
    | none => exact .same
    | some p =>
      obtain ⟨r, s'⟩ := p
      obtain ⟨x, hx, ⟨-, rfl⟩ | ⟨-, hst, -, -, rfl⟩⟩ := beginPublishDispatch_some h
      · exact .same
      · exact .grantPublish hx hst
  case verifyPublishDispatch j c v t =>
    dsimp only [exec]
    cases h : s.settlePublishDispatch j c (some v) t with
    | none => exact .same
    | some p =>
      obtain ⟨r, s'⟩ := p
      obtain ⟨-, rfl⟩ | ⟨-, rfl⟩ := settlePublishDispatch_some h
      · exact .same
      · exact .verifyPublish
  case markPublishDispatchUncertain j c t =>
    dsimp only [exec]
    cases h : s.settlePublishDispatch j c none t with
    | none => exact .same
    | some p =>
      obtain ⟨r, s'⟩ := p
      obtain ⟨-, rfl⟩ | ⟨-, rfl⟩ := settlePublishDispatch_some h
      · exact .same
      · exact .doubtPublish
  case engageActionEmergencyStop t =>
    dsimp only [exec, engageActionEmergencyStop]
    cases h : s.engageActionLatch t with
    | none => exact .same
    | some s' =>
      obtain ⟨g, rfl, -⟩ := engageActionLatch_eq h
      exact .engage
  case clearActionEmergencyStop n t =>
    dsimp only [exec]
    cases h : s.clearActionEmergencyStop n t with
    | none => exact .same
    | some p =>
      obtain ⟨r, s'⟩ := p
      obtain ⟨-, h⟩ := require_eq_some.1 h
      cases h
      exact .clear
  case receiveCommand c =>
    dsimp only [exec]
    cases h : s.receiveCommand I c with
    | none => exact .same
    | some p => exact exec_effect_receive h
  case receiveTaskEmergencyStop c t =>
    dsimp only [exec]
    cases h : s.receiveTaskEmergencyStop I c t with
    | none => exact .same
    | some p => exact exec_effect_stop h
  case completeTaskControl m n v =>
    dsimp only [exec]
    cases h : s.completeTaskControl I m n v with
    | none => exact .same
    | some p => exact .control h
  case enqueueOutbox m x =>
    dsimp only [exec]
    cases h : s.enqueueOutbox I m x with
    | none => exact .same
    | some p =>
      obtain ⟨r, s'⟩ := p
      obtain ⟨-, rfl⟩ | ⟨-, c, O, hc, ha, hO, rfl⟩ := enqueueOutbox_some h
      · exact .same
      · exact .enqueue hc ha hO
  case commitSideEffectRecovery a n v =>
    dsimp only [exec]
    cases h : s.commitSideEffectRecovery I a n v with
    | none => exact .same
    | some p => exact .recover h
  case commitOutcome m n st l ms =>
    dsimp only [exec]
    cases h : s.commitOutcome I m n st l ms with
    | none => exact .same
    | some p => exact .commit h
  case requeueDeliveredOutbox => exact .flags s.requeueDeliveredOutbox_sent
  case outboxForDelivery t b => exact .flags (s.outboxForDelivery_sent t b)
  case markOutboxDelivered m =>
    dsimp only [exec]
    cases h : s.markOutboxDelivered m with
    | none => exact .same
    | some p => exact .flags (markOutboxDelivered_sent h)
  all_goals exact .same

/-! ## Which tables an operation touches -/

theorem step_refl (r : EffectRecord) : r.Step r := .inl rfl

/-- The ledgers an operation may lead to, by the tables it writes; the two
books move along `Record.Step`. -/
inductive Frame (I : Site) (s : Ledger) : Ledger → Prop where
  /-- Checkpoints, commands and outbox. -/
  | journal (P : Table AttemptCheckpoint) (C : Table Command) (O : Table OutboxRow) :
      Frame I s { s with checkpoints := P, commands := C, outbox := O }
  /-- One new admission. -/
  | admissions {claims : ActionAuthorizationClaims} {f : Digest} {t : Time} {i n : Nat}
      {r : Reply LocalActionAdmission} {A : Table LocalActionAdmission}
      (h : s.admitAction I claims f t i n = .ok (r, { s with admissions := A }))
      (hr : r.replayed = false) : Frame I s { s with admissions := A }
  | effects {b : Book ActionId Digest Digest} (h : Book.Along Record.Step s.sideEffects b) :
      Frame I s { s with sideEffects := b }
  | publishes {b : Book PublishJobId Digest Digest}
      (h : Book.Along Record.Step s.publishDispatches b) :
      Frame I s { s with publishDispatches := b }
  | guard (g : ActionGuard) : Frame I s { s with guard := g }
  | policy (p : Option LocalActionHardPolicyBinding) : Frame I s { s with policy := p }
  /-- An emergency stop. -/
  | stop (P : Table AttemptCheckpoint) (C : Table Command) (g : ActionGuard)
      {b : Book ActionId Digest Digest} (h : Book.Along Record.Step s.sideEffects b) :
      Frame I s { s with checkpoints := P, commands := C, guard := g, sideEffects := b }

theorem Stored.eq {s s' : Ledger} {c : Command} (h : Stored s c s') :
    ∃ P C, s' = { s with checkpoints := P, commands := C } := by
  cases h <;> exact ⟨_, _, rfl⟩

theorem Effect.frame {I : Site} {o : Op} {s s' : Ledger} (h : Effect I o s s') : Frame I s s' := by
  have hgrant : ∀ (r : EffectRecord) (t : Time), r.Step (r.grant t) := Record.grant_step
  have hsettle : ∀ (r : EffectRecord) (v : Option Digest) (t : Time), r.Step (r.settle v t) :=
    Record.settle_step
  cases h with
  | same => exact .journal _ _ _
  | transport => exact .guard _
  | policy => rw [bindActionHardPolicy_policy]; exact .policy _
  | admitted h hr =>
    obtain ⟨-, ⟨-, rfl, -⟩ | ⟨-, -, -, -, -, -, -, -, A, -, rfl⟩⟩ := admitAction_ok h
    · exact .journal _ _ _
    · exact .admissions h hr
  | prepare ha hact hb => exact .effects (Book.prepare?_along step_refl hb)
  | grant => exact .effects (Book.sweep_along step_refl (fun r => hgrant r _) _ _)
  | verify => exact .effects (Book.sweep_along step_refl (fun r => hsettle r _ _) _ _)
  | doubt => exact .effects (Book.sweep_along step_refl (fun r => hsettle r _ _) _ _)
  | preparePublish hb => exact .publishes (Book.prepare?_along step_refl hb)
  | grantPublish => exact .publishes (Book.sweep_along step_refl (fun r => hgrant r _) _ _)
  | verifyPublish => exact .publishes (Book.sweep_along step_refl (fun r => hsettle r _ _) _ _)
  | doubtPublish => exact .publishes (Book.sweep_along step_refl (fun r => hsettle r _ _) _ _)
  | engage => exact .guard _
  | clear => exact .guard _
  | store hs hc =>
    obtain ⟨P, C, rfl⟩ := hc.eq
    exact .journal P C _
  | storeStop hs hc hw =>
    obtain ⟨P, C, rfl⟩ := hc.eq
    obtain ⟨⟨g, rfl, -⟩, -⟩ := hw
    exact .stop P C g (Book.sweep_along step_refl (fun r => hsettle r none _) _ _)
  | stopAgain hw =>
    obtain ⟨⟨g, rfl, -⟩, -⟩ := hw
    exact .stop _ _ g (Book.sweep_along step_refl (fun r => hsettle r none _) _ _)
  | control h =>
    obtain rfl | ⟨c, p, O, -, -, -, -, -, -, -, -, -, -, rfl⟩ := completeTaskControl_some h
    · exact .journal _ _ _
    · exact .journal _ _ O
  | enqueue => exact .journal _ _ _
  | recover h =>
    obtain ⟨-, -, ⟨-, rfl, -⟩ | ⟨-, -, -, x, ad, p, c, O, h⟩⟩ := commitSideEffectRecovery_some h
    · exact .journal _ _ _
    · obtain ⟨-, -, -, -, -, -, -, -, -, -, -, -, -, rfl⟩ := h
      exact .journal _ _ O
  | commit h =>
    obtain ⟨c, p, O, -, -, -, -, -, -, -, -, rfl⟩ := commitOutcome_some h
    exact .journal _ _ O
  | flags h =>
    obtain ⟨O, rfl, -⟩ := h
    exact .journal _ _ O

theorem exec_frame (I : Site) (o : Op) (s : Ledger) : Frame I s (exec I o s).2 :=
  (exec_effect I o s).frame

end Ledger
end AutomationTool.Executor
