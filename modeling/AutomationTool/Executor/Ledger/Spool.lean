import AutomationTool.Executor.Ledger.Service

/-!
# What an operation does to the outbox

Four operations append to the outbox, and each of them asks
`_require_pending_outbox_capacity` first; three move the flags of its rows; the
others leave it alone. `outboxStep_exec` says so once of `exec`.

The pending spool is the messages that still have to be sent: neither delivered nor
expired. Delivery and expiry take messages out of it. `requeue_delivered_outbox` and
a recovering `outbox_for_delivery` put delivered ones back and ask nothing:
afterwards the spool is every message they find (`spool_requeueDeliveredOutbox`,
`spool_outboxForDelivery`).
-/
namespace AutomationTool.Executor.Ledger

open Protocol Dispatch

/-- `delivered = 0 AND expired = 0`. -/
def OutboxRow.pending (r : OutboxRow) : Bool := !r.delivered && !r.expired

/-- The messages of the rows that satisfy `p`, in outbox order. -/
def messagesOf (O : Table OutboxRow) (p : OutboxRow → Bool) : List Outbound :=
  (O.rows.filter p).map fun r => r.message

/-- The messages that wait to be sent. -/
def spool (s : Ledger) : List Outbound := messagesOf s.outbox OutboxRow.pending

/-- The messages that are not expired, delivered or not. -/
def unexpired (s : Ledger) : List Outbound := messagesOf s.outbox fun r => !r.expired

/-- The messages that are not expired and still in time at `t`. -/
def inTime (s : Ledger) (t : Time) : List Outbound :=
  messagesOf s.outbox fun r => !r.expired && t < r.message.deadlineAt

/-- At most 1000 messages of together at most 16 MiB. -/
def FitsSpool (I : Site) (ms : List Outbound) : Prop :=
  ms.length ≤ maxPendingOutboxEntries ∧ (ms.map I.envelopeBytes).sum ≤ maxPendingOutboxBytes

theorem messagesOf_sublist {O : Table OutboxRow} {p q : OutboxRow → Bool}
    (h : ∀ r, p r = true → q r = true) : (messagesOf O p).Sublist (messagesOf O q) :=
  (List.monotone_filter_right O.rows h).map _

theorem sum_le_of_sublist {as bs : List Nat} (h : as.Sublist bs) : as.sum ≤ bs.sum := by
  induction h with
  | slnil => exact Nat.le_refl 0
  | cons b _ ih =>
    rw [List.sum_cons]
    omega
  | cons_cons b _ ih =>
    rw [List.sum_cons, List.sum_cons]
    omega

theorem FitsSpool.sublist {I : Site} {ms ms' : List Outbound} (h : FitsSpool I ms)
    (hs : ms'.Sublist ms) : FitsSpool I ms' := by
  obtain ⟨hlen, hbytes⟩ := h
  exact ⟨hs.length_le.trans hlen, (sum_le_of_sublist (hs.map I.envelopeBytes)).trans hbytes⟩

theorem hasCapacity_iff {I : Site} {s : Ledger} {ms : List Outbound} :
    s.hasCapacity I ms = true ↔ FitsSpool I (s.spool ++ ms) := by
  unfold hasCapacity FitsSpool spool messagesOf OutboxRow.pending
  rw [Bool.and_eq_true, decide_eq_true_eq, decide_eq_true_eq, List.length_append, List.length_map,
    List.map_append, List.sum_append, List.map_map]
  exact Iff.rfl

/-! ## What each statement does to the spool -/

theorem pending_newRows (source : MessageId) (n : Nat) (ms : List Outbound) :
    ((newRows source n ms).filter OutboxRow.pending).map (·.message) = ms := by
  induction ms generalizing n with
  | nil => rfl
  | cons m ms ih => rw [newRows, List.filter_cons_of_pos (by rfl), List.map_cons, ih]

theorem pending_append {s : Ledger} {source : MessageId} {ms : List Outbound}
    {O : Table OutboxRow} (h : s.append? source ms = some O) :
    messagesOf O OutboxRow.pending = s.spool ++ ms := by
  unfold spool messagesOf
  rw [Table.insertAll?_rows h, List.filter_append, List.map_append, pending_newRows]

/-- What is pending after an update, in terms of the rows before it. -/
theorem pending_updateWhere {O : Table OutboxRow} {p d e q : OutboxRow → Bool}
    (h : ∀ r, (if p r then setFlags d e r else r).pending = q r) :
    messagesOf (O.updateWhere p _ (keepsKeys_setFlags d e)) OutboxRow.pending = messagesOf O q := by
  unfold Table.updateWhere messagesOf
  dsimp only
  rw [List.filter_map, List.map_map]
  have hq : (OutboxRow.pending ∘ fun r => if p r then setFlags d e r else r) = q := funext h
  rw [hq]
  refine List.map_congr_left fun r _ => ?_
  dsimp only [Function.comp]
  split <;> rfl

/-- A requeue leaves every unexpired message pending. -/
theorem spool_requeueDeliveredOutbox (s : Ledger) :
    s.requeueDeliveredOutbox.2.spool = s.unexpired := by
  refine pending_updateWhere fun r => ?_
  cases hd : r.delivered <;> cases he : r.expired <;> simp [OutboxRow.pending, setFlags, hd, he]

/-- A delivery leaves the messages it scans that are in time. -/
theorem spool_outboxForDelivery (s : Ledger) (t : Time) (b : Bool) :
    (s.outboxForDelivery t b).2.spool =
      messagesOf s.outbox fun r => scanned b r && t < r.message.deadlineAt := by
  refine pending_updateWhere fun r => ?_
  by_cases ht : t < r.message.deadlineAt
  · have := Nat.not_le_of_lt ht
    cases b <;> cases hd : r.delivered <;> cases he : r.expired <;>
      simp [OutboxRow.pending, setFlags, scanned, hd, he, ht, this]
  · have := Nat.le_of_not_lt ht
    cases b <;> cases hd : r.delivered <;> cases he : r.expired <;>
      simp [OutboxRow.pending, setFlags, scanned, hd, he, ht, this]

/-- Nothing comes back when delivered rows are not recovered. -/
theorem scanned_false (r : OutboxRow) : scanned false r = r.pending := by
  unfold scanned OutboxRow.pending
  rw [Bool.or_false, Bool.and_comm]

theorem scanned_true (r : OutboxRow) : scanned true r = !r.expired := by
  unfold scanned
  rw [Bool.or_true, Bool.and_true]

theorem spool_markOutboxDelivered {s s' : Ledger} {m : MessageId} {b : Bool}
    (h : s.markOutboxDelivered m = some (b, s')) : s'.spool.Sublist s.spool := by
  obtain ⟨r, -, h⟩ := Option.bind_eq_some_iff.1 h
  split at h
  · cases h
    exact .refl _
  · cases h
    have hs := pending_updateWhere (O := s.outbox)
      (p := fun r => r.message.messageId = m && !r.delivered) (d := fun _ => true)
      (e := (·.expired)) (q := fun r => r.pending && !decide (r.message.messageId = m)) fun r => by
        by_cases hm : r.message.messageId = m <;> cases hd : r.delivered <;>
          cases he : r.expired <;> simp [OutboxRow.pending, setFlags, hm, hd, he]
    unfold spool
    dsimp only
    rw [hs]
    exact messagesOf_sublist fun r hr => (Bool.and_eq_true_iff.1 hr).1

/-! ## Every operation -/

/-- What an operation can do to the outbox. -/
inductive OutboxStep (I : Site) (s : Ledger) : Op → Table OutboxRow → Prop where
  | same {o : Op} : OutboxStep I s o s.outbox
  | append {o : Op} {source : MessageId} {ms : List Outbound} {O : Table OutboxRow}
      (hcap : s.hasCapacity I ms = true) (hO : s.append? source ms = some O) : OutboxStep I s o O
  | requeue : OutboxStep I s .requeueDeliveredOutbox s.requeueDeliveredOutbox.2.outbox
  | deliver {t : Time} {b : Bool} :
      OutboxStep I s (.outboxForDelivery t b) (s.outboxForDelivery t b).2.outbox
  | mark {m : MessageId} {b : Bool} {s' : Ledger} (h : s.markOutboxDelivered m = some (b, s')) :
      OutboxStep I s (.markOutboxDelivered m) s'.outbox

theorem outboxStep_atomic {α : Type} {I : Site} {s : Ledger} {o : Op} {x : Option (α × Ledger)}
    (h : ∀ r s', x = some (r, s') → OutboxStep I s o s'.outbox) :
    OutboxStep I s o (s.atomic x).2.outbox := by
  cases x with
  | none => exact .same
  | some p => exact h p.1 p.2 rfl

section Operations

variable {I : Site} {s s' : Ledger} {o : Op}

theorem OutboxStep.of_eq (h : s'.outbox = s.outbox) : OutboxStep I s o s'.outbox := by
  rw [h]
  exact .same

theorem enqueueOutbox_step {source : MessageId} {m : Outbound} {r : OutboxEntry}
    (h : s.enqueueOutbox I source m = some (r, s')) : OutboxStep I s o s'.outbox := by
  obtain ⟨-, h⟩ := require_eq_some.1 h
  split at h
  · obtain ⟨-, h⟩ := require_eq_some.1 h
    cases h
    exact .same
  · obtain ⟨c, -, h⟩ := Option.bind_eq_some_iff.1 h
    obtain ⟨⟨-, hcap⟩, h⟩ := require_eq_some.1 h
    obtain ⟨O, hO, h⟩ := Option.bind_eq_some_iff.1 h
    cases h
    exact .append hcap hO

theorem commitOutcome_step {source : MessageId} {rev : Nat} {st : AttemptCheckpointState}
    {last : Nat} {ms : List Outbound} {r : List OutboxEntry}
    (h : s.commitOutcome I source rev st last ms = some (r, s')) : OutboxStep I s o s'.outbox := by
  obtain ⟨-, h⟩ := require_eq_some.1 h
  obtain ⟨c, -, h⟩ := Option.bind_eq_some_iff.1 h
  obtain ⟨-, h⟩ := require_eq_some.1 h
  obtain ⟨p, -, h⟩ := Option.bind_eq_some_iff.1 h
  obtain ⟨⟨-, -, hcap⟩, h⟩ := require_eq_some.1 h
  obtain ⟨O, hO, h⟩ := Option.bind_eq_some_iff.1 h
  cases h
  exact .append hcap hO

theorem completeTaskControl_step {source : MessageId} {rev : Nat} {event : Outbound}
    {r : Option OutboxEntry} (h : s.completeTaskControl I source rev event = some (r, s')) :
    OutboxStep I s o s'.outbox := by
  obtain ⟨-, h⟩ := require_eq_some.1 h
  obtain ⟨c, -, h⟩ := Option.bind_eq_some_iff.1 h
  obtain ⟨p, -, h⟩ := Option.bind_eq_some_iff.1 h
  obtain ⟨-, h⟩ := require_eq_some.1 h
  split at h
  · obtain ⟨-, h⟩ := require_eq_some.1 h
    cases h
    exact .same
  · obtain ⟨-, h⟩ := require_eq_some.1 h
    split at h
    · cases h
      exact .same
    · obtain ⟨⟨-, hcap⟩, h⟩ := require_eq_some.1 h
      obtain ⟨O, hO, h⟩ := Option.bind_eq_some_iff.1 h
      cases h
      exact .append hcap hO

theorem commitSideEffectRecovery_step {a : ActionId} {rev : Nat} {event : Outbound}
    {r : OutboxEntry} (h : s.commitSideEffectRecovery I a rev event = some (r, s')) :
    OutboxStep I s o s'.outbox := by
  obtain ⟨-, h⟩ := require_eq_some.1 h
  split at h
  · obtain ⟨-, h⟩ := require_eq_some.1 h
    cases h
    exact .same
  · obtain ⟨x, -, h⟩ := Option.bind_eq_some_iff.1 h
    obtain ⟨ad, -, h⟩ := Option.bind_eq_some_iff.1 h
    obtain ⟨p, -, h⟩ := Option.bind_eq_some_iff.1 h
    obtain ⟨c, -, h⟩ := Option.bind_eq_some_iff.1 h
    obtain ⟨⟨-, -, -, -, -, -, -, -, -, -, hcap⟩, h⟩ := require_eq_some.1 h
    obtain ⟨O, hO, h⟩ := Option.bind_eq_some_iff.1 h
    cases h
    exact .append hcap hO

theorem Stored.outbox {c : Command} (h : Stored s c s') : s'.outbox = s.outbox := by
  obtain ⟨P, C, rfl⟩ := h.eq
  rfl

theorem Swept.outbox {e : ExecutionAttemptId} {t : Time} (h : Swept s e t s') :
    s'.outbox = s.outbox := by
  obtain ⟨⟨g, rfl, -⟩, -⟩ := h
  rfl

theorem receive_outbox {c : Command} {stopAt : Option Time} {r : Reply Command}
    (h : s.receive I c stopAt = some (r, s')) : s'.outbox = s.outbox := by
  obtain ⟨-, -, -, s₁, h₁, h₂⟩ := receive_some h
  have hs₁ : s₁.outbox = s.outbox := by
    obtain ⟨-, rfl, -⟩ | ⟨-, -, hst, -⟩ := h₁
    · rfl
    · exact hst.outbox
  obtain ⟨-, rfl⟩ | ⟨t, -, hw⟩ := h₂
  · exact hs₁
  · exact hw.outbox.trans hs₁

end Operations

theorem outboxStep_exec (I : Site) (o : Op) (s : Ledger) : OutboxStep I s o (exec I o s).2.outbox := by
  cases o
  case enqueueOutbox m x => exact outboxStep_atomic fun _ _ h => enqueueOutbox_step h
  case commitOutcome m n st l ms => exact outboxStep_atomic fun _ _ h => commitOutcome_step h
  case completeTaskControl m n v => exact outboxStep_atomic fun _ _ h => completeTaskControl_step h
  case commitSideEffectRecovery a n v =>
    exact outboxStep_atomic fun _ _ h => commitSideEffectRecovery_step h
  case requeueDeliveredOutbox => exact .requeue
  case outboxForDelivery t b => exact .deliver
  case markOutboxDelivered m => exact outboxStep_atomic fun _ _ h => .mark h
  -- the others do not write the outbox
  case setTransportConnected b =>
    dsimp only [exec, setTransportConnected]
    split <;> exact .same
  case bindActionHardPolicy p =>
    refine .of_eq ?_
    dsimp only [exec]
    rw [bindActionHardPolicy_policy]
  case admitAction claims f t i n =>
    dsimp only [exec]
    cases h : s.admitAction I claims f t i n with
    | error e => exact .same
    | ok p =>
      obtain ⟨r, s'⟩ := p
      obtain ⟨-, ⟨-, rfl, -⟩ | ⟨-, -, -, -, -, -, -, -, A, -, rfl⟩⟩ := admitAction_ok h <;>
        exact .same
  case prepareSideEffect a f t =>
    refine outboxStep_atomic fun r s' h => ?_
    obtain ⟨-, rfl, -⟩ | ⟨-, -, -, -, -, -, b, -, rfl⟩ := prepareSideEffect_some h <;> exact .same
  case beginSideEffectDispatch a f t =>
    refine outboxStep_atomic fun r s' h => ?_
    obtain ⟨x, -, -, -, -, ⟨-, rfl, -⟩ | ⟨-, -, -, -, -, -, -, -, rfl⟩⟩ :=
      beginSideEffectDispatch_some h <;> exact .same
  case verifySideEffect a f v t =>
    refine outboxStep_atomic fun r s' h => ?_
    obtain ⟨x, -, -, -, -, ⟨-, rfl, -⟩ | ⟨-, -, -, -, rfl⟩⟩ := settleSideEffect_some h <;>
      exact .same
  case markSideEffectUncertain a f t =>
    refine outboxStep_atomic fun r s' h => ?_
    obtain ⟨x, -, -, -, -, ⟨-, rfl, -⟩ | ⟨-, -, -, -, rfl⟩⟩ := settleSideEffect_some h <;>
      exact .same
  case preparePublishDispatch j c t =>
    refine outboxStep_atomic fun r s' h => ?_
    obtain ⟨-, rfl⟩ | ⟨-, -, b, -, rfl⟩ := preparePublishDispatch_some h <;> exact .same
  case beginPublishDispatch j c t i =>
    refine outboxStep_atomic fun r s' h => ?_
    obtain ⟨x, -, ⟨-, rfl⟩ | ⟨-, -, -, -, rfl⟩⟩ := beginPublishDispatch_some h <;> exact .same
  case verifyPublishDispatch j c v t =>
    refine outboxStep_atomic fun r s' h => ?_
    obtain ⟨-, rfl⟩ | ⟨-, rfl⟩ := settlePublishDispatch_some h <;> exact .same
  case markPublishDispatchUncertain j c t =>
    refine outboxStep_atomic fun r s' h => ?_
    obtain ⟨-, rfl⟩ | ⟨-, rfl⟩ := settlePublishDispatch_some h <;> exact .same
  case engageActionEmergencyStop t =>
    dsimp only [exec, engageActionEmergencyStop]
    cases h : s.engageActionLatch t with
    | none => exact .same
    | some s' =>
      obtain ⟨g, rfl, -⟩ := engageActionLatch_eq h
      exact .same
  case clearActionEmergencyStop n t =>
    refine outboxStep_atomic fun r s' h => ?_
    obtain ⟨-, h⟩ := require_eq_some.1 h
    cases h
    exact .same
  case receiveCommand c => exact outboxStep_atomic fun _ _ h => .of_eq (receive_outbox h)
  case receiveTaskEmergencyStop c t =>
    refine outboxStep_atomic fun r s' h => ?_
    obtain ⟨-, h⟩ := require_eq_some.1 h
    exact .of_eq (receive_outbox h)
  all_goals exact .same

end AutomationTool.Executor.Ledger
