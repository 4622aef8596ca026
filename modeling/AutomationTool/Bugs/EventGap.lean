import AutomationTool.Executor.System
import AutomationTool.Executor.Ledger.Spool

/-!
# An expired event leaves a gap in front of the events after it

Behaviour (ledger.py:2436-2505): a delivery scans
the outbox in ordinal order, marks a message whose deadline has passed as expired and
goes on with the next one. An event that was never sent and is past its deadline is
left out, and a later event of the same attempt with a later deadline is returned.

Evidence: the control plane takes an event only at `last_event_sequence + 1`
(task_event_convergence_repository.py:505-509)
and closes the connection otherwise; README H8-07, what was written offline is resumed
exactly and both sides end with the same facts.

Counterexample: the connection is lost before `task.started`, written at second 1, goes
out; an action is performed at second 20; a delivery at second 40 returns the events of
the action without `task.started`.

`gapFree_iff`: a delivery has no gap exactly when no event that was never sent is past
its deadline while a later event of its attempt goes out.
-/
namespace AutomationTool.Bugs.EventGap

open Executor Protocol Ledger Journal

/-- `g` comes before `f` in the event stream of one attempt. -/
def Before (g f : Outbound) : Prop :=
  g.isTaskEvent = true ∧ f.isTaskEvent = true ∧ g.executionAttemptId = f.executionAttemptId ∧
    g.sequence < f.sequence

instance (g f : Outbound) : Decidable (Before g f) := inferInstanceAs (Decidable (_ ∧ _ ∧ _ ∧ _))

/-- The call marked the message as delivered, or found that it was. -/
def delivers (m : MessageId) : Call Op Op.Ret → Bool
  | ⟨.markOutboxDelivered m', some _⟩ => m' = m
  | _ => false

/-- The message went out in the run. -/
def Sent (ls : List (Call Op Op.Ret)) (m : MessageId) : Prop := ls.any (delivers m) = true

/-- The messages one delivery returns. -/
def batch (s : Ledger) (t : Time) (b : Bool) : List Outbound :=
  (s.outboxForDelivery t b).1.map (·.message)

/-- Every event before a returned one went out in the run `ls`, or is returned before it. -/
def GapFree (ls : List (Call Op Op.Ret)) (s : Ledger) (t : Time) (b : Bool) : Prop :=
  ∀ (j : Nat) (f : Outbound), (batch s t b)[j]? = some f → ∀ g ∈ s.sent, Before g.message f →
    Sent ls g.message.messageId ∨ ∃ i, i < j ∧ (batch s t b)[i]? = some g.message

/-- No event that never went out is expired or past its deadline while a later event
of its attempt is waiting and in time. -/
def NoneOverdue (ls : List (Call Op Op.Ret)) (s : Ledger) (t : Time) (b : Bool) : Prop :=
  ∀ r ∈ s.outbox, ∀ r' ∈ s.outbox, Before r.message r'.message →
    scanned b r' = true → t < r'.message.deadlineAt → ¬Sent ls r.message.messageId →
      r.expired = false ∧ t < r.message.deadlineAt

/-! ## Events are sent in the order of their sequence -/

/-- A message written later is not an earlier event. -/
theorem sent_ordered {s : Ledger} (h : s.journal.Inv) :
    s.sent.Pairwise fun x y => ¬Before y.message x.message := by
  refine List.pairwise_iff_forall_sublist.2 fun {x y} hxy hb => ?_
  obtain ⟨hy, hx, hatt, hlt⟩ := hb
  have hsub : [x, y].Sublist (s.journal.eventsOf x.message.executionAttemptId) := by
    have hfilter := hxy.filter fun f =>
      f.message.executionAttemptId = x.message.executionAttemptId && f.message.isTaskEvent
    simp only [List.filter_cons, hx, hy, hatt, decide_true, Bool.and_self, if_true,
      List.filter_nil] at hfilter
    exact hfilter
  have hinc : (s.journal.eventsOf x.message.executionAttemptId).Pairwise
      fun a b => a.message.sequence < b.message.sequence := by
    cases hp : s.journal.checkpoint x.message.executionAttemptId with
    | none =>
      rw [(h.nothing hp).2]
      exact .nil
    | some p =>
      cases (h.good hp).phase with
      | received _ hev _ => rw [hev]; exact .nil
      | discovered _ hev _ => rw [hev]; exact .nil
      | started c b hc hb hst hl hseq honly =>
        have := List.pairwise_lt_range' (s := b + 1) (n := p.lastEventSequence - b)
        rw [← hseq, List.pairwise_map] at this
        exact this
  have := List.pairwise_iff_forall_sublist.1 hinc hsub
  omega

/-! ## A delivered row was sent -/

theorem newRows_delivered {source : MessageId} {n : Nat} {ms : List Outbound} {r : OutboxRow}
    (h : r ∈ newRows source n ms) : r.delivered = false := by
  induction ms generalizing n with
  | nil => cases h
  | cons m ms ih =>
    rcases List.mem_cons.1 h with rfl | h
    · rfl
    · exact ih h

theorem delivered_exec {I : Site} {o : Op} {s : Ledger} {r : OutboxRow}
    (hr : r ∈ (exec I o s).2.outbox) (hd : r.delivered = true) :
    (∃ r₀ ∈ s.outbox, r₀.delivered = true ∧ r₀.message = r.message) ∨
      delivers r.message.messageId ⟨o, (exec I o s).1⟩ = true := by
  have h := outboxStep_exec I o s
  generalize (exec I o s).2.outbox = O at h hr
  cases h with
  | same => exact .inl ⟨r, hr, hd, rfl⟩
  | append hcap hO =>
    rcases (Table.mem_insertAll? hO).1 hr with hr | hr
    · exact .inl ⟨r, hr, hd, rfl⟩
    · rw [newRows_delivered hr] at hd
      cases hd
  | requeue =>
    obtain ⟨r₀, hr₀, rfl⟩ := List.mem_map.1 hr
    refine .inl ⟨r₀, hr₀, ?_⟩
    split at hd
    · cases hd
    · rename_i hp
      rw [if_neg hp]
      exact ⟨hd, rfl⟩
  | deliver =>
    obtain ⟨r₀, hr₀, rfl⟩ := List.mem_map.1 hr
    refine .inl ⟨r₀, hr₀, ?_⟩
    split at hd
    · rename_i hp
      rw [if_pos hp]
      exact ⟨(Bool.and_eq_true_iff.1 hd).1, rfl⟩
    · rename_i hp
      rw [if_neg hp]
      exact ⟨hd, rfl⟩
  | @mark m b s' h =>
    have hrep : (exec I (.markOutboxDelivered m) s).1 = some b := by
      dsimp only [exec]
      rw [h]
      rfl
    rw [hrep]
    obtain ⟨x, -, h⟩ := Option.bind_eq_some_iff.1 h
    split at h
    · cases h
      exact .inl ⟨r, hr, hd, rfl⟩
    · cases h
      obtain ⟨r₀, hr₀, rfl⟩ := List.mem_map.1 hr
      split at hd
      · rename_i hp
        rw [if_pos hp]
        right
        exact decide_eq_true (of_decide_eq_true (Bool.and_eq_true_iff.1 hp).1).symm
      · rename_i hp
        rw [if_neg hp]
        exact .inl ⟨r₀, hr₀, hd, rfl⟩

/-- By induction on the run: what is marked at its end was marked at its start or sent in it. -/
theorem delivered_run {I : Site} {s s' : Ledger} {ls : List (Call Op Op.Ret)}
    (h : (issuedCalls I).Run s ls s') {r : OutboxRow} (hr : r ∈ s'.outbox)
    (hd : r.delivered = true) :
    (∃ r₀ ∈ s.outbox, r₀.delivered = true ∧ r₀.message = r.message) ∨
      Sent ls r.message.messageId := by
  induction h with
  | nil => exact .inl ⟨r, hr, hd, rfl⟩
  | @cons s m s' c ls hs _ ih =>
    rcases ih hr with ⟨r₀, hr₀, hd₀, hm⟩ | hsent
    · obtain ⟨o, x⟩ := c
      obtain ⟨-, he⟩ := hs
      have hmem : r₀ ∈ (exec I o s).2.outbox := by
        rw [he]
        exact hr₀
      rcases delivered_exec hmem hd₀ with ⟨r₁, hr₁, hd₁, hm₁⟩ | hdel
      · exact .inl ⟨r₁, hr₁, hd₁, hm₁.trans hm⟩
      · rw [he, hm] at hdel
        right
        unfold Sent
        rw [List.any_cons, hdel, Bool.true_or]
    · right
      unfold Sent at hsent ⊢
      rw [List.any_cons, hsent, Bool.or_true]

/-- A message that never went out is not marked. -/
theorem not_delivered {I : Site} {s : Ledger} {ls : List (Call Op Op.Ret)}
    (h : (issuedCalls I).Run empty ls s) {r : OutboxRow} (hr : r ∈ s.outbox)
    (hn : ¬Sent ls r.message.messageId) : r.delivered = false := by
  cases hd : r.delivered with
  | false => rfl
  | true =>
    rcases delivered_run h hr hd with ⟨r₀, hr₀, -⟩ | hsent
    · cases hr₀
    · exact absurd hsent hn

/-! ## What a delivery returns -/

theorem batch_eq (s : Ledger) (t : Time) (b : Bool) :
    batch s t b = messagesOf s.outbox fun r => scanned b r && t < r.message.deadlineAt := by
  unfold batch outboxForDelivery messagesOf
  rw [List.map_map]
  rfl

theorem mem_batch {s : Ledger} {t : Time} {b : Bool} {m : Outbound} : m ∈ batch s t b ↔
    ∃ r ∈ s.outbox, r.message = m ∧ scanned b r = true ∧ t < r.message.deadlineAt := by
  rw [batch_eq, messagesOf, List.mem_map]
  constructor
  · rintro ⟨r, hr, rfl⟩
    obtain ⟨hr, hp⟩ := List.mem_filter.1 hr
    obtain ⟨hs, ht⟩ := Bool.and_eq_true_iff.1 hp
    exact ⟨r, hr, rfl, hs, of_decide_eq_true ht⟩
  · rintro ⟨r, hr, rfl, hs, ht⟩
    exact ⟨r, List.mem_filter.2 ⟨hr, Bool.and_eq_true_iff.2 ⟨hs, decide_eq_true ht⟩⟩, rfl⟩

theorem batch_ordered {s : Ledger} (h : s.journal.Inv) (t : Time) (b : Bool) :
    (batch s t b).Pairwise fun x y => ¬Before y x := by
  have hall : (s.outbox.rows.map fun r => r.message).Pairwise fun x y => ¬Before y x := by
    have := sent_ordered h
    unfold Ledger.sent at this
    rw [List.pairwise_map] at this ⊢
    exact this
  rw [batch_eq]
  exact hall.sublist (List.filter_sublist.map _)

/-- Two rows with one message id are one row. -/
theorem eq_of_message {s : Ledger} {r r' : OutboxRow} (hr : r ∈ s.outbox) (hr' : r' ∈ s.outbox)
    (h : r.message = r'.message) : r = r' :=
  Table.eq_of_not_apart hr hr' fun hab => hab.2.1 (congrArg _ h)

/-- **A delivery is free of gaps exactly when nothing it owes is overdue.** In every
ledger the executor reaches, at every observation time, recovering or not: each event
that comes before a returned one went out before or is returned before it, if and only
if no event that never went out is expired or past its deadline while a later event of
its attempt is waiting in time. -/
theorem gapFree_iff (I : Site) (s : Ledger) (ls : List (Call Op Op.Ret))
    (h : (issuedCalls I).Run empty ls s) (t : Time) (b : Bool) :
    GapFree ls s t b ↔ NoneOverdue ls s t b := by
  have hinv : s.journal.Inv := inv_reachable ⟨empty, ls, rfl, h⟩
  constructor
  · intro hgap r hr r' hr' hbefore hscan ht hn
    obtain ⟨j, hj⟩ := List.mem_iff_getElem?.1 (mem_batch.2 ⟨r', hr', rfl, hscan, ht⟩)
    rcases hgap j _ hj r.toOutboxFact (List.mem_map_of_mem hr) hbefore with hsent | ⟨i, -, hi⟩
    · exact absurd hsent hn
    · obtain ⟨r₀, hr₀, hm, hs, ht₀⟩ := mem_batch.1 (List.mem_iff_getElem?.2 ⟨i, hi⟩)
      rw [eq_of_message hr₀ hr hm] at hs ht₀
      unfold scanned at hs
      exact ⟨by simpa using (Bool.and_eq_true_iff.1 hs).1, ht₀⟩
  · intro hnone j f hj g hg hbefore
    by_cases hn : Sent ls g.message.messageId
    · exact .inl hn
    · right
      obtain ⟨r, hr, rfl⟩ := List.mem_map.1 hg
      obtain ⟨r', hr', rfl, hscan, ht⟩ := mem_batch.1 (List.mem_iff_getElem?.2 ⟨j, hj⟩)
      obtain ⟨he, htime⟩ := hnone r hr r' hr' hbefore hscan ht hn
      have hd := not_delivered h hr hn
      -- the earlier event is waiting too, so the scan returns it
      have hmem : r.message ∈ batch s t b :=
        mem_batch.2 ⟨r, hr, rfl, by simp [scanned, he, hd], htime⟩
      obtain ⟨i, hi⟩ := List.mem_iff_getElem?.1 hmem
      refine ⟨i, ?_, hi⟩
      obtain ⟨hil, hi'⟩ := List.getElem?_eq_some_iff.1 hi
      obtain ⟨hjl, hj'⟩ := List.getElem?_eq_some_iff.1 hj
      rcases Nat.lt_trichotomy i j with hlt | rfl | hlt
      · exact hlt
      · rw [hi'] at hj'
        rw [hj'] at hbefore
        exact absurd hbefore.2.2.2 (Nat.lt_irrefl _)
      · have := List.pairwise_iff_getElem.1 (batch_ordered hinv t b) j i hjl hil hlt
        rw [hi', hj'] at this
        exact absurd hbefore this

/-! ## An action after a lost connection -/

open Sample

/-- The operation marks nothing as delivered. -/
def offline : Op → Bool
  | .markOutboxDelivered _ => false
  | _ => true

/-- Nothing goes out in a run without deliveries. -/
theorem not_sent_offline {I : Site} {s s' : Ledger} {ls : List (Call Op Op.Ret)}
    (h : ((issuedCalls I).restrict fun c _ => offline c.1 = true).Run s ls s') (m : MessageId) :
    ¬Sent ls m := by
  induction h with
  | nil => exact nofun
  | @cons s x s' c ls hs _ ih =>
    obtain ⟨o, r⟩ := c
    have hc : delivers m ⟨o, r⟩ = false := by
      cases o
      case markOutboxDelivered m' => exact absurd hs.2 nofun
      all_goals rfl
    unfold Sent at ih ⊢
    rwa [List.any_cons, hc, Bool.false_or]

/-- The offer is handled at second 1, an action at second 20. -/
def worked : List (Prog Op Op.Ret Unit) :=
  [ignore (ExecutorActionGate.new policy), handle (seconds 1) 100 offer,
    handle (seconds 20) 200 execute]

theorem worked_offline : ∃ ls, (issuedCalls site).Run empty ls (serve site worked) ∧
    ∀ m, ¬Sent ls m := by
  have hpool : ((executor site).restrict (PoolLabel.meets fun o _ => offline o = true)).Reachable
      ⟨serve site worked, []⟩ :=
    serve_restricted ⟨offered_gate _ _, .handle _ _, .handle _ _⟩ (by decide)
  obtain ⟨s₀, ls, rfl, hrun⟩ := executor_calls _ hpool
  exact ⟨ls, hrun.of_restrict, not_sent_offline hrun⟩

/-- **Counterexample**: at second 40 the start of the attempt is expired and its later
events are returned. -/
theorem started_missing : ¬∀ (I : Site) (s : Ledger) (ls : List (Call Op Op.Ret)),
    (issuedCalls I).Run empty ls s → ∀ t b, GapFree ls s t b := by
  intro h
  obtain ⟨ls, hrun, hno⟩ := worked_offline
  have hnone := (gapFree_iff site _ ls hrun (seconds 40) false).1 (h site _ ls hrun _ _)
  have hearly : ∃ r ∈ (serve site worked).outbox.rows, ∃ r' ∈ (serve site worked).outbox.rows,
      Before r.message r'.message ∧ scanned false r' = true ∧ seconds 40 < r'.message.deadlineAt ∧
        ¬seconds 40 < r.message.deadlineAt := by
    decide
  obtain ⟨r, hr, r', hr', hbefore, hscan, ht, hlate⟩ := hearly
  exact hlate (hnone r hr r' hr' hbefore hscan ht (hno _)).2

/-- At second 25 everything is still in time, and nothing is missing. -/
theorem worked_gapFree : ∃ ls, (issuedCalls site).Run empty ls (serve site worked) ∧
    GapFree ls (serve site worked) (seconds 25) false := by
  obtain ⟨ls, hrun, -⟩ := worked_offline
  refine ⟨ls, hrun, (gapFree_iff site _ ls hrun (seconds 25) false).2 ?_⟩
  intro r hr r' hr' hbefore hscan ht hn
  have hall : ∀ r ∈ (serve site worked).outbox.rows,
      r.expired = false ∧ seconds 25 < r.message.deadlineAt := by decide
  exact hall r hr

end AutomationTool.Bugs.EventGap
