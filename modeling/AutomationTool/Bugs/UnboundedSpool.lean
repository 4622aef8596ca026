import AutomationTool.Executor.Ledger.Spool

/-!
# Delivered messages come back over the bound of the spool

Behaviour (ledger.py:2421-2505): a row that was
delivered leaves the pending spool, which makes room for the next append. A
reconnect delivers with `recover_delivered=True` and puts every delivered row that
is still in time back (`SET delivered = 0`); `requeue_delivered_outbox` does so for
every unexpired one. Neither asks `_require_pending_outbox_capacity`
(ledger.py:3155-3171), which only the appends call.

Evidence: README H8-07, the spool of undelivered events is fixed at no more than
1000 entries and 16 MiB.

Counterexample: 1001 messages are sent one after the other, each delivered before
the next is written; then the connection drops and all 1001 are pending again.

`spool_fits_iff`: a run keeps the bound in all its states exactly when, at each
requeue and each recovering delivery, the rows it finds fit.
-/
namespace AutomationTool.Bugs.UnboundedSpool

open Executor Protocol Ledger

/-- The rows that come back fit: at a requeue every row that is not expired, at a
recovering delivery those of them that are in time. -/
def RoomFor (I : Site) (o : Op) (s : Ledger) : Prop :=
  match o with
  | .requeueDeliveredOutbox => FitsSpool I s.unexpired
  | .outboxForDelivery t true => FitsSpool I (s.inTime t)
  | _ => True

theorem fits_outboxStep {I : Site} {s : Ledger} {o : Op} {O : Table OutboxRow}
    (h : OutboxStep I s o O) (hs : FitsSpool I s.spool) (ho : RoomFor I o s) :
    FitsSpool I (messagesOf O OutboxRow.pending) := by
  cases h with
  | same => exact hs
  | append hcap hO =>
    rw [pending_append hO]
    exact hasCapacity_iff.1 hcap
  | requeue =>
    have hsp := s.spool_requeueDeliveredOutbox
    unfold spool at hsp
    rw [hsp]
    exact ho
  | @deliver t b =>
    have hsp := s.spool_outboxForDelivery t b
    unfold spool at hsp
    rw [hsp]
    cases b with
    | false =>
      refine hs.sublist (messagesOf_sublist fun r hr => ?_)
      rw [← scanned_false]
      exact (Bool.and_eq_true_iff.1 hr).1
    | true =>
      simp only [scanned_true]
      exact ho
  | mark h => exact hs.sublist (spool_markOutboxDelivered h)

theorem fits_exec_iff {I : Site} {s : Ledger} (hs : FitsSpool I s.spool) (o : Op) :
    FitsSpool I (exec I o s).2.spool ↔ RoomFor I o s := by
  constructor
  · intro h
    cases o
    case requeueDeliveredOutbox =>
      dsimp only [exec] at h
      rwa [spool_requeueDeliveredOutbox] at h
    case outboxForDelivery t b =>
      cases b with
      | false => trivial
      | true =>
        dsimp only [exec] at h
        simp only [spool_outboxForDelivery, scanned_true] at h
        exact h
    all_goals trivial
  · intro ho
    exact fits_outboxStep (outboxStep_exec I o s) hs ho

/-- From a ledger whose spool fits, by induction on the run. -/
theorem fits_after_iff {I : Site} {s : Ledger} (hs : FitsSpool I s.spool) (os : List Op) :
    (∀ k, FitsSpool I (after (exec I) s (os.take k)).spool) ↔ AllOk (exec I) (RoomFor I) s os := by
  induction os generalizing s with
  | nil =>
    refine ⟨fun _ => trivial, fun _ k => ?_⟩
    rw [List.take_nil]
    exact hs
  | cons o os ih =>
    constructor
    · intro h
      have h1 : FitsSpool I (exec I o s).2.spool := h 1
      exact ⟨(fits_exec_iff hs o).1 h1, (ih h1).1 fun k => h (k + 1)⟩
    · intro h k
      have h1 := (fits_exec_iff hs o).2 h.1
      cases k with
      | zero => exact hs
      | succ k => exact (ih h1).2 h.2 k

/-- **The spool is bounded as long as what comes back fits.** Whatever operations are
called, in whatever order: every state of the run keeps the bound if and only if at
each requeue and each recovering delivery the rows that come back fit. -/
theorem spool_fits_iff (I : Site) (os : List Op) :
    (∀ k, FitsSpool I (after (exec I) empty (os.take k)).spool) ↔
      AllOk (exec I) (RoomFor I) empty os :=
  fits_after_iff ⟨Nat.zero_le _, Nat.zero_le _⟩ os

/-! ## A thousand and one messages -/

/-- Every envelope takes a kibibyte. -/
def site : Site := ⟨1, 1, fun _ => 1024⟩

def offer : Command where
  messageId := 1
  sentAt := 0
  deadlineAt := seconds 300
  installationId := 1
  executorId := 1
  correlationId := 1
  idempotencyKey := .other "offer"
  sequence := 1
  sequence_pos := Nat.one_pos
  taskId := 1
  executionAttemptId := 1
  body := .taskOffer 0

/-- An answer to the offer, with an id and a key of its own. -/
def reply (i : MessageId) : Outbound where
  messageId := i
  sentAt := 0
  deadlineAt := seconds 30
  installationId := 1
  executorId := 1
  correlationId := 1
  idempotencyKey := .result i
  sequence := 1
  sequence_pos := Nat.one_pos
  taskId := 1
  executionAttemptId := 1
  body := .commandResult .taskControlAck .acknowledged

/-- Replies `0, …, n - 1` were sent and delivered. -/
structure Delivered (n : Nat) (s : Ledger) : Prop where
  command : s.command 1 = some offer
  length : s.outbox.rows.length = n
  rows : ∀ r ∈ s.outbox.rows, r.delivered = true ∧ r.expired = false ∧
    ∃ i, i < n ∧ r.message = reply i

theorem spool_of_delivered {n : Nat} {s : Ledger} (h : Delivered n s) : s.spool = [] := by
  unfold spool messagesOf
  rw [List.filter_eq_nil_iff.2, List.map_nil]
  intro r hr hp
  obtain ⟨hd, -, -⟩ := h.rows r hr
  simp [OutboxRow.pending, hd] at hp

theorem inTime_length {n : Nat} {s : Ledger} (h : Delivered n s) : (s.inTime 0).length = n := by
  have hall : s.outbox.rows.filter (fun r => !r.expired && decide (0 < r.message.deadlineAt)) =
      s.outbox.rows := by
    refine List.filter_eq_self.2 fun r hr => ?_
    obtain ⟨-, he, i, -, hi⟩ := h.rows r hr
    rw [he, hi]
    rfl
  unfold inTime messagesOf
  rw [hall, List.length_map, h.length]

theorem lt_nextOrdinal {sent : List OutboxFact} {f : OutboxFact} (hf : f ∈ sent) :
    f.ordinal < nextOrdinal sent := by
  have hmem : f.ordinal ∈ sent.map (·.ordinal) := List.mem_map_of_mem hf
  unfold nextOrdinal
  cases hm : (sent.map (·.ordinal)).max? with
  | none =>
    rw [List.max?_eq_none_iff.1 hm] at hmem
    cases hmem
  | some k =>
    have := (List.max?_eq_some_iff.1 hm).2 _ hmem
    show f.ordinal < k + 1
    omega

/-- The next reply is written: the spool is empty and the id is new. -/
theorem enqueue_next {n : Nat} {s : Ledger} (h : Delivered n s) :
    ∃ O, s.enqueueOutbox site 1 (reply n) = some (⟨reply n, 1, false⟩, { s with outbox := O }) ∧
      O.rows = s.outbox.rows ++ [⟨⟨nextOrdinal s.sent, reply n, 1⟩, false, false⟩] := by
  have hfresh : s.sent.filter (fun r => r.message.messageId = (reply n).messageId ∨
      r.message.idempotencyKey = (reply n).idempotencyKey) = [] := by
    refine List.filter_eq_nil_iff.2 fun f hf => ?_
    obtain ⟨r, hr, rfl⟩ := List.mem_map.1 hf
    obtain ⟨-, -, i, hi, hm⟩ := h.rows r hr
    have hne : ¬i = n := by omega
    simp [hm, reply, hne]
  have hcap : s.hasCapacity site [reply n] = true := by
    rw [hasCapacity_iff, spool_of_delivered h]
    exact ⟨show 1 ≤ 1000 by omega, show 1024 + 0 ≤ 16 * 1024 * 1024 by omega⟩
  have hins : (s.append? 1 [reply n]).isSome := by
    unfold append?
    rw [newRows, newRows, Table.insertAll?]
    have hsome := Table.insert?_isSome (t := s.outbox)
      (x := ⟨⟨nextOrdinal s.sent, reply n, 1⟩, false, false⟩) fun r hr => by
        obtain ⟨-, -, i, hi, hm⟩ := h.rows r hr
        have hlt := lt_nextOrdinal (List.mem_map_of_mem (f := OutboxRow.toOutboxFact) hr)
        refine ⟨Nat.ne_of_lt hlt, ?_, ?_⟩
        · show r.message.messageId ≠ n
          rw [hm]
          exact Nat.ne_of_lt hi
        · show r.message.idempotencyKey ≠ .result n
          rw [hm]
          exact fun he => Nat.ne_of_lt hi (IdempotencyKey.result.inj he)
    obtain ⟨O, hO⟩ := Option.isSome_iff_exists.1 hsome
    rw [hO]
    rfl
  obtain ⟨O, hO⟩ := Option.isSome_iff_exists.1 hins
  refine ⟨O, ?_, Table.insertAll?_rows hO⟩
  refine require_eq_some.2 ⟨⟨rfl, rfl⟩, ?_⟩
  rw [hfresh]
  refine Option.bind_eq_some_iff.2 ⟨offer, h.command, ?_⟩
  exact require_eq_some.2 ⟨⟨⟨rfl, rfl, rfl⟩, hcap⟩, Option.bind_eq_some_iff.2 ⟨O, hO, rfl⟩⟩

/-- One more reply is written and delivered. -/
theorem delivered_next {n : Nat} {s : Ledger} (h : Delivered n s) :
    Delivered (n + 1)
      (after (exec site) s [.enqueueOutbox 1 (reply n), .markOutboxDelivered n]) := by
  obtain ⟨O, hO, hrows⟩ := enqueue_next h
  have hnew : ⟨⟨nextOrdinal s.sent, reply n, 1⟩, false, false⟩ ∈ O.rows := by
    rw [hrows]
    exact List.mem_append_right _ List.mem_cons_self
  have hfind : (O.find? fun r => r.message.messageId = n) =
      some ⟨⟨nextOrdinal s.sent, reply n, 1⟩, false, false⟩ := by
    refine (Table.find?_eq_some_iff fun a b ha hb hab => ?_).2 ⟨hnew, decide_eq_true rfl⟩
    exact hab.2.1 ((of_decide_eq_true ha).trans (of_decide_eq_true hb).symm)
  have hstate : after (exec site) s [.enqueueOutbox 1 (reply n), .markOutboxDelivered n] =
      { s with
        outbox := O.updateWhere (fun r => r.message.messageId = n && !r.delivered) _
          (keepsKeys_setFlags (fun _ => true) (·.expired)) } := by
    simp [after, exec, hO, markOutboxDelivered, hfind]
  rw [hstate]
  refine ⟨h.command, ?_, fun r hr => ?_⟩
  · show (O.rows.map _).length = n + 1
    rw [List.length_map, hrows, List.length_append, h.length, List.length_singleton]
  · obtain ⟨r₀, hr₀, rfl⟩ := List.mem_map.1 hr
    rw [hrows] at hr₀
    rcases List.mem_append.1 hr₀ with hold | hnew
    · obtain ⟨hd, he, i, hi, hm⟩ := h.rows r₀ hold
      rw [if_neg (by simp [hd])]
      exact ⟨hd, he, i, Nat.lt_succ_of_lt hi, hm⟩
    · rw [List.mem_singleton.1 hnew]
      rw [if_pos (by simp [reply])]
      exact ⟨rfl, rfl, n, Nat.lt_succ_self n, rfl⟩

/-- Some run sends and delivers `n` replies. -/
theorem exists_delivered (n : Nat) : ∃ os, Delivered n (after (exec site) empty os) := by
  induction n with
  | zero =>
    have hrows : (after (exec site) empty [.receiveCommand offer]).outbox.rows = [] := rfl
    refine ⟨[.receiveCommand offer], rfl, congrArg List.length hrows, ?_⟩
    rw [hrows]
    exact fun _ hr => nomatch hr
  | succ n ih =>
    obtain ⟨os, h⟩ := ih
    refine ⟨os ++ [.enqueueOutbox 1 (reply n), .markOutboxDelivered n], ?_⟩
    rw [after_append]
    exact delivered_next h

/-- **Counterexample**: after a reconnect 1001 messages are pending. -/
theorem spool_overflows : ¬∀ (I : Site) (os : List Op), FitsSpool I (after (exec I) empty os).spool := by
  intro h
  obtain ⟨os, hd⟩ := exists_delivered 1001
  have hbad := (h site (os ++ [.outboxForDelivery 0 true])).1
  rw [after_append] at hbad
  have hsp : (after (exec site) (after (exec site) empty os) [.outboxForDelivery 0 true]).spool =
      (after (exec site) empty os).inTime 0 := by
    simp only [after, exec, spool_outboxForDelivery, scanned_true]
    rfl
  rw [hsp, inTime_length hd] at hbad
  exact absurd hbad (by decide)

end AutomationTool.Bugs.UnboundedSpool
