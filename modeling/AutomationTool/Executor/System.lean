import AutomationTool.Executor.CrashRecovery

/-!
# The executor

Command handlers, control polls, outbox readers, crash recovery and whatever else
the executor runs, on one ledger: each is a program, all of them interleave call by
call, and a crash ends them at any point while the ledger stays.

* `executor_calls`: what the executor reaches, operations that are `issued` reach, so
  the journal's invariants hold of it.
* `event_sequences`: the events of a started attempt are numbered from its baseline
  to the checkpoint's last event sequence, in outbox order, without gap or repeat.
-/
namespace AutomationTool.Executor

open Protocol Dispatch Ledger

/-- A program whose result nobody waits for. -/
def ignore {α : Type} (p : Prog Op Op.Ret α) : Prog Op Op.Ret Unit := p >>= fun _ => pure ()

/-- What may run on the ledger of an installation. -/
inductive Offered (I : Site) : Prog Op Op.Ret Unit → Prop where
  | handle (w : ExecutorCommandProcessor.Surroundings) (c : Command) :
      Offered I (ignore (ExecutorCommandProcessor.handle I w c))
  | pollControls (projections : Nat → Option Stamp) :
      Offered I (ignore (ExecutorCommandProcessor.pollControls I projections))
  | outbox (now : Option Time) (recoverDelivered : Bool) :
      Offered I (ignore (ExecutorCommandProcessor.outbox now recoverDelivered))
  | markDelivered (m : MessageId) : Offered I (ignore (ExecutorCommandProcessor.markDelivered m))
  | emergencyStopReceived : Offered I (ignore ExecutorCommandProcessor.emergencyStopReceived)
  | crashRecovery (w : ExecutorCrashRecoveryCoordinator.Surroundings) :
      Offered I (ignore (ExecutorCrashRecoveryCoordinator.run I w))
  /-- The action gate, publishing, the latch, the transport: none of them hands the
  ledger an outcome, an acknowledgement or the event of a control. -/
  | other (p : Prog Op Op.Ret Unit)
      (hp : p.uses ExecutorCrashRecoveryCoordinator.Harmless) : Offered I p

/-- The executor, from a new ledger. -/
def executor (I : Site) : LTS (Pool Ledger Op Op.Ret) (PoolLabel Op Op.Ret) :=
  pool (· = empty) (exec I) (Offered I)

open Prog

theorem offered_safe {I : Site} {p : Prog Op Op.Ret Unit} (hp : Offered I p) {s : Ledger}
    (hs : s.journal.Inv) : ExecutorCommandProcessor.Issues I p (fun _ _ => True) s := by
  have hignore : ∀ {α : Type} {q : Prog Op Op.Ret α},
      ExecutorCommandProcessor.Issues I q (fun _ _ => True) s →
        ExecutorCommandProcessor.Issues I (ignore q) (fun _ _ => True) s :=
    fun h => wp_bind (wp_mono h (fun _ _ _ => trivial) fun _ _ => trivial)
  cases hp with
  | handle w c => exact hignore ExecutorCommandProcessor.handle_issues
  | pollControls => exact hignore (ExecutorCommandProcessor.pollControls_issues _)
  | outbox now b =>
    refine hignore (wp_bind (wp_ofOption (fun t _ => ?_) trivial))
    exact wp_op fun _ _ _ => ⟨trivial, trivial⟩
  | markDelivered m =>
    refine hignore (wp_op fun _ _ _ => ⟨trivial, ?_⟩)
    exact wp_ofOption (fun _ _ => trivial) trivial
  | emergencyStopReceived => exact hignore (wp_op fun _ _ _ => ⟨trivial, trivial⟩)
  | crashRecovery w =>
    exact hignore (wp_of_uses (guarantee I) (fun _ s ho _ => ho s)
      (ExecutorCrashRecoveryCoordinator.run_uses I w) (fun _ _ _ => trivial)
      (fun _ _ => trivial) hs)
  | other p hp =>
    exact wp_of_uses (guarantee I) (fun _ s ho _ => ho s) hp (fun _ _ _ => trivial)
      (fun _ _ => trivial) hs

/-- **Every interleaving is a list of issued operations.** `H` is a condition on
the operations of the run. -/
theorem executor_calls {I : Site} (H : Op → Ledger → Prop) {P : Pool Ledger Op Op.Ret}
    (hP : ((executor I).restrict (PoolLabel.meets H)).Reachable P) :
    ((issuedCalls I).restrict fun c s => H c.1 s).Reachable P.state :=
  pool_calls (guarantee I) (fun s (hs : s = empty) => hs ▸ Journal.inv_empty)
    (fun _ hp _ hs => offered_safe hp hs) H hP

theorem executor_issued {I : Site} {P : Pool Ledger Op Op.Ret} (hP : (executor I).Reachable P) :
    (issuedCalls I).Reachable P.state := by
  have hP' := hP.restrict (H := PoolLabel.meets fun (_ : Op) (_ : Ledger) => True) fun l P => by
    cases l <;> exact trivial
  exact (executor_calls _ hP').of_restrict

theorem executor_inv {I : Site} {P : Pool Ledger Op Op.Ret} (hP : (executor I).Reachable P) :
    P.state.journal.Inv := inv_reachable (executor_issued hP)

/-- Operations that cannot be wrong may follow in any order. -/
theorem reachable_harmless {I : Site} {s : Ledger} (hs : (issuedCalls I).Reachable s)
    {os : List Op} (h : os.Forall ExecutorCrashRecoveryCoordinator.Harmless) :
    (issuedCalls I).Reachable (after (exec I) s os) :=
  hs.run (run_replies (· = empty) (allOk_of_forall (List.forall_iff_forall_mem.1 h) s))

/-! ## The numbering of events -/

/-- Outbox order is the order of ordinals. -/
theorem eventsOf_ordinals {J : Journal} (hJ : J.Inv) (e : ExecutionAttemptId) :
    (J.eventsOf e).Pairwise fun f g => f.ordinal < g.ordinal := by
  have hall : J.sent.Pairwise fun f g => f.ordinal < g.ordinal := by
    have := List.pairwise_lt_range' (s := 1) (n := J.sent.length)
    rw [← hJ.ordinals, List.pairwise_map] at this
    exact this
  exact hall.filter _

/-- **The event numbering.** Whatever ran, and however it interleaved or crashed:
outbox ordinals are `1, …, n`, and an attempt whose `task.started` answers a stored
offer with baseline `b` has events `b + 1, …, last_event_sequence`, each once and in
outbox order. -/
theorem event_sequences {I : Site} {P : Pool Ledger Op Op.Ret} (hP : (executor I).Reachable P) :
    P.state.sent.map (·.ordinal) = List.range' 1 P.state.sent.length ∧
    ∀ c b, c ∈ P.state.commands → c.body = .taskOffer b →
      (∃ f ∈ P.state.sent, f.sourceMessageId = c.messageId ∧
        f.message.eventType = some .taskStarted) →
      ∃ p, P.state.checkpoint c.executionAttemptId = some p ∧ b < p.lastEventSequence ∧
        (P.state.journal.eventsOf c.executionAttemptId).map (·.message.sequence) =
          List.range' (b + 1) (p.lastEventSequence - b) ∧
        (P.state.journal.eventsOf c.executionAttemptId).Pairwise fun f g =>
          f.ordinal < g.ordinal := by
  have hinv := executor_inv hP
  refine ⟨hinv.ordinals, fun c b hc hb hstarted => ?_⟩
  obtain ⟨p, hp⟩ := hinv.linked c hc
  obtain ⟨f, hf, hsrc, ht⟩ := (hinv.sent_iff hc).2 hstarted
  refine ⟨p, hp, ?_⟩
  cases (hinv.good hp).phase with
  | received _ hev => rw [hev] at hf; cases hf
  | discovered _ hev => rw [hev] at hf; cases hf
  | started c₀ b₀ hc₀ hb₀ _ hlt hseq honly =>
    -- the offer that started the attempt is `c`
    have hid : c.messageId = c₀.messageId := hsrc.symm.trans (honly f hf ht)
    cases Journal.eq_of_messageId hc (Journal.mem_commandsOf.1 hc₀).1 hid
    rw [hb₀] at hb
    cases hb
    exact ⟨hlt, hseq, eventsOf_ordinals hinv _⟩

/-! ## A run -/

/-- The ledger after the given programs ran one after another. -/
def serve (I : Site) (ps : List (Prog Op Op.Ret Unit)) : Ledger :=
  ps.foldl (fun s p => (p.run (exec I) s).2) empty

/-- Every call of these runs meets `H`. -/
def Serves (I : Site) (H : Op → Ledger → Prop) : List (Prog Op Op.Ret Unit) → Ledger → Prop
  | [], _ => True
  | p :: ps, s => p.meets (exec I) H s ∧ Serves I H ps (p.run (exec I) s).2

instance instDecidableServes (I : Site) (H : Op → Ledger → Prop) [∀ o s, Decidable (H o s)] :
    (ps : List (Prog Op Op.Ret Unit)) → (s : Ledger) → Decidable (Serves I H ps s)
  | [], _ => .isTrue trivial
  | p :: ps, s => @instDecidableAnd _ _ _
      (instDecidableServes I H ps (p.run (exec I) s).2)

theorem serve_restricted {I : Site} {H : Op → Ledger → Prop} {ps : List (Prog Op Op.Ret Unit)}
    (h : ps.Forall (Offered I)) (hH : Serves I H ps empty) :
    ((executor I).restrict (PoolLabel.meets H)).Reachable ⟨serve I ps, []⟩ := by
  unfold serve
  generalize hs : empty = s at hH ⊢
  have h0 : ((executor I).restrict (PoolLabel.meets H)).Reachable ⟨s, []⟩ :=
    .of_init ⟨hs.symm, rfl⟩
  clear hs
  induction ps generalizing s with
  | nil => exact h0
  | cons p ps ih =>
    rw [List.forall_cons] at h
    exact ih h.2 _ hH.2 (pool_run h0 h.1 hH.1)

theorem serves_true (I : Site) (ps : List (Prog Op Op.Ret Unit)) (s : Ledger) :
    Serves I (fun _ _ => True) ps s := by
  induction ps generalizing s with
  | nil => exact trivial
  | cons p ps ih => exact ⟨meets_true _ _ _, ih _⟩

theorem serve_reachable {I : Site} {ps : List (Prog Op Op.Ret Unit)}
    (h : ps.Forall (Offered I)) : (executor I).Reachable ⟨serve I ps, []⟩ :=
  (serve_restricted h (serves_true I ps _)).of_restrict

/-- The gate is constructed before anything runs. -/
theorem offered_gate (I : Site) (policy : LocalActionHardPolicyBinding) :
    Offered I (ignore (ExecutorActionGate.new policy)) :=
  .other _ ⟨fun _ => trivial, fun _ => trivial⟩

/-- So is an operation that cannot be wrong. -/
theorem offered_each {I : Site} {os : List Op}
    (h : os.Forall ExecutorCrashRecoveryCoordinator.Harmless) : Offered I (each os) :=
  .other _ (uses_each (List.forall_iff_forall_mem.1 h))

namespace Sample

def site : Site := ⟨1, 1, fun _ => 0⟩

/-- The `n`-th command of attempt `e`. -/
def command (m : MessageId) (e : ExecutionAttemptId) (n : Nat) (key : IdempotencyKey)
    (body : CommandBody) (hn : 0 < n ∧ n ≤ maxExecutorSequence := by decide)
    (hb : ∀ b, body = .taskOffer b → b < maxExecutorSequence := by simp [maxExecutorSequence])
    (hk : ∀ q, body = .actionExecute q → key = .action q.actionId := by simp) : Command :=
  ⟨m, 0, seconds 600, 1, 1, 1, key, n, 1, e, body, hn.1, hn.2, by decide, hb, hk⟩

def comment (a : ActionId) : DouyinActionCommandPayload where
  actionId := a
  targetId := 3
  action := .comment
  platformTargetId := "target"
  displayName := "name"
  publicHandle := none
  pageRevision := 1
  messageTemplate := some "hello"

def offer : Command := command 11 1 1 (.other "offer") (.taskOffer 5)
def execute : Command := command 12 1 2 (.action (comment 7).actionId) (.actionExecute (comment 7))

/-- What `execute` is admitted, prepared and dispatched as. -/
def expected : ActionAuthorizationExpectation := expectation execute (comment 7) rfl

def fingerprint : Digest := SideEffectActionExecution.effectFingerprint expected "hello"

/-- The action is received, admitted and prepared at time `t`. -/
def prepareOps (t : Time) : List Op :=
  [.receiveCommand execute, .admitAction (expected.claims t) (.authorization 7) t 1 100,
    .prepareSideEffect 7 fingerprint t]

def pause : Command := command 13 1 3 (.other "pause") .taskPause

def policy : LocalActionHardPolicyBinding :=
  ⟨1, 100, Nat.one_pos, Nat.le_add_left _ _, Nat.le_add_left _ _, Nat.le_add_left _ _⟩

/-- At time `t`, a browser that sends what it is asked to and sees it confirmed. -/
def browser (t : Time) : ActionSurroundings where
  authorizedAt := some t
  admittedAt := some t
  recoveredAt := some t
  browser := true
  browse := some ⟨.completed, .profileVisible, by decide⟩
  entry := true
  allowsMessage _ := true
  againAuthorizedAt := some t
  againAdmittedAt := some t
  preparedAt := some t
  skill := ⟨true, 1, some .replayed⟩
  dispatchedAt _ := some t
  verifiedAt := some t
  uncertainAt := some t

/-- Message ids are taken from `m` on. -/
def surroundings (t : Time) (m : MessageId) : ExecutorCommandProcessor.Surroundings where
  now := some t
  stoppedAt := some t
  discovery := none
  action := some (⟨policy⟩, browser t)
  stamps i := some ⟨t, m + i⟩
  projections i := some ⟨t, m + 50 + i⟩

def handle (t : Time) (m : MessageId) (c : Command) : Prog Op Op.Ret Unit :=
  ignore (ExecutorCommandProcessor.handle site (surroundings t m) c)

/-- Offered, and started. -/
def started : Ledger :=
  serve site [ignore (ExecutorActionGate.new policy), handle (seconds 1) 100 offer]

theorem started_reachable : (executor site).Reachable ⟨started, []⟩ :=
  serve_reachable ⟨offered_gate _ _, .handle _ _⟩

/-- Offered, one action performed, paused. -/
def paused : Ledger := serve site [ignore (ExecutorActionGate.new policy),
  handle (seconds 1) 100 offer, handle (seconds 2) 200 execute, handle (seconds 3) 300 pause]

theorem paused_reachable : (executor site).Reachable ⟨paused, []⟩ :=
  serve_reachable ⟨offered_gate _ _, .handle _ _, .handle _ _, .handle _ _⟩

end Sample

theorem event_sequences_paused : Sample.paused.sent.map (·.ordinal) = [1, 2, 3, 4, 5, 6, 7] ∧
    (Sample.paused.journal.eventsOf 1).map (·.message.sequence) = [6, 7, 8, 9] := by
  obtain ⟨hord, hseq⟩ := event_sequences Sample.paused_reachable
  refine ⟨hord, ?_⟩
  have hoffer : Sample.offer ∈ Sample.paused.commands.rows := by decide
  obtain ⟨p, hp, -, hmap, -⟩ := hseq Sample.offer 5 hoffer rfl (by decide)
  have hlast : p.lastEventSequence = 9 := by
    have : Sample.paused.checkpoint 1 = some p := hp
    have h9 : (Sample.paused.checkpoint 1).map (·.lastEventSequence) = some 9 := by decide
    rw [this] at h9
    exact Option.some.inj h9
  rw [hlast] at hmap
  exact hmap

end AutomationTool.Executor
