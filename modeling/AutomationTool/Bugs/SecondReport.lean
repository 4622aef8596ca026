import AutomationTool.Executor.System

/-!
# An action is reported by two writers

Behaviour (crash_recovery.py:85-106 and
command_processor.py:187-245): the command processor commits the result of an
action under the action's command, after asking whether that command was answered; crash
recovery commits it under a recovery key, after asking whether that key was used. Neither
asks what the other asks. A settled effect of a running attempt is still listed.

Evidence: README H8-05, "a stable idempotency key guarantees that repeated crashes do not
report twice"; the claim of both writers is one result for one action.

Counterexample: an action is completed and answered, its attempt keeps running, the
executor crashes. Recovery lists the verified effect and reports the action again.

`reported_once`: in every run in which each writer only speaks when it would have found
nothing had it asked the other's question, no action is reported twice.
-/
namespace AutomationTool.Bugs.SecondReport

open Executor Protocol Dispatch Ledger ExecutorCrashRecoveryCoordinator Journal Prog

/-- The message settles the action. -/
def reports (a : ActionId) (m : Outbound) : Bool :=
  m.eventType.any isResult && m.eventPayload.any (fun v => v.actionId = some a)

/-- The command processor would find the command of the action answered. -/
def Answered (s : Ledger) (a : ActionId) : Prop :=
  ∃ c ∈ s.commands.rows, c.idempotencyKey = .action a ∧ s.outboxForCommand c.messageId ≠ []

/-- Crash recovery would find an event of the action whose command has this key. -/
def Recovered (s : Ledger) : IdempotencyKey → Prop
  | .action a => recoveryEvent s a ≠ none
  | _ => False

/-- Each writer finds nothing when it asks what the other one asks, or repeats itself. -/
def Checked (o : Op) (s : Ledger) : Prop :=
  match o with
  | .commitSideEffectRecovery a _ _ => ¬Answered s a ∨ recoveryEvent s a ≠ none
  | .commitOutcome m _ _ _ _ => s.outboxForCommand m ≠ [] ∨
      ∀ c ∈ s.commands.rows, c.messageId = m → ¬Recovered s c.idempotencyKey
  | _ => True

instance (s : Ledger) (k : IdempotencyKey) : Decidable (Recovered s k) := by
  unfold Recovered
  split <;> infer_instance

instance (o : Op) (s : Ledger) : Decidable (Checked o s) := by
  unfold Checked Answered
  split <;> infer_instance

/-! ## What one emission reports -/

theorem countP_newFacts (q : Outbound → Bool) (src : MessageId) (n : Nat) (ms : List Outbound) :
    (newFacts src n ms).countP (fun f => q f.message) = ms.countP q := by
  induction ms generalizing n with
  | nil => rfl
  | cons m ms ih => rw [newFacts_cons, List.countP_cons, List.countP_cons, ih]

theorem reports_of_not_event {a : ActionId} {m : Outbound} (h : m.isTaskEvent = false) :
    reports a m = false := by
  unfold Outbound.isTaskEvent at h
  rw [Option.isSome_eq_false_iff, Option.isNone_iff_eq_none] at h
  simp [reports, h]

theorem reports_of_body {a : ActionId} {m : Outbound} {t : TaskEventType} {v : EventPayload}
    (h : m.body = .taskEvent t v) :
    reports a m = true ↔ isResult t = true ∧ v.actionId = some a := by
  simp [reports, Outbound.eventType_of_body h, Outbound.eventPayload_of_body h]

/-- What makes an emission report the action. -/
inductive Reporter (sent : List OutboxFact) (c : Command) (a : ActionId) : Label → Prop where
  | outcome (hkey : c.idempotencyKey = .action a)
      (hfresh : ∀ f ∈ sent, f.sourceMessageId ≠ c.messageId) : Reporter sent c a (.outcome c)
  | recover (hfresh : ∀ f ∈ sent, f.message.idempotencyKey ≠ .recovery a) :
      Reporter sent c a (.recover a)

/-- An emission reports an action once or not at all. -/
theorem emits_reports {sent : List OutboxFact} {c : Command} {p p' : AttemptCheckpoint}
    {l : Label} {ms : List Outbound} (h : Emits sent c p l p' ms) (a : ActionId) :
    ms.countP (reports a) = 0 ∨ (ms.countP (reports a) = 1 ∧ Reporter sent c a l) := by
  cases h with
  | @acknowledge m hm =>
    have hno : reports a m = false :=
      reports_of_not_event (by simp [Outbound.isTaskEvent, Outbound.eventType_of_isControlAck hm])
    exact .inl (by simp [hno])
  | outcome h hfresh =>
    cases h with
    | @started b r e hc hst hl hr he =>
      have hno : ¬reports a e = true := fun h => nomatch ((reports_of_body he.body).1 h).1
      left
      simp [reports_of_not_event hr, hno]
    | @acted q t v r e₁ e₂ hc hst hr h₁ ht hv h₂ =>
      have hno : ¬reports a e₁ = true := fun h => nomatch ((reports_of_body h₁.body).1 h).1
      have hone : reports a e₂ = true ↔ q.actionId = a := by
        rw [reports_of_body h₂.body, hv, Option.some.injEq]
        exact ⟨fun h => h.2, fun h => ⟨ht, h⟩⟩
      by_cases ha : q.actionId = a
      · right
        refine ⟨?_, .outcome ?_ hfresh⟩
        · simp [reports_of_not_event hr, hno, hone.2 ha]
        · rw [c.key_action q hc, ha]
      · left
        have hno' : ¬reports a e₂ = true := fun h => ha (hone.1 h)
        simp [reports_of_not_event hr, hno, hno']
    | discovered hc hst hl hms =>
      left
      rw [List.countP_eq_zero]
      intro m hm h
      rw [reports_of_not_event (hms m hm)] at h
      cases h
  | @control st t m hseq hst ht hm =>
    have hno : ¬reports a m = true := fun h => nomatch ((reports_of_body hm.body).1 h).2
    exact .inl (by simp [hno])
  | @recover b t v m hc hseq hst hm ht hmseq hkey hv hfresh =>
    by_cases ha : b = a
    · subst ha
      have hyes : reports b m = true := by
        refine (reports_of_body hm).2 ⟨?_, hv⟩
        rcases ht with rfl | rfl <;> rfl
      exact .inr ⟨by simp [hyes], .recover hfresh⟩
    · have hno : ¬reports a m = true := by
        intro h
        have := ((reports_of_body hm).1 h).2
        rw [hv] at this
        exact ha (Option.some.inj this)
      exact .inl (by simp [hno])

/-! ## The invariant -/

/-- A report of the action stands under its recovery key or answers its command. -/
def Attributed (J : Journal) (a : ActionId) : Prop :=
  ∀ f ∈ J.sent, reports a f.message = true → f.message.idempotencyKey = .recovery a ∨
    ∃ c ∈ J.commands, c.idempotencyKey = .action a ∧ c.messageId = f.sourceMessageId

/-- An emission that reports the action carries its recovery key or answers its command. -/
theorem emits_attributed {sent : List OutboxFact} {c : Command} {p p' : AttemptCheckpoint}
    {l : Label} {ms : List Outbound} {m : Outbound} {a : ActionId} (h : Emits sent c p l p' ms)
    (hrep : reports a m = true) (hm : m ∈ ms) :
    m.idempotencyKey = .recovery a ∨ c.idempotencyKey = .action a := by
  have hpos : 0 < ms.countP (reports a) := List.countP_pos_iff.2 ⟨m, hm, hrep⟩
  rcases emits_reports h a with hnone | ⟨-, hreporter⟩
  · rw [hnone] at hpos
    cases hpos
  · cases hreporter with
    | outcome hkey hfresh => exact .inr hkey
    | recover hfresh =>
      cases h with
      | recover hc hseq hst hb ht hmseq hkey =>
        rw [List.mem_singleton.1 hm]
        exact .inl hkey

/-- `Checked`, for a step of the journal. -/
def Allowed (J : Journal) (a : ActionId) : Label → Prop
  | .recover b => b = a → ∀ c ∈ J.commands, c.idempotencyKey = .action a →
      ∀ f ∈ J.sent, f.sourceMessageId ≠ c.messageId
  | .outcome c => c.idempotencyKey = .action a → ∀ f ∈ J.sent, f.message.idempotencyKey ≠ .recovery a
  | _ => True

structure Once (J : Journal) (a : ActionId) : Prop where
  attributed : Attributed J a
  once : J.sent.countP (fun f => reports a f.message) ≤ 1

/-- A writer that is allowed to report the action finds no report of it. -/
theorem Reporter.first {J : Journal} {c : Command} {a : ActionId} {l : Label}
    (h : Reporter J.sent c a l) (hc : c ∈ J.commands) (hl : Allowed J a l)
    (hJ : Attributed J a) : J.sent.countP (fun f => reports a f.message) = 0 := by
  rw [List.countP_eq_zero]
  intro f hf hrep
  rcases hJ f hf hrep with hkey | ⟨d, hd, hdkey, hsrc⟩
  · cases h with
    | outcome hkey' hfresh => exact hl hkey' f hf hkey
    | recover hfresh => exact hfresh f hf hkey
  · cases h with
    | outcome hkey' hfresh =>
      -- one command carries the key of the action
      have : d = c := Table.eq_of_not_apart hd hc fun hap => hap.2.1 (hdkey.trans hkey'.symm)
      subst this
      exact hfresh f hf hsrc.symm
    | recover hfresh => exact hl rfl d hd hdkey f hf hsrc.symm

theorem Once.step {J J' : Journal} {a : ActionId} {l : Label} (hJ : Once J a) (h : Step J l J')
    (hl : Allowed J a l) : Once J' a := by
  cases h with
  | first hnone hseq hopens hP hC =>
    refine ⟨fun f hf hrep => ?_, hJ.once⟩
    refine (hJ.attributed f hf hrep).imp_right fun ⟨d, hd, h⟩ => ⟨d, ?_, h⟩
    exact (Table.mem_insert? hC).2 (.inl hd)
  | next hp htask hseq hadmits hC =>
    refine ⟨fun f hf hrep => ?_, hJ.once⟩
    refine (hJ.attributed f hf hrep).imp_right fun ⟨d, hd, h⟩ => ⟨d, ?_, h⟩
    exact (Table.mem_insert? hC).2 (.inl hd)
  | @emits c p p' l ms hc hp hms h =>
    have hnew := countP_newFacts (reports a) c.messageId (nextOrdinal J.sent) ms
    constructor
    · intro f hf hrep
      rcases List.mem_append.1 hf with hold | hfresh
      · exact hJ.attributed f hold hrep
      · obtain ⟨hsrc, hmem⟩ := mem_newFacts hfresh
        exact (emits_attributed h hrep hmem).imp_right fun hkey => ⟨c, hc, hkey, hsrc.symm⟩
    · dsimp only
      rw [List.countP_append, hnew]
      rcases emits_reports h a with hnone | ⟨hone, hreporter⟩
      · rw [hnone]
        exact hJ.once
      · rw [hone, hreporter.first hc hl hJ.attributed]

/-! ## Every run -/

theorem outboxForCommand_eq_nil {s : Ledger} {m : MessageId} :
    s.outboxForCommand m = [] ↔ ∀ f ∈ s.sent, f.sourceMessageId ≠ m := by
  unfold outboxForCommand
  rw [List.map_eq_nil_iff, List.filter_eq_nil_iff]
  simp only [decide_eq_true_eq, ne_eq]

theorem recoveryEvent_eq_none {s : Ledger} {a : ActionId} :
    recoveryEvent s a = none ↔ ∀ f ∈ s.sent, f.message.idempotencyKey ≠ .recovery a := by
  unfold recoveryEvent
  rw [Option.map_eq_none_iff, List.find?_eq_none]
  simp only [decide_eq_true_eq, ne_eq]

theorem stands_outcome {o : Op} {c : Command} (h : o.Stands (.outcome c)) :
    ∃ n st l ms, o = .commitOutcome c.messageId n st l ms := by
  cases o with
  | commitOutcome m n st l ms =>
    obtain ⟨d, rfl, hd⟩ := h
    cases hd
    exact ⟨n, st, l, ms, rfl⟩
  | _ => simp [Op.Stands] at h

theorem stands_recover {o : Op} {a : ActionId} (h : o.Stands (.recover a)) :
    ∃ n v, o = .commitSideEffectRecovery a n v := by
  cases o with
  | commitSideEffectRecovery b n v =>
    cases h
    exact ⟨n, v, rfl⟩
  | _ => simp [Op.Stands] at h

theorem Checked.allowed {s : Ledger} {o : Op} {l : Label} {J : Journal} (h : Checked o s)
    (ho : o.Stands l) (hstep : Step s.journal l J) (a : ActionId) : Allowed s.journal a l := by
  cases hstep with
  | first => exact trivial
  | next => exact trivial
  | @emits c p p' _ ms hc hp hms he =>
    cases he with
    | acknowledge => exact trivial
    | control => exact trivial
    | outcome hout hfresh =>
      obtain ⟨n, st, k, ms, rfl⟩ := stands_outcome ho
      intro hkey
      rcases h with h | h
      · exact absurd (outboxForCommand_eq_nil.2 hfresh) h
      · have hno := h c hc rfl
        rw [hkey] at hno
        exact recoveryEvent_eq_none.1 (Classical.not_not.1 hno)
    | @recover b t v m hb hseq hst hm ht hmseq hkey hv hfresh =>
      obtain ⟨n, e, rfl⟩ := stands_recover ho
      rcases h with h | h
      · rintro rfl d hd hdkey
        have hno : s.outboxForCommand d.messageId = [] :=
          Classical.byContradiction fun hne => h ⟨d, hd, hdkey, hne⟩
        exact outboxForCommand_eq_nil.1 hno
      · exact absurd (recoveryEvent_eq_none.2 hfresh) h

theorem once_empty (a : ActionId) : Once Ledger.empty.journal a := by
  refine ⟨fun f hf _ => ?_, Nat.zero_le 1⟩
  cases hf

/-- **An action is reported once.** In every run of the executor, however it interleaves
and crashes, whose writers speak only when they would have found nothing, the outbox never
has two results of one action. -/
theorem reported_once {I : Site} {P : Pool Ledger Op Op.Ret}
    (hP : ((executor I).restrict (PoolLabel.meets Checked)).Reachable P) (a : ActionId) :
    P.state.sent.countP (fun f => reports a f.message) ≤ 1 := by
  have hcalls := executor_calls Checked hP
  have hind := ((inv_inductive I).restrict fun c s => Checked c.1 s).and
    (Q := fun s => Once s.journal a) (fun s hs => hs ▸ once_empty a) ?_
  · exact (hind.reachable hcalls).2.once
  · rintro s ⟨o, r⟩ s' hinv honce ⟨⟨ho, hexec⟩, hchecked⟩
    have hs' : (exec I o s).2 = s' := congrArg Prod.snd hexec
    rcases exec_journal I hinv ho with hsame | ⟨l, hstands, hstep⟩
    · rw [← hs', hsame]
      exact honce
    · rw [← hs']
      exact honce.step hstep (Checked.allowed hchecked hstands hstep a)

/-! ## A verified effect -/

section Verified

open Sample

/-- A recovery at time `t`, whose event has message id `m`. -/
def recovery (t : Time) (m : MessageId) : Prog Op Op.Ret Unit :=
  ignore (ExecutorCrashRecoveryCoordinator.run site
    ⟨fun _ => .withoutPage (some t), fun _ => some ⟨t, m⟩⟩)

/-- An offer and an action, handled. -/
def performed : List (Prog Op Op.Ret Unit) := [ignore (ExecutorActionGate.new policy),
  handle (seconds 1) 100 offer, handle (seconds 2) 200 execute]

/-- Then a crash, and recovery. -/
def recovered : List (Prog Op Op.Ret Unit) := performed ++ [recovery (seconds 3) 400]

theorem performed_once :
    (serve site performed).sent.countP (fun f => reports 7 f.message) ≤ 1 := by
  have hoffered : performed.Forall (Offered site) := ⟨offered_gate _ _, .handle _ _, .handle _ _⟩
  exact reported_once (serve_restricted hoffered (by decide)) 7

/-- **Counterexample**: the outbox has two results of action 7. -/
theorem reported_twice : ¬∀ (I : Site) (P : Pool Ledger Op Op.Ret) (a : ActionId),
    (executor I).Reachable P → P.state.sent.countP (fun f => reports a f.message) ≤ 1 := by
  intro h
  have := h site ⟨serve site recovered, []⟩ 7
    (serve_reachable ⟨offered_gate _ _, .handle _ _, .handle _ _, .crashRecovery _⟩)
  exact absurd this (by decide)

end Verified

end AutomationTool.Bugs.SecondReport
