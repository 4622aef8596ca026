import AutomationTool.ControlPlane.Authorizations
import AutomationTool.ControlPlane.CommandDelivery

/-!
# A control command overtakes an offer that was never delivered

Behaviour (task_command_repository.py:578-743):
`claim_next` takes the due command with the earliest deadline, whatever its sequence in
its attempt. A cancellation lives 60 seconds, an offer up to five minutes, and an offer is
not claimed at all once its task is cancelling; so the cancellation of a task whose offer
was not delivered goes out alone, with sequence 2.

Evidence: the executor takes a command only at the attempt's last sequence + 1, and the
first command of an attempt only at sequence 1 (ledger.py:1380-1420);
backend-architecture.md, E4-11, the sequence of an attempt's commands is continuous.

Counterexample: the task is offered at second 6 and cancelled at second 7; a claim at
second 8 returns the cancellation.

`claims_in_order`: a claim overtakes nothing in a run in which commands are added in the
order of their sequence, each when those before it in its attempt have been delivered.
-/
namespace AutomationTool.Bugs.OvertakenCommand

open ControlPlane Protocol TaskCommandRepository

/-- The rows an operation adds to the outbox. -/
def added (o : Op) (db : Db) : List TaskCommand :=
  (exec o db).2.taskCommands.rows.filter fun c =>
    ∀ c₀ ∈ db.taskCommands.rows, c₀.messageId ≠ c.messageId

/-- What the operation adds comes behind all commands of the same attempt, which are
`past`. -/
def AddsLast (past : TaskCommand → Prop) (o : Op) (db : Db) : Prop :=
  ∀ c ∈ added o db, ∀ c' ∈ db.taskCommands.rows, c'.executionAttemptId = c.executionAttemptId →
    c'.sequence < c.sequence ∧ past c'

instance (past : TaskCommand → Prop) [DecidablePred past] (o : Op) (db : Db) :
    Decidable (AddsLast past o db) := by
  unfold AddsLast; infer_instance

/-- The command an operation delivers. -/
def delivers (o : Op) (db : Db) : List MessageId :=
  match o with
  | .markDelivered m r t => if (markDelivered m r t db).isSome then [m] else []
  | _ => []

/-- The commands a list of operations delivers. -/
def deliveredBy : Db → List Op → List MessageId
  | _, [] => []
  | db, o :: os => delivers o db ++ deliveredBy (exec o db).2 os

/-- Every command is added last in its attempt, when all others of the attempt have been
delivered; `sent` are those delivered before. -/
def Orderly : Db → List MessageId → List Op → Prop
  | _, _, [] => True
  | db, sent, o :: os => AddsLast (fun c => c.messageId ∈ sent) o db ∧
      Orderly (exec o db).2 (sent ++ delivers o db) os

/-- The command is answered, or expired after it was delivered. -/
def Settled (c : TaskCommand) : Prop :=
  c.status = .acknowledged ∨ c.status = .rejected ∨ c.status = .expired ∧ c.deliveredAt ≠ none

/-- Every command is added last in its attempt, when all others of the attempt are
settled. -/
def Calm : Db → List Op → Prop
  | _, [] => True
  | db, o :: os => AddsLast Settled o db ∧ Calm (exec o db).2 os

instance decOrderly (db : Db) (sent : List MessageId) (os : List Op) :
    Decidable (Orderly db sent os) :=
  match os with
  | [] => .isTrue trivial
  | o :: os => @instDecidableAnd _ _ inferInstance (decOrderly (exec o db).2 _ os)

/-- What a claim returns has only `past` commands of its attempt before it. -/
def InOrder (past : TaskCommand → Prop) (db : Db) : Prop :=
  ∀ request locked c context, (exec (.claimNext request locked) db).1 = some (some (c, context)) →
    ∀ c' ∈ db.taskCommands, c'.executionAttemptId = c.executionAttemptId →
      c'.sequence < c.sequence → past c'

/-! ## Claims in order -/

/-- Commands that have a later one of their attempt behind them are `past`. -/
def Ranked (past : TaskCommand → Prop) (db : Db) : Prop :=
  ∀ c ∈ db.taskCommands, ∀ c' ∈ db.taskCommands, c'.executionAttemptId = c.executionAttemptId →
    c'.sequence < c.sequence → past c'

theorem ranked_empty (past : TaskCommand → Prop) : Ranked past Db.empty :=
  fun _ hc => absurd hc (Relation.not_mem_empty _)

theorem Ranked.inOrder {past : TaskCommand → Prop} {db : Db} (h : Ranked past db) :
    InOrder past db := by
  intro request locked c context hr c' hc' he hs
  cases hx : claimNext request locked db with
  | none => simp [exec, hx] at hr
  | some x =>
    obtain ⟨r, db'⟩ := x
    have hr' : r = some (c, context) := by simpa [exec, hx] using hr
    rcases claimNext_eq_some hx with ⟨rfl, -⟩ | ⟨current, context', rows, hl, -, rfl, -⟩
    · cases hr'
    · cases hr'
      exact h current (Relation.least?_eq_some hl).1 c' hc' he hs

/-- One operation. -/
theorem Ranked.step {past past' : TaskCommand → Prop} {o : Op} {db : Db} (h : Ranked past db)
    (hadd : AddsLast past o db)
    (hkeep : ∀ c c', past c → (c' = c ∨ CommandMove c c') → past' c') :
    Ranked past' (exec o db).2 := by
  have horigin : ∀ c ∈ (exec o db).2.taskCommands,
      (∃ c₀ ∈ db.taskCommands, (c = c₀ ∨ CommandMove c₀ c) ∧
        c₀.executionAttemptId = c.executionAttemptId ∧ c₀.sequence = c.sequence) ∨
      c ∈ added o db ∧ db.taskCommands.insert? c = some (exec o db).2.taskCommands := by
    intro c hc
    rcases (exec_effect o db).command_origin hc with ⟨c₀, hc₀, rfl | ⟨-, hm⟩⟩ | ⟨-, hi⟩
    · exact .inl ⟨c, hc₀, .inl rfl, rfl, rfl⟩
    · exact .inl ⟨c₀, hc₀, .inr hm, hm.executionAttemptId.symm, hm.sequence.symm⟩
    · refine .inr ⟨List.mem_filter.2 ⟨hc, decide_eq_true fun c₀ hc₀ => ?_⟩, hi⟩
      exact (Relation.insert?_fresh hi c₀ hc₀).1
  intro c hc c' hc' he hs
  rcases horigin c' hc' with ⟨c₀', hc₀', hm', he', hs'⟩ | ⟨hadd', hi'⟩
  · refine hkeep c₀' c' ?_ hm'
    rcases horigin c hc with ⟨c₀, hc₀, -, he₀, hs₀⟩ | ⟨hnew, -⟩
    · exact h c₀ hc₀ c₀' hc₀' (he'.trans (he.trans he₀.symm)) (by omega)
    · exact (hadd c hnew c₀' hc₀' (he'.trans he)).2
  · -- a new command has nothing of its attempt behind it
    exfalso
    rcases horigin c hc with ⟨c₀, hc₀, -, he₀, hs₀⟩ | ⟨-, hi⟩
    · have := (hadd c' hadd' c₀ hc₀ (he₀.trans he.symm)).1
      omega
    · have heq := (Relation.insert?_rows hi).symm.trans (Relation.insert?_rows hi')
      cases (List.append_inj' heq rfl).2
      omega

theorem Ranked.orderly {db : Db} {sent : List MessageId} {os : List Op}
    (h : Ranked (fun c => c.messageId ∈ sent) db) (ho : Orderly db sent os) :
    Ranked (fun c => c.messageId ∈ sent ++ deliveredBy db os) (after exec db os) := by
  induction os generalizing db sent with
  | nil => simpa [deliveredBy, after] using h
  | cons o os ih =>
    rw [deliveredBy, ← List.append_assoc]
    refine ih (h.step ho.1 fun c c' hc hm => List.mem_append_left _ ?_) ho.2
    rcases hm with rfl | hm
    · exact hc
    · rw [hm.messageId]
      exact hc

theorem Settled.kept {c c' : TaskCommand} (h : Settled c) (hm : c' = c ∨ CommandMove c c') :
    Settled c' := by
  rcases hm with rfl | hm
  · exact h
  · have hlive := hm.live
    rcases h with hs | hs | ⟨hs, -⟩ <;> rw [hs] at hlive <;> cases hlive

theorem Ranked.calm {db : Db} {os : List Op} (h : Ranked Settled db) (ho : Calm db os) :
    Ranked Settled (after exec db os) := by
  induction os generalizing db with
  | nil => exact h
  | cons o os ih => exact ih (h.step ho.1 fun _ _ => Settled.kept) ho.2

/-- In a run in which every command is added with the last sequence of its attempt, at a
time when all others of the attempt have been delivered, a claim never returns a command
before one of a smaller sequence that was not delivered. Where they are even settled by
then, those of smaller sequence are so whenever a command is claimed. -/
theorem claims_in_order (os : List Op) :
    (Orderly Db.empty [] os →
      InOrder (fun c => c.messageId ∈ deliveredBy Db.empty os) (after exec Db.empty os)) ∧
    (Calm Db.empty os → InOrder Settled (after exec Db.empty os)) :=
  ⟨fun ho => ((ranked_empty _).orderly ho).inOrder, fun ho => ((ranked_empty _).calm ho).inOrder⟩

/-! ## The overtaking cancellation -/

open Walkthrough

/-- The offer is delivered before the task is paused. -/
def paused : List Op := started ++
  [.claimNext (claim (seconds 8)) fun _ => false,
    .markDelivered 5 2 (seconds 8),
    .enqueueControl
      { messageId := 8
        correlationId := 8
        installationId := 1
        taskId := 1
        controlType := .pause
        idempotencyKey := .other "pause"
        createdAt := seconds 9
        deadlineAt := seconds 69
        deadline_later := (by decide : seconds 69 > seconds 9) }]

/-- The pause waits behind a delivered offer. -/
theorem paused_in_order :
    (after exec Db.empty paused).taskCommands.rows.map (fun c => (c.sequence, c.status)) =
      [(1, .acknowledged), (1, .delivered), (2, .pending)] ∧
    InOrder (fun c => c.messageId ∈ deliveredBy Db.empty paused) (after exec Db.empty paused) :=
  ⟨by decide, (claims_in_order paused).1 (by decide)⟩

/-- The user cancels the offered task, which the control service gives 60 seconds. -/
def cancelled : List Op := offered ++
  [.enqueueControl
    { messageId := 8
      correlationId := 8
      installationId := 1
      taskId := 1
      controlType := .cancel
      idempotencyKey := .other "cancel"
      createdAt := seconds 7
      deadlineAt := seconds 67 }]

/-- **Counterexample**: the claim at second 8 returns the cancellation, sequence 2, while
the offer, sequence 1, is pending and was never delivered. -/
theorem cancel_overtakes_offer :
    ¬∀ os, InOrder (fun c => c.messageId ∈ deliveredBy Db.empty os) (after exec Db.empty os) := by
  intro h
  have hclaim : ∃ c context, (exec (.claimNext (claim (seconds 8)) fun _ => false)
      (after exec Db.empty cancelled)).1 = some (some (c, context)) ∧
      c.executionAttemptId = 2 ∧ c.sequence = 2 := ⟨_, _, rfl, rfl, rfl⟩
  have hoffer : ∃ c' ∈ (after exec Db.empty cancelled).taskCommands.rows,
      c'.executionAttemptId = 2 ∧ c'.sequence = 1 ∧ c'.status = .pending ∧
        c'.messageId ∉ deliveredBy Db.empty cancelled := by decide
  obtain ⟨c, context, hc, he, hs⟩ := hclaim
  obtain ⟨c', hc', he', hs', -, hn⟩ := hoffer
  exact hn (h cancelled _ _ c context hc c' hc' (he'.trans he.symm) (by omega))

end AutomationTool.Bugs.OvertakenCommand
