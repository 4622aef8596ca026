import AutomationTool.ControlPlane.Backing
import AutomationTool.ControlPlane.CommandDelivery

/-!
# When the writes of `advance` succeed

Each of the three writes `advance` makes (the command of an authorized action, the offer
of a task, the end of a task) finds what it joins, so that it can only fail for the
reasons its iff names: `send_iff`, `offer_iff`, `finish_iff`. The ids of the call are new
and its clock is not behind the rows it moves (`Timely`).
-/
namespace AutomationTool.ControlPlane

open Protocol TaskCommandRepository TaskTargetRepository TaskDiscoveryRepository
  TaskEventConvergenceRepository ActionRiskAuthorizationRepository
  ActionExecutionOrchestrationRepository

/-! ## Attempts and their tasks -/

/-- Every attempt is of a task of its installation. -/
def Owned (db : Db) : Prop :=
  ∀ a ∈ db.executionAttempts, ∃ task ∈ db.tasks, task.id = a.taskId ∧
    task.installationId = a.installationId

theorem AttemptStep.task_kept {db db' : Db} (h : AttemptStep db db') {task : Task}
    (hm : task ∈ db.tasks) : ∃ task' ∈ db'.tasks, SameTask task task' := by
  have hreplaced : ∀ {old new}, db.tasks.Replaced db'.tasks old new → SameTask old new →
      ∃ task' ∈ db'.tasks, SameTask task task' := by
    intro old new hr hs
    by_cases heq : task = old
    · subst heq
      exact ⟨new, hr.new_mem, hs⟩
    · exact ⟨task, hr.mem_of_ne hm heq, rfl, rfl⟩
  cases h with
  | unchanged ht => exact ⟨task, ht ▸ hm, rfl, rfl⟩
  | created ht => exact ⟨task, (Relation.mem_insert? ht).2 (.inl hm), rfl, rfl⟩
  | moved ht ha hcur hst => exact hreplaced ht hst
  | assigned ht ha hst => exact hreplaced ht hst
  | kept ht ha hst => exact hreplaced ht hst
  | cleared ht ha hst => exact hreplaced ht hst

theorem owned_inductive : system.Inductive Owned := by
  refine effect_inductive (fun _ h => absurd h (Relation.not_mem_empty _)) ?_
  intro o db db' h he
  have hs := he.attemptStep
  have hkept : ∀ {a a' : ExecutionAttempt}, a ∈ db.executionAttempts → SameAttempt a a' →
      ∃ task ∈ db'.tasks, task.id = a'.taskId ∧ task.installationId = a'.installationId := by
    intro a a' ha hsame
    obtain ⟨task, hm, hid, hi⟩ := h a ha
    obtain ⟨task', hm', hst⟩ := hs.task_kept hm
    refine ⟨task', hm', ?_, ?_⟩
    · rw [hst.id, hid, hsame.taskId]
    · rw [hst.installation, hi, hsame.installation]
  have hrefl : ∀ a : ExecutionAttempt, SameAttempt a a := fun _ => ⟨rfl, rfl, rfl⟩
  intro a ha
  cases hs with
  | unchanged _ hx => exact hkept (hx ▸ ha) (hrefl a)
  | created _ _ _ hx => exact hkept (hx ▸ ha) (hrefl a)
  | kept _ hx => exact hkept (hx ▸ ha) (hrefl a)
  | cleared _ hx => exact hkept (hx ▸ ha) (hrefl a)
  | moved _ hx _ _ hsa =>
    rcases hx.cases ha with rfl | ⟨ha, -⟩
    · exact hkept hx.old_mem hsa
    · exact hkept ha (hrefl a)
  | assigned ht hx hst hc hid hi =>
    rcases (Relation.mem_insert? hx).1 ha with ha | rfl
    · exact hkept ha (hrefl a)
    · exact ⟨_, ht.new_mem, hst.id.trans hid.symm, hst.installation.trans hi.symm⟩

/-- The attempt of a running task is running. -/
theorem Coupled.running {db : Db} (h : Coupled db) {task : Task} {a : ExecutionAttempt}
    (hm : task ∈ db.tasks) (ha : CurrentAttempt db task a) (hs : task.status = .running) :
    a.status = .running := by
  rcases h task hm with ⟨hnone, -⟩ | ⟨x, hx, hf⟩
  · have := ha.current
    rw [hnone] at this
    cases this
  · rw [hs] at hf
    rw [ha.unique hx]
    exact hf.sameName rfl

/-! ## The call -/

/-- The ids of the call are new, and the rows it may move are not from its future. -/
structure Timely (pending : PendingActionExecutionAdvance) (db : Db) : Prop where
  attempts : ∀ a ∈ db.executionAttempts.rows, a.id ≠ pending.executionAttemptId
  actions : ∀ a ∈ db.taskActions.rows, a.id ≠ pending.actionId
  commands : ∀ c ∈ db.taskCommands.rows, c.messageId ≠ pending.messageId ∧
    c.executionAttemptId ≠ pending.executionAttemptId ∧
    c.idempotencyKey ≠ .taskOffer pending.executionAttemptId ∧
    c.idempotencyKey ≠ .action pending.actionId ∧ c.actionId ≠ some pending.actionId
  taskTimes : ∀ t ∈ db.tasks.rows, t.installationId = pending.installationId →
    t.updatedAt ≤ pending.requestedAt
  attemptTimes : ∀ a ∈ db.executionAttempts.rows, a.installationId = pending.installationId →
    a.updatedAt ≤ pending.requestedAt

/-! ## Sending -/

/-- The task of the grant is not running any more, or the grant is five minutes old. -/
def Lapsed (pending : PendingActionExecutionAdvance) (db : Db) (r : ActionRiskAuthorization) :
    Prop :=
  (∃ task ∈ db.tasks.rows, task.id = r.taskId ∧ task.status ≠ .running) ∨
    r.authorizedAt + actionAuthorizationMaxLifetime ≤ pending.requestedAt

/-- No sequence is left for a command of the attempt. -/
def Exhausted (db : Db) (e : ExecutionAttemptId) : Prop := maxTaskEventSequence ≤ lastSequence db e

/-- Another command of the installation has the key. -/
def KeyTaken (db : Db) (i : InstallationId) (k : IdempotencyKey) : Prop :=
  ∃ c ∈ db.taskCommands.rows, c.installationId = i ∧ c.idempotencyKey = k

section Send

variable {pending : PendingActionExecutionAdvance} {db : Db} {r : ActionRiskAuthorization}
  {action : TaskAction} {target : TaskTarget}

theorem grant_eq_some {a : ActionId} {i : InstallationId} :
    (db.actionRiskAuthorizations.find? fun x => x.actionId = a ∧ x.installationId = i) = some r ↔
      r ∈ db.actionRiskAuthorizations ∧ r.actionId = a ∧ r.installationId = i :=
  Relation.find?_key_iff fun _ _ ha hb hab => hab.1 (ha.1.trans hb.1.symm)

theorem attempt_eq_some {e : ExecutionAttemptId} {attempt : ExecutionAttempt} :
    (db.executionAttempts.find? fun x => x.id = e) = some attempt ↔
      attempt ∈ db.executionAttempts ∧ attempt.id = e :=
  Relation.find?_key_iff fun _ _ ha hb hab => hab.1 (ha.trans hb.symm)

/-- What a grant is joined with. -/
theorem BackedBy.authorized? (h : BackedBy db r action target)
    (hr : r ∈ db.actionRiskAuthorizations) : ∃ task attempt c,
    authorized? db r.installationId r.actionId = some (r, task, attempt, c) ∧ task ∈ db.tasks ∧
      task.id = r.taskId ∧ CurrentAttempt db task attempt ∧ attempt.id = r.executionAttemptId := by
  obtain ⟨task, hm, hid, hi, attempt, hcur, he, -⟩ := h.attached
  obtain ⟨c, hc, hct, hci⟩ := h.confirmed
  refine ⟨task, attempt, c, ?_, hm, hid, hcur, he⟩
  have h1 := grant_eq_some.2 ⟨hr, rfl, rfl⟩
  have h2 : db.task? r.taskId r.installationId = some task := Db.task?_eq_some.2 ⟨hm, hid, hi⟩
  have h3 := attempt_eq_some.2 ⟨hcur.mem, he⟩
  have h4 : db.confirmation? r.taskId r.installationId = some c :=
    Db.confirmation?_eq_some.2 ⟨hc, hct, hci⟩
  simp only [ActionExecutionOrchestrationRepository.authorized?, Option.bind_eq_bind, h1, h2, h3,
    h4, Option.bind_some]
  rfl

variable (pending) in
/-- What `_enqueue_authorized_locked` asks of the rows it joined. -/
theorem not_lapsed_iff (hc : Coupled db) {task : Task} {attempt : ExecutionAttempt}
    (hm : task ∈ db.tasks) (hid : task.id = r.taskId) (hcur : CurrentAttempt db task attempt)
    (he : attempt.id = r.executionAttemptId) :
    (task.status = .running ∧ attempt.status = .running ∧
      task.currentAttemptId = some r.executionAttemptId ∧
      pending.requestedAt < actionDeadline pending r) ↔ ¬Lapsed pending db r := by
  constructor
  · rintro ⟨hs, -, -, ht⟩ (⟨task', hm', hid', hs'⟩ | hold)
    · rw [task_unique hm' hm (hid'.trans hid.symm)] at hs'
      exact hs' hs
    · exact absurd (Nat.lt_of_lt_of_le ht (Nat.min_le_right _ _)) (Nat.not_lt.2 hold)
  · intro h
    have hs : task.status = .running := by
      by_contra hne
      exact h (.inl ⟨task, hm, hid, hne⟩)
    refine ⟨hs, hc.running hm hcur hs, by rw [hcur.current, he], ?_⟩
    refine Nat.lt_min.2 ⟨pending.deadline_later, Nat.lt_of_not_le fun hle => h (.inr hle)⟩

/-- A new row passes the checks when its sequence and its deadline do. -/
theorem newCommand_check {m : MessageId} {o : CorrelationId} {i : InstallationId} {t : TaskId}
    {e : ExecutionAttemptId} {n : Nat} {k : TaskCommandType} {x : Option MessageId}
    {a : Option ActionId} {b : Option Nat} {key : IdempotencyKey} {created deadline : Time}
    (h1 : 1 ≤ n) (hn : n ≤ maxTaskEventSequence) (ht : created < deadline)
    (hs : (newCommand m o i t e n k x a b key created deadline).Scoped) :
    Schema.check (newCommand m o i t e n k x a b key created deadline) := by
  refine ⟨h1, hn, Nat.one_pos, ?_, ?_, nofun, hs⟩
  · refine ⟨ht, Nat.le_refl _, ?_, nofun, nofun, nofun⟩
    rintro d hd
    cases hd
    exact ⟨Nat.le_refl _, ht⟩
  · exact ⟨nofun, rfl, rfl, rfl, rfl, rfl⟩

/-- The command of an action that has none is inserted unless it has no sequence or no key. -/
theorem insert_actionCommand_iff (h : BackedBy db r action target)
    (hi : r.installationId = pending.installationId) (hn : ¬commanded db r.actionId)
    (hnew : ∀ c ∈ db.taskCommands.rows, c.messageId ≠ pending.messageId)
    (hlive : pending.requestedAt < actionDeadline pending r) {c : TaskTargetConfirmation} :
    (∃ db', db.insertCommand (actionCommand pending db r c) = some db') ↔
      ¬Exhausted db r.executionAttemptId ∧
        ¬KeyTaken db pending.installationId (.action r.actionId) := by
  constructor
  · rintro ⟨db', hd⟩
    obtain ⟨-, rows, hrows, -⟩ := Db.insertCommand_eq_some hd
    refine ⟨fun hx => ?_, ?_⟩
    · have hle : lastSequence db r.executionAttemptId + 1 ≤ maxTaskEventSequence :=
        (Relation.insert?_check hrows).2.1
      exact absurd (Nat.le_trans hle hx) (Nat.not_succ_le_self _)
    · rintro ⟨x, hx, hxi, hxk⟩
      exact (Relation.insert?_fresh hrows x hx).2.2.1 ⟨hxi, hxk⟩
  · rintro ⟨hroom, hkey⟩
    obtain ⟨task, hm, hid, hti, attempt, hcur, he, -⟩ := h.attached
    have hins : ∃ rows, db.taskCommands.insert? (actionCommand pending db r c) = some rows := by
      refine Relation.insert?_isSome ?_ fun x hx => ?_
      · exact newCommand_check (Nat.succ_le_succ (Nat.zero_le _)) (Nat.lt_of_not_le hroom) hlive
          ⟨fun _ => .inr rfl, ⟨nofun, nofun⟩, rfl⟩
      · refine ⟨hnew x hx, ?_, fun hk => hkey ⟨x, hx, hk.1, hk.2⟩, ?_, ?_⟩
        · rintro ⟨hxe, hseq⟩
          have hle : x.sequence ≤ lastSequence db r.executionAttemptId :=
            Relation.le_maxOf hx (decide_eq_true hxe)
          rw [hseq] at hle
          exact absurd hle (Nat.not_succ_le_self _)
        · rintro ⟨-, hne, heq⟩
          exact hne heq
        · rintro ⟨-, heq⟩
          exact hn ⟨x, hx, heq⟩
    obtain ⟨rows, hrows⟩ := hins
    refine ⟨{ db with taskCommands := rows }, ?_⟩
    have hfk : ∃ e ∈ db.executionAttempts.rows, e.id = r.executionAttemptId ∧
        e.taskId = r.taskId ∧ e.installationId = pending.installationId :=
      ⟨attempt, hcur.mem, he, hcur.taskId.trans hid, hcur.installation.trans (hti.trans hi)⟩
    have hfa : ∃ x ∈ db.taskActions.rows, x.id = r.actionId ∧
        x.executionAttemptId = r.executionAttemptId ∧ x.taskId = r.taskId ∧
        x.installationId = pending.installationId :=
      ⟨action, h.action_mem, h.action_id, h.action_attempt, h.action_task,
        h.action_installation.trans hi⟩
    simp only [Db.insertCommand, hrows]
    simp [actionCommand, newCommand, hfk, hfa]

variable (pending) in
/-- The command of a grant that has none is sent unless the grant lapsed or there is no
room for the command; what lapsed is rejected. -/
theorem send_iff (h : BackedBy db r action target) (hc : Coupled db)
    (hr : r ∈ db.actionRiskAuthorizations) (hi : r.installationId = pending.installationId)
    (hn : ¬commanded db r.actionId)
    (hnew : ∀ c ∈ db.taskCommands.rows, c.messageId ≠ pending.messageId) :
    ((∃ k db', enqueueAuthorizedLocked pending r.actionId db = .ok (k, db')) ↔
      ¬Lapsed pending db r ∧ ¬Exhausted db r.executionAttemptId ∧
        ¬KeyTaken db pending.installationId (.action r.actionId)) ∧
    (Lapsed pending db r → enqueueAuthorizedLocked pending r.actionId db = .error .rejected) := by
  obtain ⟨task, attempt, c, hauth, hm, hid, hcur, he⟩ := h.authorized? hr
  rw [hi] at hauth
  have hiff := not_lapsed_iff pending hc hm hid hcur he
  unfold enqueueAuthorizedLocked
  rw [if_neg hn, hauth]
  dsimp only
  by_cases hl : Lapsed pending db r
  · rw [if_neg fun hg => hiff.1 hg hl]
    exact ⟨⟨nofun, fun hnl => absurd hl hnl.1⟩, fun _ => rfl⟩
  · have hg := hiff.2 hl
    rw [if_pos hg]
    refine ⟨?_, fun hl' => absurd hl' hl⟩
    rw [and_iff_right hl, ← insert_actionCommand_iff h hi hn hnew hg.2.2.2 (c := c)]
    constructor
    · rintro ⟨k, db', hd⟩
      exact ⟨db', (commit_eq_ok hd).2⟩
    · rintro ⟨db', hd⟩
      rw [hd]
      exact ⟨_, _, rfl⟩

end Send

/-! ## Offering -/

section Offer

variable {pending : PendingActionExecutionAdvance} {db : Db} {task : Task}
  {confirmation : TaskTargetConfirmation}

theorem activeAttempt?_eq_none {i : InstallationId} : activeAttempt? db i = none ↔
    ∀ a ∈ db.executionAttempts, a.installationId = i → a.status.isTerminal = true := by
  unfold activeAttempt?
  rw [Relation.find?_eq_none]
  simp

/-- The attempt of an offer is inserted. -/
theorem insert_offeredAttempt (ho : Owned db) (ht : Timely pending db) (hm : task ∈ db.tasks)
    (hi : task.installationId = pending.installationId)
    (hfree : activeAttempt? db pending.installationId = none) : ∃ rows,
      db.executionAttempts.insert? (offeredAttempt pending.executionAttemptId task.id
        pending.installationId (lastAttemptNumber db task.id pending.installationId + 1)
        pending.requestedAt) = some rows := by
  refine Relation.insert?_isSome ?_ fun x hx => ?_
  · refine ⟨Nat.succ_pos _, Nat.one_pos, Nat.le_refl _, nofun, nofun, Nat.le_refl _, ?_⟩
    exact ⟨nofun, fun h => absurd rfl h⟩
  · refine ⟨ht.attempts x hx, ?_, ?_⟩
    · rintro ⟨hxt, hxn⟩
      obtain ⟨task', hm', hid', hi'⟩ := ho x hx
      have heq : task' = task := task_unique hm' hm (hid'.trans hxt)
      subst heq
      have hle : x.attemptNumber ≤ lastAttemptNumber db task'.id pending.installationId :=
        Relation.le_maxOf hx (decide_eq_true ⟨hxt, hi'.symm.trans hi⟩)
      rw [hxn] at hle
      exact absurd hle (Nat.not_succ_le_self _)
    · rintro ⟨hxi, hxl, -⟩
      rw [activeAttempt?_eq_none.1 hfree x hx hxi] at hxl
      cases hxl

/-- A task is offered unless its timeline is full. -/
theorem offer_iff (ho : Owned db) (ht : Timely pending db) (hm : task ∈ db.tasks)
    (hi : task.installationId = pending.installationId)
    (hfree : activeAttempt? db pending.installationId = none) :
    (∃ db', offer pending task confirmation db = some db') ↔
      task.lastEventSequence < maxTaskEventSequence := by
  obtain ⟨attempts, ha⟩ := insert_offeredAttempt ho ht hm hi hfree
  simp only [offer, ha, Option.bind_eq_bind, Option.bind_some, Option.bind_eq_some_iff]
  constructor
  · rintro ⟨db', inserted, hins, -⟩
    obtain ⟨-, rows, hrows, -⟩ := Db.insertCommand_eq_some hins
    obtain ⟨-, -, -, -, -, -, -, -, hb⟩ := Relation.insert?_check hrows
    exact of_decide_eq_true hb
  · intro hlast
    have hins : ∃ rows, db.taskCommands.insert? (offerCommand pending task confirmation) =
        some rows := by
      refine Relation.insert?_isSome ?_ fun x hx => ?_
      · exact newCommand_check (Nat.le_refl 1) (by decide) pending.deadline_later
          ⟨fun _ => .inl rfl, rfl, decide_eq_true hlast⟩
      · obtain ⟨h1, h2, h3, -⟩ := ht.commands x hx
        refine ⟨h1, fun hk => h2 hk.1, fun hk => h3 hk.2, ?_, ?_⟩
        · rintro ⟨-, hne, heq⟩
          exact hne heq
        · rintro ⟨hne, heq⟩
          exact hne heq
    obtain ⟨commands, hrows⟩ := hins
    have hfk : ∃ e ∈ attempts.rows, e.id = pending.executionAttemptId ∧ e.taskId = task.id ∧
        e.installationId = pending.installationId :=
      ⟨_, (Relation.mem_insert? ha).2 (.inr rfl), rfl, rfl, rfl⟩
    obtain ⟨-, hseq, hcreated⟩ := Relation.check_of_mem hm
    have hcheck : task.createdAt ≤ pending.requestedAt :=
      Nat.le_trans hcreated (ht.taskTimes task hm hi)
    have htask : ∃ rows, db.tasks.replace? task
        { task with
          currentAttemptId := some pending.executionAttemptId
          updatedAt := pending.requestedAt } = some rows := by
      refine Relation.replace?_isSome ⟨(Relation.check_of_mem hm).1, hseq, hcheck⟩ ?_
      intro r hr hne
      have hapart : Row.apart r task := Relation.apart_of_ne hr hm hne
      exact hapart
    obtain ⟨tasks, htasks⟩ := htask
    refine ⟨_, { db with executionAttempts := attempts, taskCommands := commands }, ?_, tasks,
      htasks, rfl⟩
    simp only [Db.insertCommand, hrows]
    simp [offerCommand, newCommand, hfk]

end Offer

/-! ## Finishing -/

section Finish

variable {pending : PendingActionExecutionAdvance} {db : Db} {task : Task}
  {attempt : ExecutionAttempt}

/-- An event of the installation has the key. -/
def EventKeyTaken (db : Db) (i : InstallationId) (k : IdempotencyKey) : Prop :=
  ∃ e ∈ db.taskEvents.rows, e.installationId = i ∧ e.sourceIdempotencyKey = k

theorem finalPlan_terminal (outcomes : List ActionOutcome) :
    (finalPlan outcomes).2.1.isTerminal = true := by
  unfold finalPlan
  split
  · rfl
  · split
    · rfl
    · split <;> rfl

theorem finalPlan_allowed (outcomes : List ActionOutcome) :
    TaskStateMachine.canTransition .running (finalPlan outcomes).1 = true := by
  unfold finalPlan
  split
  · rfl
  · split
    · rfl
    · split <;> rfl

/-- A running task whose timeline is not full is finished unless the key is taken. -/
theorem finish_iff (hl : Timeline db) (ht : Timely pending db) (hm : task ∈ db.tasks)
    (hi : task.installationId = pending.installationId) (ha : CurrentAttempt db task attempt)
    (hs : attempt.status = .running) (hroom : task.lastEventSequence < maxTaskEventSequence)
    (outcomes : List ActionOutcome) :
    (∃ db', finish pending task attempt (finalPlan outcomes) db = some db') ↔
      ¬EventKeyTaken db pending.installationId (.taskActionFinalize attempt.id) := by
  simp only [finish, Option.bind_eq_bind, Option.bind_eq_some_iff]
  constructor
  · rintro ⟨db', events, he, -⟩ ⟨x, hx, hxi, hxk⟩
    exact (Relation.insert?_fresh he x hx).2.2 ⟨hxi, hxk⟩
  · intro hfree
    have hevent : ∃ rows, db.taskEvents.insert? (finalEvent pending task attempt
        (finalPlan outcomes)) = some rows := by
      refine Relation.insert?_isSome ?_ fun x hx => ?_
      · exact ⟨Nat.succ_le_succ (Nat.zero_le _), hroom, Nat.succ_pos _, (fun _ h => by cases h),
          fun h => absurd rfl h, Nat.le_refl _⟩
      · refine ⟨?_, ?_, fun hk => hfree ⟨x, hx, hk.1, hk.2⟩⟩
        · rintro ⟨hxt, hxs⟩
          have := ((hl.numbered task hm x.sequence).1 ⟨x, hx, hxt, rfl⟩).2
          rw [hxs] at this
          exact absurd this (Nat.not_succ_le_self _)
        · rintro ⟨-, hne, heq⟩
          exact hne heq
    obtain ⟨events, he⟩ := hevent
    obtain ⟨h1, h2, h3, h4, h5, h6, h7⟩ := Relation.check_of_mem ha.mem
    have hunfinished : attempt.finishedAt = none := by
      by_contra hne
      have := h7.2 hne
      rw [hs] at this
      cases this
    have hnow : attempt.updatedAt ≤ pending.requestedAt :=
      ht.attemptTimes attempt ha.mem (ha.installation.trans hi)
    have hstart : attempt.startedAt.getD attempt.createdAt ≤ pending.requestedAt := by
      rw [hunfinished] at h6
      exact Nat.le_trans h6 hnow
    have hattempt : ∃ rows, db.executionAttempts.replace? attempt
        (finalAttempt pending attempt (finalPlan outcomes).2.1) = some rows := by
      refine Relation.replace?_isSome ?_ fun r hr hne => ?_
      · refine ⟨h1, Nat.succ_pos _, Nat.le_trans h3 hnow, h4, ?_, Nat.le_refl _, ?_⟩
        · rintro t htt
          cases htt
          exact hstart
        · exact ⟨fun _ h => (by cases h), fun _ => finalPlan_terminal outcomes⟩
      · obtain ⟨hid, hnum, -⟩ := Relation.apart_of_ne hr ha.mem hne
        refine ⟨hid, hnum, fun hk => ?_⟩
        have hlive : (finalPlan outcomes).2.1.isTerminal = false := hk.2.2
        rw [finalPlan_terminal] at hlive
        cases hlive
    obtain ⟨-, -, hcreated⟩ := Relation.check_of_mem hm
    have htask : ∃ rows, db.tasks.replace? task
        (finalTask pending task (finalPlan outcomes).1) = some rows := by
      refine Relation.replace?_isSome ?_ fun r hr hne => ?_
      · exact ⟨Nat.succ_pos _, hroom, Nat.le_trans hcreated (ht.taskTimes task hm hi)⟩
      · have hapart : Row.apart r task := Relation.apart_of_ne hr hm hne
        exact hapart
    obtain ⟨attempts, hattempts⟩ := hattempt
    obtain ⟨tasks, htasks⟩ := htask
    exact ⟨_, events, he, attempts, hattempts, tasks, htasks, rfl⟩

end Finish

end AutomationTool.ControlPlane
