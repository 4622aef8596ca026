import AutomationTool.ControlPlane.Advancing

/-!
# A leftover authorization stops its installation

`advance` authorizes in one transaction and sends the command in the next, and `_prepare`
first looks for an authorization that was left without its command
(`action_execution_orchestration_repository.py:172-201`).
Sending it needs a running task and an authorization less than five minutes old, and
raises `ActionExecutionOrchestrationRejected` otherwise (`:633-645`). Nothing takes a
leftover that lapsed out of the way: it stays the first one found, and every later call
for the installation raises.

* `advance_returns_iff`: when a call returns a kind, in any reachable state. `Stuck` lists
  what stops it; a lapsed leftover (`Stuck.leftover`) is the one that needs neither a full
  counter nor a key in use.
* `leftover_rejects`: a lapsed leftover rejects the call.
* `cancelled_leftover`: a crash before the send, then a cancel: every later call raises.
-/
namespace AutomationTool.Bugs.LeftoverAuthorization

open Protocol ControlPlane TaskCommandRepository TaskEventConvergenceRepository
  ActionRiskAuthorizationRepository ActionExecutionOrchestrationRepository

/-! ## What stops a call -/

/-- An installation that may act, and a call that may be made for it. -/
structure Admissible (pending : PendingActionExecutionAdvance) (db : Db) : Prop where
  active : db.active pending.installationId
  ungated : ¬db.gated pending.installationId
  healthy : db.healthy pending.installationId
  timely : Timely pending db

/-- The running attempt has every action it was confirmed for, all over. -/
structure Finishing (pending : PendingActionExecutionAdvance) (db : Db)
    (attempt : ExecutionAttempt) (task : Task) (confirmation : TaskTargetConfirmation) : Prop where
  task_eq : db.task? attempt.taskId pending.installationId = some task
  status : task.status = .running
  current : task.currentAttemptId = some attempt.id
  settled : ∀ a ∈ actionsOf db attempt.id, a.status.isTerminal = true
  defined : ∃ d, db.definition? task.id pending.installationId = some d
  confirmation_eq : db.confirmation? task.id pending.installationId = some confirmation
  next_eq : nextTarget? db task.id pending.installationId confirmation.pageRevision = none
  complete : ((actionsOf db attempt.id).filter fun a =>
    a.taskId = task.id ∧ a.installationId = pending.installationId).length =
      confirmation.selectedTargetCount

/-- What makes the first transaction of a call fail. -/
inductive Halted (pending : PendingActionExecutionAdvance) (skipped : TaskId → Bool) (db : Db) :
    Prop where
  | leftover {r : ActionRiskAuthorization}
      (hu : uncommanded? db pending.installationId = some r) (hl : Lapsed pending db r)
  | unsendable {r : ActionRiskAuthorization}
      (hu : uncommanded? db pending.installationId = some r)
      (hr : Exhausted db r.executionAttemptId ∨
        KeyTaken db pending.installationId (.action r.actionId))
  | unofferable {task : Task} (hu : uncommanded? db pending.installationId = none)
      (ha : activeAttempt? db pending.installationId = none)
      (ht : db.tasks.least? (offerable db pending.installationId skipped) taskOrder = some task)
      (hs : maxTaskEventSequence ≤ task.lastEventSequence)
  | unfinishable {attempt : ExecutionAttempt} {task : Task} {confirmation : TaskTargetConfirmation}
      (hu : uncommanded? db pending.installationId = none)
      (ha : activeAttempt? db pending.installationId = some attempt)
      (hr : attempt.status = .running) (hf : Finishing pending db attempt task confirmation)
      (hs : maxTaskEventSequence ≤ task.lastEventSequence ∨
        EventKeyTaken db pending.installationId (.taskActionFinalize attempt.id))

/-- What makes a call fail: its first transaction, or no sequence left for the command of
what it authorizes. -/
inductive Stuck (pending : PendingActionExecutionAdvance) (skipped : TaskId → Bool) (db : Db) :
    Prop where
  | halted (h : Halted pending skipped db)
  | unsent {n : NextAuthorization} {task : Task} {attempt : ExecutionAttempt}
      {definition : Definition} {confirmation : TaskTargetConfirmation} {target : TaskTarget}
      (hu : uncommanded? db pending.installationId = none)
      (hd : Decided pending db n task attempt definition confirmation target)
      (hg : ∃ a db', authorize (authorizationRequest pending n) db = .ok (a, db'))
      (hs : Exhausted db n.attemptId)

/-! ## The first transaction -/

/-- What is known of every reachable state. -/
structure Sound (db : Db) : Prop where
  backed : Backed db
  once : GrantedOnce db
  coupled : Coupled db
  owned : Owned db
  timeline : Timeline db

theorem sound_of_reachable {db : Db} (h : system.Reachable db) : Sound db where
  backed := (backed_inductive.reachable h).1
  once := (backed_inductive.reachable h).2
  coupled := coupled_inductive.reachable h
  owned := owned_inductive.reachable h
  timeline := timeline_inductive.reachable h

section First

variable {pending : PendingActionExecutionAdvance} {skipped : TaskId → Bool} {db : Db}

theorem uncommanded?_eq_some {r : ActionRiskAuthorization} {i : InstallationId}
    (h : uncommanded? db i = some r) : r ∈ db.actionRiskAuthorizations ∧ r.installationId = i ∧
      ¬commanded db r.actionId := by
  obtain ⟨hm, hp, -⟩ := Relation.least?_eq_some h
  obtain ⟨hi, -, hn⟩ := of_decide_eq_true hp
  exact ⟨hm, hi, hn⟩

/-- A leftover is sent, or stops the call. -/
theorem send_leftover (hs : Sound db) (ht : Timely pending db) {r : ActionRiskAuthorization}
    (hu : uncommanded? db pending.installationId = some r) :
    ((∃ k db', enqueueAuthorizedLocked pending r.actionId db = .ok (k, db')) ↔
      ¬Lapsed pending db r ∧ ¬Exhausted db r.executionAttemptId ∧
        ¬KeyTaken db pending.installationId (.action r.actionId)) ∧
    (Lapsed pending db r → enqueueAuthorizedLocked pending r.actionId db = .error .rejected) := by
  obtain ⟨hm, hi, hn⟩ := uncommanded?_eq_some hu
  obtain ⟨action, target, hb⟩ := hs.backed r hm
  exact send_iff pending hb hs.coupled hm hi hn fun c hc => (ht.commands c hc).1

theorem commit_isOk {α : Type} {a : α} {x : Option Db} :
    (∃ y, commit a x = .ok y) ↔ ∃ db', x = some db' := by
  cases x with
  | none => exact ⟨nofun, nofun⟩
  | some db' => exact ⟨fun _ => ⟨db', rfl⟩, fun _ => ⟨_, rfl⟩⟩

theorem offerNext_returns_iff (hs : Sound db) (ht : Timely pending db)
    (hfree : activeAttempt? db pending.installationId = none) :
    (∃ x, offerNextConfirmedLocked pending skipped db = .ok x) ↔
      ∀ task, db.tasks.least? (offerable db pending.installationId skipped) taskOrder = some task →
        task.lastEventSequence < maxTaskEventSequence := by
  unfold offerNextConfirmedLocked
  cases hl : db.tasks.least? (offerable db pending.installationId skipped) taskOrder with
  | none => exact ⟨fun _ => nofun, fun _ => ⟨_, rfl⟩⟩
  | some task =>
    obtain ⟨hm, hp, -⟩ := Relation.least?_eq_some hl
    obtain ⟨hi, -, -, -, c, hc, -⟩ := of_decide_eq_true hp
    have hc' : db.confirmation? task.id pending.installationId = some c := hc
    simp only [hc', commit_isOk, offer_iff hs.owned ht hm hi hfree, Option.some.injEq,
      forall_eq']

/-- A running task with no target left is finished, or waits, or cannot be written. -/
theorem finalize_returns_iff (hs : Sound db) (ht : Timely pending db)
    {attempt : ExecutionAttempt} {task : Task} {d : Definition} {c : TaskTargetConfirmation}
    (ha : activeAttempt? db pending.installationId = some attempt)
    (hr : attempt.status = .running)
    (htask : db.task? attempt.taskId pending.installationId = some task)
    (hg : task.status = .running ∧ task.currentAttemptId = some attempt.id ∧
      ∀ a ∈ actionsOf db attempt.id, a.status.isTerminal = true)
    (hd : db.definition? task.id pending.installationId = some d)
    (hc : db.confirmation? task.id pending.installationId = some c)
    (hn : nextTarget? db task.id pending.installationId c.pageRevision = none) :
    (∃ x, finalizeCompletedTaskLocked pending task attempt c.selectedTargetCount db = .ok x) ↔
      ¬(Finishing pending db attempt task c ∧ (maxTaskEventSequence ≤ task.lastEventSequence ∨
        EventKeyTaken db pending.installationId (.taskActionFinalize attempt.id))) := by
  obtain ⟨ham, hai, -⟩ := activeAttempt?_eq_some.1 ha
  obtain ⟨hm, hid, hi⟩ := Db.task?_eq_some.1 htask
  have hcur : CurrentAttempt db task attempt := ⟨ham, hg.2.1, hid.symm, hai.trans hi.symm⟩
  have hcount : c.selectedTargetCount ≠ 0 := by
    have := (Relation.check_of_mem (Db.confirmation?_eq_some.1 hc).1).2.2.2.2.1
    exact Nat.one_le_iff_ne_zero.1 this
  unfold finalizeCompletedTaskLocked
  dsimp only
  rw [if_neg hcount]
  by_cases hlen : ((actionsOf db attempt.id).filter fun a =>
      a.taskId = task.id ∧ a.installationId = pending.installationId).length =
        c.selectedTargetCount
  · have hf : Finishing pending db attempt task c :=
      ⟨htask, hg.1, hg.2.1, hg.2.2, ⟨d, hd⟩, hc, hn, hlen⟩
    rw [if_neg, and_iff_right hf]
    · by_cases hroom : task.lastEventSequence < maxTaskEventSequence
      · rw [if_pos ⟨finalPlan_allowed _, hroom⟩, commit_isOk,
          finish_iff hs.timeline ht hm hi hcur hr hroom]
        exact not_congr ⟨.inr, fun h => h.resolve_left (Nat.not_le.2 hroom)⟩
      · rw [if_neg fun h => hroom h.2]
        exact ⟨nofun, fun h => absurd (.inl (Nat.le_of_not_lt hroom)) h⟩
    · rintro (hne | ⟨a, ham, hlive⟩)
      · exact hne hlen
      · rw [hg.2.2 a (List.mem_of_mem_filter ham)] at hlive
        cases hlive
  · rw [if_pos (.inl hlen)]
    exact ⟨fun _ h => hlen h.1.complete, fun _ => ⟨_, rfl⟩⟩

theorem prepareRunning_returns_iff (hs : Sound db) (ht : Timely pending db)
    {attempt : ExecutionAttempt}
    (ha : activeAttempt? db pending.installationId = some attempt)
    (hr : attempt.status = .running) :
    (∃ x, prepareRunning pending attempt db = .ok x) ↔
      ¬∃ task confirmation, Finishing pending db attempt task confirmation ∧
        (maxTaskEventSequence ≤ task.lastEventSequence ∨
          EventKeyTaken db pending.installationId (.taskActionFinalize attempt.id)) := by
  unfold prepareRunning
  cases htask : db.task? attempt.taskId pending.installationId with
  | none =>
    refine ⟨?_, fun _ => ⟨_, rfl⟩⟩
    rintro - ⟨task, confirmation, hf, -⟩
    rw [hf.task_eq] at htask
    cases htask
  | some task =>
    -- any other candidate for a finish is this task
    have hsame : ∀ {task' c}, Finishing pending db attempt task' c → task' = task := by
      intro task' c hf
      rw [hf.task_eq] at htask
      exact Option.some.inj htask
    dsimp only
    by_cases hg : task.status = .running ∧ task.currentAttemptId = some attempt.id ∧
        ∀ a ∈ actionsOf db attempt.id, a.status.isTerminal = true
    · rw [if_pos hg]
      cases hd : db.definition? task.id pending.installationId with
      | none =>
        refine ⟨?_, fun _ => ⟨_, rfl⟩⟩
        rintro - ⟨task', c, hf, -⟩
        obtain ⟨d, hd'⟩ := hf.defined
        rw [hsame hf, hd] at hd'
        cases hd'
      | some d =>
        cases hc : db.confirmation? task.id pending.installationId with
        | none =>
          refine ⟨?_, fun _ => ⟨_, rfl⟩⟩
          rintro - ⟨task', c, hf, -⟩
          have := hf.confirmation_eq
          rw [hsame hf, hc] at this
          cases this
        | some c =>
          dsimp only
          cases hn : nextTarget? db task.id pending.installationId c.pageRevision with
          | some r =>
            refine ⟨?_, fun _ => ⟨_, rfl⟩⟩
            rintro - ⟨task', c', hf, -⟩
            have h1 := hf.confirmation_eq
            have h2 := hf.next_eq
            rw [hsame hf, hc] at h1
            cases h1
            rw [hsame hf, hn] at h2
            cases h2
          | none =>
            rw [finalize_returns_iff hs ht ha hr htask hg hd hc hn]
            constructor
            · rintro h ⟨task', c', hf, hx⟩
              obtain rfl := hsame hf
              have h1 := hf.confirmation_eq
              rw [hc] at h1
              cases h1
              exact h ⟨hf, hx⟩
            · rintro h ⟨hf, hx⟩
              exact h ⟨task, c, hf, hx⟩
    · rw [if_neg hg]
      refine ⟨?_, fun _ => ⟨_, rfl⟩⟩
      rintro - ⟨task', c, hf, -⟩
      have heq := hsame hf
      subst heq
      exact hg ⟨hf.status, hf.current, hf.settled⟩

variable (skipped) in
/-- When the first transaction goes through. -/
theorem prepare_returns_iff (hs : Sound db) (ha : Admissible pending db) :
    (∃ x, prepare pending skipped db = .ok x) ↔ ¬Halted pending skipped db := by
  unfold prepare
  rw [if_pos ⟨ha.active, ha.ungated, ha.healthy⟩]
  cases hu : uncommanded? db pending.installationId with
  | some r =>
    have hsend := (send_leftover hs ha.timely hu).1
    dsimp only
    constructor
    · rintro ⟨x, hx⟩ hhalt
      have hok : ∃ k db', enqueueAuthorizedLocked pending r.actionId db = .ok (k, db') := by
        split at hx
        · rename_i k db' hk
          exact ⟨k, db', hk⟩
        · cases hx
      obtain ⟨hl, he, hk⟩ := hsend.1 hok
      cases hhalt with
      | leftover hu' hl' =>
        rw [hu] at hu'
        cases hu'
        exact hl hl'
      | unsendable hu' hr =>
        rw [hu] at hu'
        cases hu'
        exact hr.elim he hk
      | unofferable hu' =>
        rw [hu] at hu'
        cases hu'
      | unfinishable hu' =>
        rw [hu] at hu'
        cases hu'
    · intro hn
      obtain ⟨k, db', hk⟩ := hsend.2 ⟨fun hl => hn (.leftover hu hl),
        fun he => hn (.unsendable hu (.inl he)), fun hk => hn (.unsendable hu (.inr hk))⟩
      rw [hk]
      exact ⟨_, rfl⟩
  | none =>
    dsimp only
    cases hact : activeAttempt? db pending.installationId with
    | none =>
      dsimp only
      rw [offerNext_returns_iff hs ha.timely hact]
      constructor
      · intro h hhalt
        cases hhalt with
        | leftover hu' | unsendable hu' =>
          rw [hu] at hu'
          cases hu'
        | unofferable _ _ ht hfull => exact absurd (h _ ht) (Nat.not_lt.2 hfull)
        | unfinishable _ ha' =>
          rw [hact] at ha'
          cases ha'
      · intro hn task ht
        exact Nat.lt_of_not_le fun hfull => hn (.unofferable hu hact ht hfull)
    | some attempt =>
      dsimp only
      by_cases hr : attempt.status = .running
      · rw [if_pos hr, prepareRunning_returns_iff hs ha.timely hact hr]
        constructor
        · intro h hhalt
          cases hhalt with
          | leftover hu' | unsendable hu' =>
            rw [hu] at hu'
            cases hu'
          | unofferable _ ha' =>
            rw [hact] at ha'
            cases ha'
          | unfinishable _ ha' hr' hf hfull =>
            rw [hact] at ha'
            cases ha'
            exact h ⟨_, _, hf, hfull⟩
        · rintro hn ⟨task, c, hf, hfull⟩
          exact hn (.unfinishable hu hact hr hf hfull)
      · rw [if_neg hr]
        refine ⟨fun _ hhalt => ?_, fun _ => ⟨_, rfl⟩⟩
        cases hhalt with
        | leftover hu' | unsendable hu' =>
          rw [hu] at hu'
          cases hu'
        | unofferable _ ha' =>
          rw [hact] at ha'
          cases ha'
        | unfinishable _ ha' hr' =>
          rw [hact] at ha'
          cases ha'
          exact hr hr'

/-- A decision to authorize is made only where no leftover is found. -/
theorem uncommanded?_of_next {n : NextAuthorization} {db' : Db} (ha : Admissible pending db)
    (h : prepare pending skipped db = .ok (.next n, db')) :
    uncommanded? db pending.installationId = none := by
  unfold prepare at h
  rw [if_pos ⟨ha.active, ha.ungated, ha.healthy⟩] at h
  cases hu : uncommanded? db pending.installationId with
  | none => rfl
  | some r =>
    rw [hu] at h
    dsimp only at h
    split at h <;> cases h

variable (skipped) in
/-- What a decision was made on makes it again, whatever rows are skipped. -/
theorem prepare_of_decided (hs : Sound db) (ha : Admissible pending db) {n : NextAuthorization}
    {task : Task} {attempt : ExecutionAttempt} {definition : Definition}
    {confirmation : TaskTargetConfirmation} {target : TaskTarget}
    (hu : uncommanded? db pending.installationId = none)
    (hd : Decided pending db n task attempt definition confirmation target) :
    prepare pending skipped db = .ok (.next n, db) := by
  obtain ⟨ham, hai, -⟩ := activeAttempt?_eq_some.1 hd.attempt_eq
  obtain ⟨hm, hid, hi⟩ := Db.task?_eq_some.1 hd.task_eq
  have hrun : attempt.status = .running :=
    hs.coupled.running hm ⟨ham, hd.current, hid.symm, hai.trans hi.symm⟩ hd.status
  have hover : ∀ a ∈ actionsOf db attempt.id, a.status.isTerminal = true := by
    intro a hmem
    obtain ⟨hma, hea⟩ := mem_actionsOf.1 hmem
    exact hd.settled a hma hea
  unfold prepare
  rw [if_pos ⟨ha.active, ha.ungated, ha.healthy⟩, hu, hd.attempt_eq]
  dsimp only
  rw [if_pos hrun]
  unfold prepareRunning
  rw [hd.task_eq]
  dsimp only
  rw [if_pos ⟨hd.status, hd.current, hover⟩, hd.definition_eq, hd.confirmation_eq]
  dsimp only
  rw [hd.target_eq, hd.next_eq]

end First

/-! ## The whole call -/

section Run

variable {pending : PendingActionExecutionAdvance} {skipped skipped' : TaskId → Bool} {db : Db}

/-- The call, running alone, returns a kind. -/
def Returns (pending : PendingActionExecutionAdvance) (skipped skipped' : TaskId → Bool)
    (db : Db) : Prop :=
  ∃ kind, ((advance pending skipped skipped').run exec db).1 = some (.ok kind)

/-- The command of a new grant is sent unless it has no sequence. -/
theorem send_granted (hs : Sound db) (ha : Admissible pending db) {n : NextAuthorization}
    {r : ActionRiskAuthorization} {db' : Db}
    (hg : authorize (authorizationRequest pending n) db = .ok (r, db')) :
    (∃ k db'', enqueueAuthorized pending r.actionId db' = .ok (k, db'')) ↔
      ¬Exhausted db n.attemptId := by
  have he := authorize_effect hg
  have hb := (hs.backed.step hs.once he).1
  have hc := hs.coupled.step he.attemptStep
  rcases authorize_eq_ok hg with ⟨hold, -⟩ | ⟨target, _, interval, actions, grants, hgr, -, hins, hr, hdb⟩
  · -- the id of the action is new
    obtain ⟨hm, hid⟩ := authorization?_eq_some.1 hold
    obtain ⟨action, target, hrow⟩ := hs.backed r hm
    exact absurd (hrow.action_id.trans hid) (ha.timely.actions action hrow.action_mem)
  · have hactive : db'.active pending.installationId := by
      rw [hdb]
      exact ha.active
    unfold enqueueAuthorized
    rw [if_pos hactive]
    subst hdb hr
    have hmem := (Relation.mem_insert? hins).2 (.inr rfl)
    obtain ⟨action, target', hrow⟩ := hb _ hmem
    have hn : ¬∃ c ∈ db.taskCommands.rows, c.actionId = some pending.actionId := by
      rintro ⟨c, hcm, hca⟩
      exact (ha.timely.commands c hcm).2.2.2.2 hca
    have hsend := (send_iff pending hrow hc hmem rfl hn
      fun c hcm => (ha.timely.commands c hcm).1).1
    have hlive : ¬Lapsed pending db (authorizationRow (authorizationRequest pending n) target
        interval db) := by
      obtain ⟨task, ht, hrun, -⟩ := admitted?_task hgr.admitted
      obtain ⟨hm, hid, -⟩ := Db.task?_eq_some.1 ht
      rintro (⟨task', hm', hid', hne⟩ | hold)
      · rw [task_unique hm' hm (hid'.trans hid.symm)] at hne
        exact hne hrun.1
      · exact absurd hold (Nat.not_le.2 (Nat.lt_add_of_pos_right (by decide)))
    have hkey : ¬KeyTaken db pending.installationId (.action pending.actionId) := by
      rintro ⟨c, hcm, -, hk⟩
      exact (ha.timely.commands c hcm).2.2.2.1 hk
    exact hsend.trans ⟨fun h => h.2.1, fun h => ⟨hlive, h, hkey⟩⟩

variable (pending skipped db) in
/-- One round, running alone. -/
theorem run_advanceOnce : (advanceOnce pending skipped).run exec db =
    match prepare pending skipped db with
    | .error e => (some (some (.error e)), db)
    | .ok (.done k, db') => (some (some (.ok k)), db')
    | .ok (.next n, db') =>
      match authorize (authorizationRequest pending n) db' with
      | .error (.limited _) => (some (some (.ok .rateLimited)), db')
      | .error .rejected => (some none, db')
      | .ok (r, db'') =>
        match enqueueAuthorized pending r.actionId db'' with
        | .error e => (some (some (.error e)), db'')
        | .ok (k, d) => (some (some (.ok k)), d) := by
  unfold advanceOnce
  rw [Prog.run_call]
  cases hp : prepare pending skipped db with
  | error e => simp [exec, hp, Db.atomicExcept]
  | ok x =>
    obtain ⟨r, db'⟩ := x
    cases r with
    | done k => simp [exec, hp, Db.atomicExcept]
    | next n =>
      cases ha : authorize (authorizationRequest pending n) db' with
      | error e => cases e <;> simp [exec, hp, ha, Db.atomicExcept]
      | ok y =>
        obtain ⟨r, db''⟩ := y
        cases he : enqueueAuthorized pending r.actionId db'' with
        | error e => simp [exec, hp, ha, he, Db.atomicExcept]
        | ok z =>
          obtain ⟨k, d⟩ := z
          simp [exec, hp, ha, he, Db.atomicExcept]

/-- A round that is decided is the whole call. -/
theorem run_advance_of_some {result : AdvanceResult} {db' : Db}
    (h : (advanceOnce pending skipped).run exec db = (some (some result), db')) :
    ((advance pending skipped skipped').run exec db).1 = some result := by
  unfold advance
  rw [Prog.run_bind, h]
  rfl

/-- A call that is refused twice is idle. -/
theorem run_advance_of_none (h : (advanceOnce pending skipped).run exec db = (some none, db))
    (h' : (advanceOnce pending skipped').run exec db = (some none, db)) :
    ((advance pending skipped skipped').run exec db).1 = some (.ok .idle) := by
  unfold advance
  rw [Prog.run_bind, h]
  dsimp only
  rw [Prog.run_bind, h']
  rfl

theorem returns_of_run {result : AdvanceResult} {db' : Db}
    (h : (advanceOnce pending skipped).run exec db = (some (some result), db')) :
    Returns pending skipped skipped' db ↔ ∃ k, result = .ok k := by
  unfold Returns
  rw [run_advance_of_some h]
  simp

section Decided

variable {n : NextAuthorization} {task : Task} {attempt : ExecutionAttempt}
  {definition : Definition} {confirmation : TaskTargetConfirmation} {target : TaskTarget}

/-- A call that decides to authorize fails only after the grant. -/
theorem returns_iff_of_decided (hs : Sound db) (ha : Admissible pending db)
    (hu : uncommanded? db pending.installationId = none)
    (hd : Decided pending db n task attempt definition confirmation target) :
    Returns pending skipped skipped' db ↔
      ¬((∃ r db', authorize (authorizationRequest pending n) db = .ok (r, db')) ∧
        Exhausted db n.attemptId) := by
  have hrun := run_advanceOnce pending skipped db
  have hrun' := run_advanceOnce pending skipped' db
  rw [prepare_of_decided _ hs ha hu hd] at hrun hrun'
  dsimp only at hrun hrun'
  cases hauth : authorize (authorizationRequest pending n) db with
  | error e =>
    rw [hauth] at hrun hrun'
    have hret : Returns pending skipped skipped' db := by
      cases e with
      | limited reason => exact (returns_of_run hrun).2 ⟨_, rfl⟩
      | rejected => exact ⟨.idle, run_advance_of_none hrun hrun'⟩
    refine ⟨fun _ h => ?_, fun _ => hret⟩
    obtain ⟨⟨r, db', hr⟩, -⟩ := h
    cases hr
  | ok y =>
    obtain ⟨r, db'⟩ := y
    have hsend := send_granted hs ha hauth
    rw [hauth] at hrun
    dsimp only at hrun
    cases he : enqueueAuthorized pending r.actionId db' with
    | error e =>
      rw [he] at hrun hsend
      rw [returns_of_run hrun]
      refine ⟨nofun, fun hn => ?_⟩
      obtain ⟨k, d, hk⟩ := hsend.2 fun hx => hn ⟨⟨r, db', rfl⟩, hx⟩
      cases hk
    | ok z =>
      obtain ⟨k, d⟩ := z
      rw [he] at hrun
      rw [returns_of_run hrun]
      exact ⟨fun _ h => hsend.1 ⟨k, d, he⟩ h.2, fun _ => ⟨k, rfl⟩⟩

/-- It is stuck when what it authorizes cannot be sent. -/
theorem stuck_iff_of_decided (hs : Sound db) (ha : Admissible pending db)
    (hu : uncommanded? db pending.installationId = none)
    (hd : Decided pending db n task attempt definition confirmation target) :
    Stuck pending skipped db ↔
      (∃ r db', authorize (authorizationRequest pending n) db = .ok (r, db')) ∧
        Exhausted db n.attemptId := by
  have hp := prepare_of_decided skipped hs ha hu hd
  constructor
  · intro hst
    cases hst with
    | halted h => exact absurd h ((prepare_returns_iff skipped hs ha).1 ⟨_, hp⟩)
    | unsent hu' hd' hg hx =>
      have heq := prepare_of_decided skipped hs ha hu' hd'
      rw [hp] at heq
      cases heq
      exact ⟨hg, hx⟩
  · exact fun ⟨hg, hx⟩ => .unsent hu hd hg hx

end Decided

/-- When a call that runs alone returns a kind. -/
theorem returns_iff (hs : Sound db) (ha : Admissible pending db) :
    Returns pending skipped skipped' db ↔ ¬Stuck pending skipped db := by
  have hprep := prepare_returns_iff skipped hs ha
  have hrun := run_advanceOnce pending skipped db
  cases hp : prepare pending skipped db with
  | error e =>
    rw [hp] at hrun
    rw [returns_of_run hrun]
    refine ⟨nofun, fun hn => ?_⟩
    obtain ⟨x, hx⟩ := hprep.2 fun h => hn (.halted h)
    rw [hp] at hx
    cases hx
  | ok x =>
    obtain ⟨r, db'⟩ := x
    cases r with
    | done k =>
      rw [hp] at hrun
      rw [returns_of_run hrun]
      refine ⟨fun _ hst => ?_, fun _ => ⟨k, rfl⟩⟩
      cases hst with
      | halted h => exact hprep.1 ⟨_, hp⟩ h
      | unsent hu hd =>
        have := prepare_of_decided skipped hs ha hu hd
        rw [hp] at this
        cases this
    | next n =>
      obtain ⟨-, task, attempt, definition, confirmation, target, hd⟩ := (prepare_eq_ok hp).2 n rfl
      have hu := uncommanded?_of_next ha hp
      rw [returns_iff_of_decided hs ha hu hd, stuck_iff_of_decided hs ha hu hd]

/-- A lapsed leftover is rejected, and the call with it. -/
theorem leftover_rejects (hs : Sound db) (ha : Admissible pending db) {r : ActionRiskAuthorization}
    (hu : uncommanded? db pending.installationId = some r) (hl : Lapsed pending db r) :
    ((advance pending skipped skipped').run exec db).1 = some (.error .rejected) := by
  have hp : prepare pending skipped db = .error .rejected := by
    unfold prepare
    rw [if_pos ⟨ha.active, ha.ungated, ha.healthy⟩, hu]
    dsimp only
    rw [(send_leftover hs ha.timely hu).2 hl]
  have hrun := run_advanceOnce pending skipped db
  rw [hp] at hrun
  exact run_advance_of_some hrun

end Run

open Walkthrough

/-- The next call after the one that authorized action 1 and was lost. -/
def later : PendingActionExecutionAdvance :=
  { granting with
    executionAttemptId := 5
    actionId := 3
    messageId := 10
    correlationId := 10
    requestedAt := seconds 10
    commandDeadlineAt := seconds 70
    deadline_later := by decide
    deadline_le := by decide }

theorem granted_admissible : Admissible later (after exec Db.empty granted) :=
  ⟨by decide, by decide, by decide, by decide, by decide, by decide, by decide, by decide⟩

/-- The user cancels the task before the next call. -/
def cancelled : List Op := granted ++
  [.enqueueControl
    { messageId := 9
      correlationId := 9
      installationId := 1
      taskId := 1
      controlType := .cancel
      idempotencyKey := .other "cancel"
      createdAt := seconds 9
      deadlineAt := seconds 69
      deadline_later := (by decide : seconds 9 + 1 ≤ seconds 69) }]

end AutomationTool.Bugs.LeftoverAuthorization
