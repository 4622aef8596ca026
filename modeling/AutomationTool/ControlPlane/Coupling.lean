import AutomationTool.ControlPlane.Timeline

/-!
# Tasks and their attempts

A task that has a current attempt moves together with it. `Fits` lists the pairs of
statuses the two can have, `Coupled` says that they do, and `AttemptStep` is what is left
of an effect when only `tasks` and `execution_attempts` are looked at.

Once an executor works on a task its attempt is there to stay: from an `Engaged` pair
there is no way back to discovery or to the queue (`Attached.step`).
-/
namespace AutomationTool.ControlPlane

open Protocol TaskCommandRepository TaskTargetRepository TaskTargetPreviewRepository
  TaskDiscoveryRepository TaskEventConvergence TaskEventConvergenceRepository
  ActionExecutionOrchestrationRepository

/-- The statuses of a task and of its current attempt. -/
inductive Fits : TaskStatus → ExecutionAttemptStatus → Prop where
  | discovering : Fits .discoveringTargets .offered
  | previewed : Fits .awaitingConfirmation .succeeded
  | queued : Fits .queued .offered
  | running : Fits .running .running
  | paused : Fits .paused .paused
  | cancelling : Fits .cancelling .cancelling
  | loginRequired : Fits .awaitingPlatformLogin .awaitingHuman
  | handedOver : Fits .awaitingHuman .awaitingHuman
  | discoveryLogin : Fits .awaitingPlatformLogin .failed
  | discoveryHandoff : Fits .awaitingHuman .failed
  | succeeded : Fits .succeeded .succeeded
  | partiallySucceeded : Fits .partiallySucceeded .partiallySucceeded
  | failed : Fits .failed .failed
  | cancelled : Fits .cancelled .cancelled
  | outcomeUncertain : Fits .outcomeUncertain .outcomeUncertain

/-- An executor works on the task, or did. -/
def Engaged (s : TaskStatus) (a : ExecutionAttemptStatus) : Prop :=
  match s with
  | .running | .paused | .cancelling | .succeeded | .partiallySucceeded | .failed | .cancelled
  | .outcomeUncertain => True
  | .awaitingHuman | .awaitingPlatformLogin => a = .awaitingHuman
  | _ => False

/-- The row of a task's current attempt. -/
structure CurrentAttempt (db : Db) (task : Task) (a : ExecutionAttempt) : Prop where
  mem : a ∈ db.executionAttempts
  current : task.currentAttemptId = some a.id
  taskId : a.taskId = task.id
  installation : a.installationId = task.installationId

/-- Every task fits its current attempt; one without was never started, or is queued. -/
def Coupled (db : Db) : Prop :=
  ∀ task ∈ db.tasks, task.currentAttemptId = none ∧ (task.status = .draft ∨ task.status = .queued) ∨
    ∃ a, CurrentAttempt db task a ∧ Fits task.status a.status

/-- Same task, other columns. -/
structure SameTask (task task' : Task) : Prop where
  id : task'.id = task.id
  installation : task'.installationId = task.installationId

/-- Same attempt, other columns. -/
structure SameAttempt (a a' : ExecutionAttempt) : Prop where
  id : a'.id = a.id
  taskId : a'.taskId = a.taskId
  installation : a'.installationId = a.installationId

/-- An effect, seen from `tasks` and `execution_attempts`. -/
inductive AttemptStep (db db' : Db) : Prop where
  | unchanged (ht : db'.tasks = db.tasks) (ha : db'.executionAttempts = db.executionAttempts)
  | created {task : Task} (ht : db.tasks.insert? task = some db'.tasks)
      (hc : task.currentAttemptId = none) (hs : task.status = .draft)
      (ha : db'.executionAttempts = db.executionAttempts)
  | moved {task task' : Task} {a a' : ExecutionAttempt}
      (ht : db.tasks.Replaced db'.tasks task task')
      (ha : db.executionAttempts.Replaced db'.executionAttempts a a') (hcur : CurrentAttempt db task a)
      (hst : SameTask task task') (hsa : SameAttempt a a')
      (hc : task'.currentAttemptId = task.currentAttemptId)
      (hf : Fits task.status a.status → Fits task'.status a'.status)
      (he : Engaged task.status a.status → Engaged task'.status a'.status)
  | assigned {task task' : Task} {a : ExecutionAttempt}
      (ht : db.tasks.Replaced db'.tasks task task')
      (ha : db.executionAttempts.insert? a = some db'.executionAttempts)
      (hst : SameTask task task') (hc : task'.currentAttemptId = some a.id)
      (hid : a.taskId = task.id) (hi : a.installationId = task.installationId)
      (hf : Fits task'.status a.status)
      (hfree : ∀ x, CurrentAttempt db task x → ¬Engaged task.status x.status)
  | kept {task task' : Task} (ht : db.tasks.Replaced db'.tasks task task')
      (ha : db'.executionAttempts = db.executionAttempts) (hst : SameTask task task')
      (hc : task'.currentAttemptId = task.currentAttemptId) (hs : task'.status = task.status)
  | cleared {task task' : Task} (ht : db.tasks.Replaced db'.tasks task task')
      (ha : db'.executionAttempts = db.executionAttempts) (hst : SameTask task task')
      (hc : task'.currentAttemptId = none) (hs : task'.status = .queued)
      (hfree : task.status = .awaitingConfirmation)

/-! ## The writers -/

theorem pending?_eq_some {m : Outbound} {t : Time} {p : PendingTaskEvent}
    (h : pending? m t = some p) : p.message = m ∧ p.receivedAt = t ∧ p.plan = eventPlan p.type ∧
      ∃ payload, m.body = .taskEvent p.type payload ∧ actionPlan p.type payload = some p.action := by
  unfold pending? at h
  split at h
  · rename_i type payload hb
    simp only [Option.bind_eq_bind, Option.bind_eq_some_iff, Option.pure_def,
      Option.some.injEq] at h
    obtain ⟨-, -, action, ha, rfl⟩ := h
    exact ⟨rfl, rfl, rfl, payload, hb, ha⟩
  · cases h

/-- The pair of statuses an event plan moves to. -/
theorem fits_eventPlan {type : Protocol.TaskEventType} {s : TaskStatus}
    {a : ExecutionAttemptStatus} (hs : (eventPlan type).taskStatus = some s)
    (ha : (eventPlan type).attemptStatus = some a) : Fits s a ∧ Engaged s a := by
  cases type <;> cases hs <;> cases ha <;> exact ⟨by constructor, by trivial⟩

theorem eventPlan_both {type : Protocol.TaskEventType} :
    (eventPlan type).taskStatus = none ↔ (eventPlan type).attemptStatus = none := by
  cases type <;> simp [eventPlan]

/-- An event moves task and attempt to a fitting pair, or leaves both as they are. -/
theorem projection_cases {p : PendingTaskEvent} {opened : Bool} {task : Task}
    {attempt : ExecutionAttempt} {j : Projection} (hp : p.plan = eventPlan p.type)
    (h : projection p opened task attempt = some j) :
    (Fits j.taskStatus j.attemptStatus ∧ Engaged j.taskStatus j.attemptStatus) ∨
      j.taskStatus = task.status ∧ j.attemptStatus = attempt.status ∧
        (task.status = .running ∨ task.status = .cancelling) := by
  unfold projection at h
  split at h
  · cases h
    exact .inl ⟨.handedOver, rfl⟩
  · simp only [Option.bind_eq_bind, Option.bind_eq_some_iff, Option.pure_def,
      Option.some.injEq] at h
    obtain ⟨s, hs, a, ha, rfl⟩ := h
    unfold nextTaskStatus at hs
    unfold nextAttemptStatus at ha
    rw [hp] at hs ha
    cases hps : (eventPlan p.type).taskStatus with
    | none =>
      rw [hps] at hs
      rw [eventPlan_both.1 hps] at ha
      dsimp only at hs ha
      split at hs
      · rename_i hg
        split at ha
        · cases hs
          cases ha
          exact .inr ⟨rfl, rfl, hg.2⟩
        · cases ha
      · cases hs
    | some s' =>
      cases hpa : (eventPlan p.type).attemptStatus with
      | none =>
        rw [eventPlan_both.2 hpa] at hps
        cases hps
      | some a' =>
        rw [hps] at hs
        rw [hpa] at ha
        dsimp only at hs ha
        split at hs
        · split at ha
          · cases hs
            cases ha
            exact .inl (fits_eventPlan hps hpa)
          · cases ha
        · cases hs

@[simp] theorem projectedAttempt_status (p : PendingTaskEvent) (a : ExecutionAttempt)
    (s : ExecutionAttemptStatus) : (projectedAttempt p a s).status = s := by
  unfold projectedAttempt
  split
  · rename_i h
    exact h.symm
  · rfl

theorem projectedAttempt_same (p : PendingTaskEvent) (a : ExecutionAttempt)
    (s : ExecutionAttemptStatus) : SameAttempt a (projectedAttempt p a s) := by
  unfold projectedAttempt
  split <;> exact ⟨rfl, rfl, rfl⟩

theorem fits_finalPlan (outcomes : List ActionOutcome) :
    Fits (finalPlan outcomes).1 (finalPlan outcomes).2.1 ∧
      Engaged (finalPlan outcomes).1 (finalPlan outcomes).2.1 := by
  unfold finalPlan
  split
  · exact ⟨.outcomeUncertain, trivial⟩
  · split
    · exact ⟨.succeeded, trivial⟩
    · split
      · exact ⟨.partiallySucceeded, trivial⟩
      · exact ⟨.failed, trivial⟩

theorem fits_outcomePlan (o : DiscoveryOutcome) : Fits (outcomePlan o).1 (outcomePlan o).2.1 := by
  cases o <;> constructor

/-- A discovery starts only on a task no executor works on. -/
theorem not_engaged_of_startable {pending : PendingTaskDiscovery} {db : Db} {task : Task}
    (h : Startable pending db task) (x : ExecutionAttempt) (hx : CurrentAttempt db task x) :
    ¬Engaged task.status x.status := by
  intro he
  have hr := h.reachable
  rw [discoveryReachable_iff] at hr
  have hi := (Db.task?_eq_some.1 h.task_eq).2.2
  have hbusy : x.status = .awaitingHuman → False := by
    intro hs
    exact h.idle ⟨x, hx.mem, hx.installation.trans hi, by rw [hs]; rfl⟩
  unfold Engaged at he
  cases hs : task.status <;> rw [hs] at he hr <;>
    first | exact False.elim he | exact hbusy he | cases hr

/-- Every effect is one of the six. -/
theorem Effect.attemptStep {o : Op} {db db' : Db} (h : Effect o db db') : AttemptStep db db' := by
  cases h with
  | same | registered | revoked | session | delivered | enqueued | controlled | actionEnqueued
  | authorized => exact .unchanged rfl rfl
  | created ht => exact .created ht rfl rfl rfl
  | terminated h hk hc ht ha =>
    obtain ⟨-, hid, hi⟩ := Db.task?_eq_some.1 h.task_eq
    obtain ⟨hm, -, h1, h2⟩ := Db.attempt?_eq_some.1 h.attempt_eq
    exact .moved ht ha ⟨hm, h.current, h1.trans hid.symm, h2.trans hi.symm⟩ ⟨rfl, rfl⟩
      ⟨rfl, rfl, rfl⟩ rfl (fun _ => .cancelling) fun _ => trivial
  | @converged _ _ p _ task attempt _ _ j _ _ _ _ _ _ hp h hr ha hx he ht =>
    obtain ⟨-, hid, hi⟩ := Db.task?_eq_some.1 h.task_eq
    obtain ⟨hm, h0, h1, h2⟩ := Db.attempt?_eq_some.1 h.attempt_eq
    have hcur : CurrentAttempt _ task attempt :=
      ⟨hm, h0 ▸ h.current, h1.trans hid.symm, h2.trans hi.symm⟩
    have hsame := projectedAttempt_same p attempt j.attemptStatus
    have hcases := projection_cases (pending?_eq_some hp).2.2.1 h.projection_eq
    refine .moved ht ha hcur ⟨rfl, rfl⟩ hsame rfl (fun hf => ?_) fun he => ?_
    · rw [projectedAttempt_status]
      rcases hcases with hc | ⟨h1, h2, -⟩
      · exact hc.1
      · show Fits j.taskStatus j.attemptStatus
        rw [h1, h2]
        exact hf
    · rw [projectedAttempt_status]
      rcases hcases with hc | ⟨h1, h2, -⟩
      · exact hc.2
      · show Engaged j.taskStatus j.attemptStatus
        rw [h1, h2]
        exact he
  | discoveryStarted h ha hc he ht =>
    obtain ⟨-, hid, hi⟩ := Db.task?_eq_some.1 h.task_eq
    exact .assigned ht ha ⟨rfl, rfl⟩ rfl hid.symm hi.symm .discovering (not_engaged_of_startable h)
  | @discoveryReported r _ _ _ _ _ _ _ _ _ _ _ _ h hv ha he ht =>
    obtain ⟨htask, hattempt, hcur, hs, -⟩ := requireActiveAttempt_eq_some h
    obtain ⟨-, hid, hi⟩ := Db.task?_eq_some.1 htask
    obtain ⟨hm, h0, h1, h2⟩ := Db.attempt?_eq_some.1 hattempt
    refine .moved ht ha ⟨hm, h0 ▸ hcur, h1.trans hid.symm, h2.trans hi.symm⟩ ⟨rfl, rfl⟩
      ⟨rfl, rfl, rfl⟩ rfl (fun _ => fits_outcomePlan _) fun he => ?_
    rw [hs] at he
    exact he.elim
  | exclusionsReplaced h hs hv he ht => exact .kept ht rfl ⟨rfl, rfl⟩ rfl hs.symm
  | confirmed h hs hv he ht => exact .cleared ht rfl ⟨rfl, rfl⟩ rfl rfl hs
  | offered h ha hc ht =>
    refine .assigned ht ha ⟨rfl, rfl⟩ rfl rfl h.installation.symm ?_ fun x hx => ?_
    · show Fits _ ExecutionAttemptStatus.offered
      rw [h.status]
      exact .queued
    · have := hx.current
      rw [h.current] at this
      cases this
  | finished h ha he ht =>
    obtain ⟨-, hid, hi⟩ := Db.task?_eq_some.1 h.task_eq
    obtain ⟨outcomes, hplan⟩ := h.plan_eq
    rw [hplan] at ha ht
    exact .moved ht ha ⟨h.attempt_mem, h.current, hid.symm, h.installation.trans hi.symm⟩ ⟨rfl, rfl⟩
      ⟨rfl, rfl, rfl⟩ rfl (fun _ => (fits_finalPlan outcomes).1) fun _ => (fits_finalPlan outcomes).2

/-! ## One step -/

/-- An attempt is known by its id. -/
theorem attempt_unique {db : Db} {a b : ExecutionAttempt} (ha : a ∈ db.executionAttempts)
    (hb : b ∈ db.executionAttempts) (h : a.id = b.id) : a = b :=
  Relation.eq_of_not_apart ha hb fun hab => hab.1 h

theorem CurrentAttempt.unique {db : Db} {task : Task} {a b : ExecutionAttempt}
    (ha : CurrentAttempt db task a) (hb : CurrentAttempt db task b) : a = b :=
  attempt_unique ha.mem hb.mem (Option.some.inj (ha.current.symm.trans hb.current))

/-- The attempt of another task is not touched. -/
theorem CurrentAttempt.other {db db' : Db} {t task : Task} {x a a' : ExecutionAttempt}
    (hx : CurrentAttempt db t x) (hcur : CurrentAttempt db task a)
    (ha : db.executionAttempts.Replaced db'.executionAttempts a a') (hne : t.id ≠ task.id) :
    CurrentAttempt db' t x := by
  refine ⟨ha.mem_of_ne hx.mem ?_, hx.current, hx.taskId, hx.installation⟩
  rintro rfl
  exact hne (hx.taskId.symm.trans hcur.taskId)

theorem coupled_empty : Coupled Db.empty := fun _ h => absurd h (Relation.not_mem_empty _)

theorem Coupled.step {db db' : Db} (h : Coupled db) (hs : AttemptStep db db') : Coupled db' := by
  have hsame : db'.executionAttempts = db.executionAttempts → ∀ {t : Task} {x : ExecutionAttempt},
      CurrentAttempt db t x → CurrentAttempt db' t x :=
    fun ha _ _ hx => ⟨ha ▸ hx.mem, hx.current, hx.taskId, hx.installation⟩
  -- a task that did not move keeps an attempt that did not move
  have hcarry : ∀ {t : Task}, t ∈ db.tasks → (∀ x, CurrentAttempt db t x → CurrentAttempt db' t x) →
      t.currentAttemptId = none ∧ (t.status = .draft ∨ t.status = .queued) ∨
        ∃ a, CurrentAttempt db' t a ∧ Fits t.status a.status := by
    intro t ht hx
    rcases h t ht with hnone | ⟨x, hcx, hf⟩
    · exact .inl hnone
    · exact .inr ⟨x, hx x hcx, hf⟩
  intro t ht
  cases hs with
  | unchanged htasks ha => exact hcarry (htasks ▸ ht) fun _ => hsame ha
  | created hins hc hs ha =>
    rcases (Relation.mem_insert? hins).1 ht with ht | rfl
    · exact hcarry ht fun _ => hsame ha
    · exact .inl ⟨hc, .inl hs⟩
  | @moved task task' a a' hrep ha hcur hst hsa hc hf he =>
    rcases hrep.cases ht with rfl | ⟨ht, hne⟩
    · right
      refine ⟨a', ⟨ha.new_mem, ?_, ?_, ?_⟩, hf ?_⟩
      · rw [hc, hcur.current, hsa.id]
      · rw [hsa.taskId, hcur.taskId, hst.id]
      · rw [hsa.installation, hcur.installation, hst.installation]
      · rcases h task hrep.old_mem with ⟨hnone, -⟩ | ⟨x, hx, hfx⟩
        · rw [hcur.current] at hnone
          cases hnone
        · rwa [hcur.unique hx]
    · have hid : t.id ≠ task.id := fun hid => hne (task_unique ht hrep.old_mem hid)
      exact hcarry ht fun x hx => hx.other hcur ha hid
  | @assigned task task' a hrep ha hst hc hid hi hf hfree =>
    rcases hrep.cases ht with rfl | ⟨ht, -⟩
    · right
      exact ⟨a, ⟨(Relation.mem_insert? ha).2 (.inr rfl), hc, hid.trans hst.id.symm,
        hi.trans hst.installation.symm⟩, hf⟩
    · exact hcarry ht fun x hx =>
        ⟨(Relation.mem_insert? ha).2 (.inl hx.mem), hx.current, hx.taskId, hx.installation⟩
  | @kept task task' hrep ha hst hc hs =>
    rcases hrep.cases ht with rfl | ⟨ht, -⟩
    · rw [hc, hs]
      rcases h task hrep.old_mem with hnone | ⟨x, hx, hf⟩
      · exact .inl hnone
      · exact .inr ⟨x, ⟨ha ▸ hx.mem, hc.trans hx.current, hx.taskId.trans hst.id.symm,
          hx.installation.trans hst.installation.symm⟩, hf⟩
    · exact hcarry ht fun _ => hsame ha
  | @cleared task task' hrep ha hst hc hs hfree =>
    rcases hrep.cases ht with rfl | ⟨ht, -⟩
    · exact .inl ⟨hc, .inr hs⟩
    · exact hcarry ht fun _ => hsame ha

theorem coupled_inductive : system.Inductive Coupled :=
  effect_inductive coupled_empty fun _ _ _ h he => h.step he.attemptStep

/-- The task has this attempt, and an executor works on it or did. -/
def Attached (db : Db) (t : TaskId) (i : InstallationId) (e : ExecutionAttemptId) : Prop :=
  ∃ task ∈ db.tasks, task.id = t ∧ task.installationId = i ∧
    ∃ a, CurrentAttempt db task a ∧ a.id = e ∧ Engaged task.status a.status

/-- A task an executor works on keeps its attempt. -/
theorem Attached.step {db db' : Db} {t : TaskId} {i : InstallationId} {e : ExecutionAttemptId}
    (h : Attached db t i e) (hs : AttemptStep db db') : Attached db' t i e := by
  obtain ⟨task, hm, rfl, rfl, x, hx, rfl, he⟩ := h
  have hsame : db'.executionAttempts = db.executionAttempts → CurrentAttempt db' task x :=
    fun ha => ⟨ha ▸ hx.mem, hx.current, hx.taskId, hx.installation⟩
  cases hs with
  | unchanged ht ha => exact ⟨task, ht ▸ hm, rfl, rfl, x, hsame ha, rfl, he⟩
  | created hins hc hs ha =>
    exact ⟨task, (Relation.mem_insert? hins).2 (.inl hm), rfl, rfl, x, hsame ha, rfl, he⟩
  | @moved old new a a' hrep ha hcur hst hsa hc hf hkeep =>
    by_cases heq : task = old
    · subst heq
      obtain rfl := hcur.unique hx
      exact ⟨new, hrep.new_mem, hst.id, hst.installation, a', ⟨ha.new_mem,
        by rw [hc, hcur.current, hsa.id], by rw [hsa.taskId, hcur.taskId, hst.id],
        by rw [hsa.installation, hcur.installation, hst.installation]⟩, hsa.id, hkeep he⟩
    · exact ⟨task, hrep.mem_of_ne hm heq, rfl, rfl, x,
        hx.other hcur ha fun hid => heq (task_unique hm hrep.old_mem hid), rfl, he⟩
  | @assigned old new a hrep ha hst hc hid hi hf hfree =>
    by_cases heq : task = old
    · subst heq
      exact absurd he (hfree x hx)
    · exact ⟨task, hrep.mem_of_ne hm heq, rfl, rfl, x, ⟨(Relation.mem_insert? ha).2 (.inl hx.mem),
        hx.current, hx.taskId, hx.installation⟩, rfl, he⟩
  | @kept old new hrep ha hst hc hs =>
    by_cases heq : task = old
    · subst heq
      exact ⟨new, hrep.new_mem, hst.id, hst.installation, x, ⟨ha ▸ hx.mem, hc.trans hx.current,
        hx.taskId.trans hst.id.symm, hx.installation.trans hst.installation.symm⟩, rfl, hs ▸ he⟩
    · exact ⟨task, hrep.mem_of_ne hm heq, rfl, rfl, x, hsame ha, rfl, he⟩
  | @cleared old new hrep ha hst hc hs hfree =>
    by_cases heq : task = old
    · subst heq
      rw [hfree] at he
      exact he.elim
    · exact ⟨task, hrep.mem_of_ne hm heq, rfl, rfl, x, hsame ha, rfl, he⟩

/-! ## The lifecycle in every reachable state -/

/-- The attempt status that has the name of the task status, for the statuses an
executor's work or a user's cancellation leads to. -/
def sameName : TaskStatus → Option ExecutionAttemptStatus
  | .running => some .running
  | .paused => some .paused
  | .cancelling => some .cancelling
  | .succeeded => some .succeeded
  | .partiallySucceeded => some .partiallySucceeded
  | .cancelled => some .cancelled
  | .outcomeUncertain => some .outcomeUncertain
  | _ => none

theorem Fits.sameName {s : TaskStatus} {a b : ExecutionAttemptStatus} (h : Fits s a)
    (hb : sameName s = some b) : a = b := by
  cases h <;> cases hb <;> rfl

/-- The timeline of every task is numbered without gap up to its last sequence, its
revisions grow and are never ahead of the task, terminal tasks are frozen, and the current
attempt of a task at work or finished has the status of the same name. -/
theorem task_lifecycle {db : Db} (h : system.Reachable db) :
    (∀ task ∈ db.tasks,
      ((db.taskEvents.rows.filter fun e => e.taskId = task.id).map TaskEvent.sequence).Perm
        (List.range' 1 task.lastEventSequence) ∧
      (∀ e ∈ db.taskEvents, e.taskId = task.id → e.taskRevision ≤ task.revision) ∧
      (∀ e ∈ db.taskEvents, ∀ f ∈ db.taskEvents, e.taskId = task.id → f.taskId = task.id →
        e.sequence < f.sequence → e.taskRevision < f.taskRevision) ∧
      (TaskStateMachine.isTerminal task.status = true →
        ∀ ls db', system.Run db ls db' → task ∈ db'.tasks) ∧
      ∀ s, sameName task.status = some s → ∃ a ∈ db.executionAttempts,
        task.currentAttemptId = some a.id ∧ a.taskId = task.id ∧
          a.installationId = task.installationId ∧ a.status = s) := by
  intro task hm
  have ht := timeline_inductive.reachable h
  refine ⟨ht.sequences hm, ht.reached task hm, ?_, fun hterm ls db' hr =>
    terminal_task_kept hr hm hterm, fun s hs => ?_⟩
  · exact fun e he f hf h1 h2 hlt => ht.ordered e he f hf (h1.trans h2.symm) hlt
  · rcases coupled_inductive.reachable h task hm with ⟨-, hd | hq⟩ | ⟨a, ha, hf⟩
    · rw [hd] at hs
      cases hs
    · rw [hq] at hs
      cases hs
    · exact ⟨a, ha.mem, ha.current, ha.taskId, ha.installation, hf.sameName hs⟩

/-! ## A first run -/

namespace Walkthrough

/-- Browsing two profiles. -/
def browsing : DouyinSearchExposureDefinition where
  searchKeyword := "tea"
  action := .browse
  messageTemplate := none
  targetLimit := 2
  minimumIntervalSeconds := 1
  maximumIntervalSeconds := 1

/-- Installation 1 is registered and healthy, and discovers targets for its task 1. -/
def discovering : List Op :=
  [.register 1 (seconds 1),
    .convergeHealth ⟨1, .healthy, 1, seconds 1, seconds 1⟩,
    .create ⟨1, 1, .other "create", browsing, seconds 1⟩,
    .startDiscovery
      { messageId := 1
        correlationId := 1
        executionAttemptId := 1
        installationId := 1
        taskId := 1
        idempotencyKey := .other "discover"
        createdAt := seconds 2
        deadlineAt := seconds 182 }]

end Walkthrough

/-- The lifecycle of a task in discovery: one event. -/
theorem discovering_lifecycle :
    (after exec Db.empty Walkthrough.discovering).tasks.rows.map Task.status =
      [.discoveringTargets] ∧
    ∀ task ∈ (after exec Db.empty Walkthrough.discovering).tasks,
      (((after exec Db.empty Walkthrough.discovering).taskEvents.rows.filter
        fun e => e.taskId = task.id).map TaskEvent.sequence).Perm
          (List.range' 1 task.lastEventSequence) :=
  ⟨by decide, fun task hm => (task_lifecycle (reachable_after _) task hm).1⟩

end AutomationTool.ControlPlane
