import AutomationTool.ControlPlane.Effect

/-!
# Task timelines

Seven writers advance a task's revision and append to its timeline. To the two tables
they look alike: `TaskStep` is what is left of an effect when only `tasks` and
`task_events` are looked at, and `Timeline` is kept by each of its four cases.
-/
namespace AutomationTool.ControlPlane

open Protocol TaskCommandRepository TaskTargetRepository TaskTargetPreviewRepository
  TaskDiscoveryRepository TaskEventConvergence TaskEventConvergenceRepository
  ActionExecutionOrchestrationRepository

/-- A task row that is not over, moved on: its identity stays and its revision does not
go back. -/
structure TaskMove (task task' : Task) : Prop where
  id : task'.id = task.id
  installation : task'.installationId = task.installationId
  live : TaskStateMachine.isTerminal task.status = false
  revision : task.revision ≤ task'.revision

/-- An event as every writer appends it. -/
structure Follows (task : Task) (e : TaskEvent) : Prop where
  taskId : e.taskId = task.id
  installation : e.installationId = task.installationId
  sequence : e.sequence = task.lastEventSequence + 1
  revision : e.taskRevision = task.revision + 1

/-- An effect, seen from `tasks` and `task_events`. -/
inductive TaskStep (db db' : Db) : Prop where
  | unchanged (ht : db'.tasks = db.tasks) (he : db'.taskEvents = db.taskEvents)
  | created {task : Task} (ht : db.tasks.insert? task = some db'.tasks)
      (h0 : task.lastEventSequence = 0) (he : db'.taskEvents = db.taskEvents)
  | moved {task task' : Task} (ht : db.tasks.Replaced db'.tasks task task')
      (hm : TaskMove task task') (hs : task'.lastEventSequence = task.lastEventSequence)
      (he : db'.taskEvents = db.taskEvents)
  | appended {task task' : Task} {e : TaskEvent} (ht : db.tasks.Replaced db'.tasks task task')
      (hm : TaskMove task task') (hr : task'.revision = task.revision + 1)
      (hs : task'.lastEventSequence = task.lastEventSequence + 1) (hf : Follows task e)
      (he : db.taskEvents.insert? e = some db'.taskEvents)

theorem live_of_canTransition {s t : TaskStatus} (h : TaskStateMachine.canTransition s t = true) :
    TaskStateMachine.isTerminal s = false := by
  by_contra hs
  rw [TaskStateMachine.not_canTransition_of_isTerminal (by simpa using hs)] at h
  cases h

theorem live_of_nextTaskStatus {s s' : TaskStatus} {p : PendingTaskEvent}
    (h : nextTaskStatus s p = some s') : TaskStateMachine.isTerminal s = false := by
  unfold nextTaskStatus at h
  split at h
  · split at h
    · rename_i hs
      rcases hs.2 with rfl | rfl <;> rfl
    · cases h
  · split at h
    · exact live_of_canTransition ‹_›
    · cases h

theorem live_of_projection {p : PendingTaskEvent} {opened : Bool} {task : Task}
    {attempt : ExecutionAttempt} {j : Projection} (h : projection p opened task attempt = some j) :
    TaskStateMachine.isTerminal task.status = false := by
  unfold projection at h
  split at h
  · rename_i hs
    rw [hs.2]
    rfl
  · simp only [Option.bind_eq_bind, Option.bind_eq_some_iff] at h
    obtain ⟨s, hs, -⟩ := h
    exact live_of_nextTaskStatus hs

theorem live_of_controllable {control : PendingTaskControl} {task : Task}
    {attempt : ExecutionAttempt} (h : controllable control task attempt) :
    TaskStateMachine.isTerminal task.status = false := by
  unfold controllable at h
  cases hk : control.controlType <;> rw [hk] at h
  · rw [h.1]; rfl
  · rw [h.1]; rfl
  · exact live_of_canTransition h.1
  · exact live_of_canTransition h.1

theorem live_of_reachable {s : TaskStatus} (h : discoveryReachable s = true) :
    TaskStateMachine.isTerminal s = false := by
  rw [discoveryReachable_iff] at h
  cases s <;> first | rfl | cases h

/-- Every effect is one of the four. -/
theorem Effect.taskStep {o : Op} {db db' : Db} (h : Effect o db db') : TaskStep db db' := by
  cases h with
  | same | registered | revoked | session | delivered | enqueued | controlled | actionEnqueued
  | authorized => exact .unchanged rfl rfl
  | created ht => exact .created ht rfl rfl
  | terminated h hk hc ht ha =>
    exact .moved ht ⟨rfl, rfl, live_of_controllable h.controllable, Nat.le_succ _⟩ rfl rfl
  | @converged _ _ p _ task _ _ _ j _ _ _ _ _ _ hp h hr ha hx he ht =>
    obtain ⟨hmem, hid, hi⟩ := Db.task?_eq_some.1 h.task_eq
    have hlive := live_of_projection h.projection_eq
    exact .appended ht ⟨rfl, rfl, hlive, Nat.le_succ _⟩ rfl h.sequence
      ⟨hid.symm, hi.symm, h.sequence, rfl⟩ he
  | discoveryStarted h ha hc he ht =>
    obtain ⟨hmem, hid, hi⟩ := Db.task?_eq_some.1 h.task_eq
    exact .appended ht ⟨rfl, rfl, live_of_reachable h.reachable, Nat.le_succ _⟩ rfl rfl
      ⟨hid.symm, hi.symm, rfl, rfl⟩ he
  | discoveryReported h hv ha he ht =>
    obtain ⟨htask, -, -, hs, -⟩ := requireActiveAttempt_eq_some h
    obtain ⟨hmem, hid, hi⟩ := Db.task?_eq_some.1 htask
    exact .appended ht ⟨rfl, rfl, by rw [hs]; rfl, Nat.le_succ _⟩ rfl rfl
      ⟨hid.symm, hi.symm, rfl, rfl⟩ he
  | exclusionsReplaced h hs hv he ht =>
    exact .appended ht ⟨rfl, rfl, by rw [hs]; rfl, Nat.le_succ _⟩ rfl rfl ⟨rfl, rfl, rfl, rfl⟩ he
  | confirmed h hs hv he ht =>
    exact .appended ht ⟨rfl, rfl, by rw [hs]; rfl, Nat.le_succ _⟩ rfl rfl ⟨rfl, rfl, rfl, rfl⟩ he
  | offered h ha hc ht =>
    exact .moved ht ⟨rfl, rfl, by rw [h.status]; rfl, Nat.le_refl _⟩ rfl rfl
  | finished h ha he ht =>
    obtain ⟨hmem, hid, hi⟩ := Db.task?_eq_some.1 h.task_eq
    exact .appended ht ⟨rfl, rfl, by rw [h.status]; rfl, Nat.le_succ _⟩ rfl rfl
      ⟨rfl, hi.symm, rfl, rfl⟩ he

/-! ## One step -/

/-- A task is known by its id. -/
theorem task_unique {db : Db} {a b : Task} (ha : a ∈ db.tasks) (hb : b ∈ db.tasks)
    (h : a.id = b.id) : a = b := Relation.eq_of_not_apart ha hb fun hab => hab.1 h

/-- The events of a task are numbered from 1 to its last sequence, and carry revisions
that grow and that the task has reached. -/
structure Timeline (db : Db) : Prop where
  owned : ∀ e ∈ db.taskEvents, ∃ task ∈ db.tasks, task.id = e.taskId ∧
    task.installationId = e.installationId
  numbered : ∀ task ∈ db.tasks, ∀ n, (∃ e ∈ db.taskEvents, e.taskId = task.id ∧ e.sequence = n) ↔
    1 ≤ n ∧ n ≤ task.lastEventSequence
  reached : ∀ task ∈ db.tasks, ∀ e ∈ db.taskEvents, e.taskId = task.id →
    e.taskRevision ≤ task.revision
  ordered : ∀ e ∈ db.taskEvents, ∀ f ∈ db.taskEvents, e.taskId = f.taskId →
    e.sequence < f.sequence → e.taskRevision < f.taskRevision

theorem timeline_empty : Timeline Db.empty where
  owned _ h := absurd h (Relation.not_mem_empty _)
  numbered _ h := absurd h (Relation.not_mem_empty _)
  reached _ h := absurd h (Relation.not_mem_empty _)
  ordered _ h := absurd h (Relation.not_mem_empty _)

/-- Every task is found again, the terminal ones as they were. -/
theorem TaskStep.keeps {db db' : Db} (h : TaskStep db db') {task : Task} (hm : task ∈ db.tasks) :
    ∃ task' ∈ db'.tasks, task'.id = task.id ∧ task'.installationId = task.installationId ∧
      task.revision ≤ task'.revision ∧
      (TaskStateMachine.isTerminal task.status = true → task' = task) := by
  cases h with
  | unchanged ht he => exact ⟨task, ht ▸ hm, rfl, rfl, Nat.le_refl _, fun _ => rfl⟩
  | created ht h0 he =>
    exact ⟨task, (Relation.mem_insert? ht).2 (.inl hm), rfl, rfl, Nat.le_refl _, fun _ => rfl⟩
  | @moved old new ht hmove hs he | @appended old new e ht hmove hr hs hf he =>
    by_cases heq : task = old
    · subst heq
      refine ⟨new, ht.new_mem, hmove.id, hmove.installation, hmove.revision, fun hterm => ?_⟩
      rw [hmove.live] at hterm
      cases hterm
    · exact ⟨task, ht.mem_of_ne hm heq, rfl, rfl, Nat.le_refl _, fun _ => rfl⟩

/-- A new event belongs to the task that moved and to no other. -/
theorem Timeline.append {db db' : Db} (h : Timeline db) {task task' : Task} {e : TaskEvent}
    (ht : db.tasks.Replaced db'.tasks task task') (hm : TaskMove task task')
    (hr : task'.revision = task.revision + 1)
    (hs : task'.lastEventSequence = task.lastEventSequence + 1) (hf : Follows task e)
    (he : db.taskEvents.insert? e = some db'.taskEvents) : Timeline db' := by
  have hmem : ∀ x, x ∈ db'.taskEvents ↔ x ∈ db.taskEvents ∨ x = e :=
    fun x => Relation.mem_insert? he
  -- the other tasks, with their events, are as before
  have hother : ∀ t ∈ db.tasks, t ≠ task → e.taskId ≠ t.id := by
    intro t htm hne he'
    exact hne (task_unique htm ht.old_mem (he'.symm.trans hf.taskId))
  constructor
  · intro x hx
    rcases (hmem x).1 hx with hx | rfl
    · obtain ⟨t, htm, h1, h2⟩ := h.owned x hx
      by_cases hteq : t = task
      · subst hteq
        exact ⟨task', ht.new_mem, hm.id.trans h1, hm.installation.trans h2⟩
      · exact ⟨t, ht.mem_of_ne htm hteq, h1, h2⟩
    · exact ⟨task', ht.new_mem, hm.id.trans hf.taskId.symm,
        hm.installation.trans hf.installation.symm⟩
  · intro t htm n
    rcases ht.cases htm with rfl | ⟨htm, hne⟩
    · have hn := h.numbered task ht.old_mem
      rw [hm.id, hs]
      constructor
      · rintro ⟨x, hx, h1, h2⟩
        rcases (hmem x).1 hx with hx | rfl
        · have := (hn n).1 ⟨x, hx, h1, h2⟩
          omega
        · have := hf.sequence
          omega
      · intro hrange
        by_cases hlast : n = task.lastEventSequence + 1
        · exact ⟨e, (hmem e).2 (.inr rfl), hf.taskId, hf.sequence.trans hlast.symm⟩
        · obtain ⟨x, hx, h1, h2⟩ := (hn n).2 (by omega)
          exact ⟨x, (hmem x).2 (.inl hx), h1, h2⟩
    · rw [← h.numbered t htm n]
      constructor
      · rintro ⟨x, hx, h1, h2⟩
        rcases (hmem x).1 hx with hx | rfl
        · exact ⟨x, hx, h1, h2⟩
        · exact absurd h1 (hother t htm hne)
      · rintro ⟨x, hx, h1, h2⟩
        exact ⟨x, (hmem x).2 (.inl hx), h1, h2⟩
  · intro t htm x hx hid
    rcases ht.cases htm with rfl | ⟨htm, hne⟩ <;> rcases (hmem x).1 hx with hx | rfl
    · rw [hm.id] at hid
      have := h.reached task ht.old_mem x hx hid
      omega
    · have := hf.revision
      omega
    · exact h.reached t htm x hx hid
    · exact absurd hid (hother t htm hne)
  · intro x hx y hy hid hlt
    rcases (hmem x).1 hx with hx | rfl <;> rcases (hmem y).1 hy with hy | rfl
    · exact h.ordered x hx y hy hid hlt
    · have := h.reached task ht.old_mem x hx (hid.trans hf.taskId)
      have := hf.revision
      omega
    · -- nothing comes after the last sequence
      have := (h.numbered task ht.old_mem y.sequence).1 ⟨y, hy, hid.symm.trans hf.taskId, rfl⟩
      have := hf.sequence
      omega
    · omega

theorem Timeline.step {db db' : Db} (h : Timeline db) (hs : TaskStep db db') : Timeline db' := by
  cases hs with
  | unchanged ht he =>
    constructor
    · rw [ht, he]; exact h.owned
    · rw [ht, he]; exact h.numbered
    · rw [ht, he]; exact h.reached
    · rw [he]; exact h.ordered
  | @created new ht h0 he =>
    have hmem : ∀ t, t ∈ db'.tasks ↔ t ∈ db.tasks ∨ t = new := fun t => Relation.mem_insert? ht
    -- no event names a task that did not exist
    have hnone : ∀ e ∈ db.taskEvents, e.taskId ≠ new.id := by
      intro e hm hid
      obtain ⟨t, htm, h1, -⟩ := h.owned e hm
      exact (Relation.insert?_fresh ht t htm).1 (h1.trans hid)
    constructor
    · rw [he]
      intro e hm
      obtain ⟨t, htm, h1⟩ := h.owned e hm
      exact ⟨t, (hmem t).2 (.inl htm), h1⟩
    · intro t htm n
      rw [he]
      rcases (hmem t).1 htm with htm | rfl
      · exact h.numbered t htm n
      · constructor
        · rintro ⟨e, hm, h1, -⟩
          exact absurd h1 (hnone e hm)
        · intro hn
          omega
    · intro t htm e hm hid
      rw [he] at hm
      rcases (hmem t).1 htm with htm | rfl
      · exact h.reached t htm e hm hid
      · exact absurd hid (hnone e hm)
    · rw [he]; exact h.ordered
  | @moved task task' ht hm hs he =>
    constructor
    · rw [he]
      intro e hem
      obtain ⟨t, htm, h1, h2⟩ := h.owned e hem
      by_cases hteq : t = task
      · subst hteq
        exact ⟨task', ht.new_mem, hm.id.trans h1, hm.installation.trans h2⟩
      · exact ⟨t, ht.mem_of_ne htm hteq, h1, h2⟩
    · rw [he]
      intro t htm n
      rcases ht.cases htm with rfl | ⟨htm, -⟩
      · rw [hm.id, hs]
        exact h.numbered task ht.old_mem n
      · exact h.numbered t htm n
    · rw [he]
      intro t htm e hem hid
      rcases ht.cases htm with rfl | ⟨htm, -⟩
      · rw [hm.id] at hid
        have := h.reached task ht.old_mem e hem hid
        have := hm.revision
        omega
      · exact h.reached t htm e hem hid
    · rw [he]; exact h.ordered
  | appended ht hm hr hs hf he => exact h.append ht hm hr hs hf he

theorem timeline_inductive : system.Inductive Timeline :=
  effect_inductive timeline_empty fun _ _ _ h he => h.step he.taskStep

/-! ## Runs -/

theorem taskStep_of_step {db db' : Db} {c : Call Op Op.Ret} (h : system.step db c db') :
    TaskStep db db' := by
  have := (exec_effect c.1 db).taskStep
  rwa [h.2] at this

/-- A terminal task row never changes again. -/
theorem terminal_task_kept {db db' : Db} {ls : List (Call Op Op.Ret)} (h : system.Run db ls db')
    {task : Task} (hm : task ∈ db.tasks) (ht : TaskStateMachine.isTerminal task.status = true) :
    task ∈ db'.tasks := by
  induction h with
  | nil => exact hm
  | cons hs _ ih =>
    obtain ⟨task', hm', -, -, -, heq⟩ := (taskStep_of_step hs).keeps hm
    exact ih (heq ht ▸ hm')

/-- The sequences of a task's events are those from 1 to its last, each once. -/
theorem Timeline.sequences {db : Db} (h : Timeline db) {task : Task} (hm : task ∈ db.tasks) :
    ((db.taskEvents.rows.filter fun e => e.taskId = task.id).map TaskEvent.sequence).Perm
      (List.range' 1 task.lastEventSequence) := by
  refine (List.perm_ext_iff_of_nodup ?_ List.nodup_range').2 fun n => ?_
  · refine (List.pairwise_map.2 ?_)
    refine (db.taskEvents.distinct.filter _).imp_of_mem fun ha hb hab he => ?_
    simp only [List.mem_filter, decide_eq_true_eq] at ha hb
    exact hab.1 ⟨ha.2.trans hb.2.symm, he⟩
  · have hn := h.numbered task hm n
    simp only [List.mem_map, List.mem_filter, decide_eq_true_eq, List.mem_range'_1]
    rw [show (1 ≤ n ∧ n < 1 + task.lastEventSequence) ↔ (1 ≤ n ∧ n ≤ task.lastEventSequence) by
      omega, ← hn]
    constructor
    · rintro ⟨e, ⟨he, hid⟩, hs⟩
      exact ⟨e, he, hid, hs⟩
    · rintro ⟨e, he, hid, hs⟩
      exact ⟨e, ⟨he, hid⟩, hs⟩

end AutomationTool.ControlPlane
