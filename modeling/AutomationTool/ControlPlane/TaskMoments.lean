import AutomationTool.Core.Moments
import AutomationTool.ControlPlane.Timeline

/-!
# The moments of a task

A task's row has a status, a revision and the sequence of its last event, and every event
carries the three as they were after it. `recording` is the control plane with the databases
that it had. `remembered_inductive`: in every run, what the row of a task said from its
beginning on is a `Past`, the task's events are its announcements, and only the last of it
can be terminal.
-/
namespace AutomationTool.ControlPlane

open Protocol (TaskId)
open TaskTargetRepository TaskTargetPreviewRepository TaskDiscoveryRepository
  TaskEventConvergenceRepository ActionExecutionOrchestrationRepository

def Task.moment (task : Task) : Moment TaskStatus :=
  ⟨task.status, task.revision, task.lastEventSequence⟩

def TaskEvent.moment (e : TaskEvent) : Moment TaskStatus := ⟨e.taskStatus, e.taskRevision, e.sequence⟩

theorem insert?_inj {t t' : Relation TaskEvent} {x y : TaskEvent} (hx : t.insert? x = some t')
    (hy : t.insert? y = some t') : x = y := by
  rcases (Relation.mem_insert? hy).1 ((Relation.mem_insert? hx).2 (.inr rfl)) with hm | rfl
  · exact absurd hm (Relation.not_mem_of_insert? hx)
  · rfl

/-- An event carries the status that its task has after it. -/
theorem Effect.taskStatus {o : Op} {db db' : Db} (h : Effect o db db') {e : TaskEvent}
    {task : Task} (he : db.taskEvents.insert? e = some db'.taskEvents) (ht : task ∈ db'.tasks)
    (hid : task.id = e.taskId) : e.taskStatus = task.status := by
  have hfresh := Relation.not_mem_of_insert? he
  have hmem : e ∈ db'.taskEvents := (Relation.mem_insert? he).2 (.inr rfl)
  cases h with
  | same | registered | revoked | session | delivered | enqueued | controlled | actionEnqueued
  | authorized | created | terminated | offered => exact absurd hmem hfresh
  | @converged _ _ p _ old _ _ _ j _ _ _ _ _ _ hp h hr ha hx he' ht' =>
    cases insert?_inj he he'
    have hold := (Db.task?_eq_some.1 h.task_eq).2.1
    rw [task_unique ht ht'.new_mem (hid.trans hold.symm)]
    rfl
  | discoveryStarted h ha hc he' ht' =>
    cases insert?_inj he he'
    have hold := (Db.task?_eq_some.1 h.task_eq).2.1
    rw [task_unique ht ht'.new_mem (hid.trans hold.symm)]
    rfl
  | discoveryReported h hv ha he' ht' =>
    cases insert?_inj he he'
    have hold := (Db.task?_eq_some.1 (requireActiveAttempt_eq_some h).1).2.1
    rw [task_unique ht ht'.new_mem (hid.trans hold.symm)]
    rfl
  | exclusionsReplaced h hs hv he' ht' | confirmed h hs hv he' ht' | finished h ha he' ht' =>
    cases insert?_inj he he'
    rw [task_unique ht ht'.new_mem hid]
    rfl

/-! ## Rows that were -/

/-- The control plane's database and those before it, newest first. -/
structure RecordedDb where
  db : Db
  older : List Db

def recording : LTS RecordedDb (Call Op Op.Ret) where
  init s := s = ⟨Db.empty, []⟩
  step s c s' := system.step s.db c s'.db ∧ s'.older = s.db :: s.older

/-- A row that the task has or had. -/
def RecordedDb.Row (s : RecordedDb) (id : TaskId) (row : Task) : Prop :=
  row.id = id ∧ ∃ db ∈ s.db :: s.older, row ∈ db.tasks

/-- The past of a task: its moments before the row's, and its events. -/
structure Remembers (s : RecordedDb) (task : Task) (moments : List (Moment TaskStatus))
    (events : List TaskEvent) : Prop where
  written : ∀ e, e ∈ events ↔ e ∈ s.db.taskEvents ∧ e.taskId = task.id
  past : Past (task.moment :: moments) (events.map TaskEvent.moment)
  rows : ∀ m, m ∈ task.moment :: moments ↔ ∃ row, s.Row task.id row ∧ row.moment = m
  live : ∀ m ∈ moments, TaskStateMachine.isTerminal m.status = false

structure Remembered (s : RecordedDb) : Prop where
  timeline : Timeline s.db
  kept : ∀ id row, s.Row id row → ∃ task ∈ s.db.tasks, task.id = id
  past : ∀ task ∈ s.db.tasks, ∃ moments events, Remembers s task moments events

variable {s s' : RecordedDb} {task old new : Task}

theorem RecordedDb.row_iff (ho : s'.older = s.db :: s.older) (hm : task ∈ s'.db.tasks) (row : Task) :
    s'.Row task.id row ↔ row = task ∨ s.Row task.id row := by
  unfold RecordedDb.Row
  rw [ho]
  constructor
  · intro ⟨hid, db, hdb, hrow⟩
    rcases List.mem_cons.1 hdb with rfl | hdb
    · exact .inl (task_unique hrow hm hid)
    · exact .inr ⟨hid, db, hdb, hrow⟩
  · rintro (rfl | ⟨hid, db, hdb, hrow⟩)
    · exact ⟨rfl, s'.db, List.mem_cons_self, hm⟩
    · exact ⟨hid, db, List.mem_cons_of_mem _ hdb, hrow⟩

theorem RecordedDb.row_self (hm : task ∈ s.db.tasks) : s.Row task.id task :=
  ⟨rfl, s.db, List.mem_cons_self, hm⟩

/-- A task that the step leaves alone. -/
theorem Remembered.same (h : Remembered s) (ho : s'.older = s.db :: s.older)
    (hm : task ∈ s.db.tasks) (hm' : task ∈ s'.db.tasks)
    (hevents : ∀ e, e ∈ s'.db.taskEvents ∧ e.taskId = task.id ↔
      e ∈ s.db.taskEvents ∧ e.taskId = task.id) :
    ∃ moments events, Remembers s' task moments events := by
  obtain ⟨moments, events, hp⟩ := h.past task hm
  refine ⟨moments, events, fun e => (hp.written e).trans (hevents e).symm, hp.past, ?_, hp.live⟩
  intro m
  rw [hp.rows]
  constructor
  · rintro ⟨row, hrow, rfl⟩
    exact ⟨row, (RecordedDb.row_iff ho hm' row).2 (.inr hrow), rfl⟩
  · rintro ⟨row, hrow, rfl⟩
    rcases (RecordedDb.row_iff ho hm' row).1 hrow with rfl | hrow
    · exact ⟨row, RecordedDb.row_self hm, rfl⟩
    · exact ⟨row, hrow, rfl⟩

/-- A task whose row the step moves on. -/
theorem Remembers.moved {moments : List (Moment TaskStatus)} {events events' : List TaskEvent}
    (h : Remembers s old moments events) (ho : s'.older = s.db :: s.older)
    (hm : new ∈ s'.db.tasks) (hmove : TaskMove old new)
    (hevents : ∀ e, e ∈ events' ↔ e ∈ s'.db.taskEvents ∧ e.taskId = new.id)
    (hpast : Past (new.moment :: old.moment :: moments) (events'.map TaskEvent.moment)) :
    Remembers s' new (old.moment :: moments) events' := by
  refine ⟨hevents, hpast, ?_, ?_⟩
  · intro m
    rw [List.mem_cons, h.rows, ← hmove.id]
    constructor
    · rintro (rfl | ⟨row, hrow, rfl⟩)
      · exact ⟨new, RecordedDb.row_self hm, rfl⟩
      · exact ⟨row, (RecordedDb.row_iff ho hm row).2 (.inr hrow), rfl⟩
    · rintro ⟨row, hrow, rfl⟩
      rcases (RecordedDb.row_iff ho hm row).1 hrow with rfl | hrow
      · exact .inl rfl
      · exact .inr ⟨row, hrow, rfl⟩
  · intro m hmem
    rcases List.mem_cons.1 hmem with rfl | hmem
    · exact hmove.live
    · exact h.live m hmem

theorem Remembered.step {o : Op} (h : Remembered s) (ho : s'.older = s.db :: s.older)
    (he : Effect o s.db s'.db) : Remembered s' := by
  refine ⟨h.timeline.step he.taskStep, ?_, ?_⟩
  · intro id row hrow
    unfold RecordedDb.Row at hrow
    rw [ho] at hrow
    obtain ⟨hid, db, hdb, hrow⟩ := hrow
    rcases List.mem_cons.1 hdb with rfl | hdb
    · exact ⟨row, hrow, hid⟩
    · obtain ⟨task, hm, hid'⟩ := h.kept id row ⟨hid, db, hdb, hrow⟩
      obtain ⟨task', hm', h1, -⟩ := he.taskStep.keeps hm
      exact ⟨task', hm', h1.trans hid'⟩
  intro task hm
  cases he.taskStep with
  | unchanged htasks hevents =>
    apply h.same ho (htasks ▸ hm) hm
    simp [hevents]
  | @created new htasks h0 hevents =>
    rcases (Relation.mem_insert? htasks).1 hm with hold | rfl
    · apply h.same ho hold hm
      simp [hevents]
    · -- neither a row nor an event names a task that did not exist
      have hfresh : ∀ t ∈ s.db.tasks, t.id ≠ task.id :=
        fun t ht => (Relation.insert?_fresh htasks t ht).1
      refine ⟨[], [], fun e => ?_, ?_, fun m => ?_, fun m hmem => nomatch hmem⟩
      · refine ⟨(fun hn => nomatch hn), fun ⟨hem, hid⟩ => ?_⟩
        obtain ⟨t, htm, h1, -⟩ := h.timeline.owned e (hevents ▸ hem)
        exact absurd (h1.trans hid) (hfresh t htm)
      · unfold Task.moment
        rw [h0]
        exact .start _ _
      · rw [List.mem_singleton]
        constructor
        · rintro rfl
          exact ⟨task, RecordedDb.row_self hm, rfl⟩
        · rintro ⟨row, hrow, rfl⟩
          rcases (RecordedDb.row_iff ho hm row).1 hrow with rfl | hrow
          · rfl
          · obtain ⟨t, htm, hid⟩ := h.kept task.id row hrow
            exact absurd hid (hfresh t htm)
  | @moved old new htasks hmove hs hevents =>
    rcases htasks.cases hm with rfl | ⟨hold, -⟩
    · obtain ⟨moments, events, hp⟩ := h.past old htasks.old_mem
      refine ⟨_, events, hp.moved ho hm hmove ?_ (hp.past.changed hmove.revision hs)⟩
      intro e
      rw [hp.written, hevents, hmove.id]
    · apply h.same ho hold hm
      simp [hevents]
  | @appended old new e htasks hmove hr hs hf hevents =>
    have hid : new.id = e.taskId := hmove.id.trans hf.taskId.symm
    rcases htasks.cases hm with rfl | ⟨hold, hne⟩
    · obtain ⟨moments, events, hp⟩ := h.past old htasks.old_mem
      have hmoment : e.moment = task.moment := by
        unfold TaskEvent.moment Task.moment
        rw [he.taskStatus hevents hm hid, hf.revision, hf.sequence, hr, hs]
      refine ⟨_, e :: events, hp.moved ho hm hmove ?_ ?_⟩
      · intro f
        rw [List.mem_cons, hp.written, Relation.mem_insert? hevents, hmove.id]
        constructor
        · rintro (rfl | ⟨hf', hid'⟩)
          · exact ⟨.inr rfl, hf.taskId⟩
          · exact ⟨.inl hf', hid'⟩
        · rintro ⟨hf' | rfl, hid'⟩
          · exact .inr ⟨hf', hid'⟩
          · exact .inl rfl
      · rw [List.map_cons, hmoment]
        have hlt : old.revision < task.revision := by omega
        exact hp.past.announced hlt hs
    · apply h.same ho hold hm
      intro f
      rw [Relation.mem_insert? hevents]
      constructor
      · rintro ⟨hf' | rfl, hid'⟩
        · exact ⟨hf', hid'⟩
        · exact absurd (task_unique hold htasks.old_mem (hid'.symm.trans hf.taskId)) hne
      · exact fun ⟨hf', hid'⟩ => ⟨.inl hf', hid'⟩

/-- No event is ever deleted. -/
theorem TaskStep.events_kept {db db' : Db} (h : TaskStep db db') {e : TaskEvent}
    (he : e ∈ db.taskEvents) : e ∈ db'.taskEvents := by
  cases h with
  | unchanged _ hevents | created _ _ hevents | moved _ _ _ hevents => exact hevents ▸ he
  | appended _ _ _ _ _ hevents => exact (Relation.mem_insert? hevents).2 (.inl he)

theorem remembered_inductive : recording.Inductive Remembered where
  init s hs := by
    cases hs
    refine ⟨timeline_empty, ?_, fun _ hm => absurd hm (Relation.not_mem_empty _)⟩
    intro id row ⟨_, db, hdb, hrow⟩
    cases List.mem_singleton.1 hdb
    exact absurd hrow (Relation.not_mem_empty _)
  step s c s' h hstep := by
    obtain ⟨⟨-, hexec⟩, ho⟩ := hstep
    have he := exec_effect c.1 s.db
    rw [hexec] at he
    exact h.step ho he

end AutomationTool.ControlPlane
