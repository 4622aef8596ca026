import AutomationTool.ControlPlane.TaskEventStream
import AutomationTool.ControlPlane.TaskMoments
import AutomationTool.Desktop.TaskProjectionReducer

/-!
# A task as its client shows it

The control plane with one client that follows a task: the calls of the one and the actions of the
other come in any order. A snapshot that arrives answers a query of some time, and an event is one
of the database's; they may be of other tasks, and may be late, repeated, lost or damaged.

* `watched_inductive`: the client shows a moment of the row's past, with events of the task.
* `batch_taken`: from there the stream of events leads it to the row's last event.
* `task_shown`: it is never ahead of the row, and a task that it shows as over is over.
* `task_followed`: it can always go on.
-/
namespace AutomationTool.Desktop.TaskRuns

open ControlPlane (Op RecordedDb Remembered Remembers TaskStatus recording)
open ControlPlane.TaskStateMachine (isTerminal)
open ControlPlane.TaskEventStream (TaskEventFields fieldsOf lastEventSequence_toDigits mem_eventsOf
  read read_eq)
open Protocol (TaskId)

/-- What the API makes of ids, times and messages. -/
structure Wire where
  uuid : Nat → List Char
  time : Protocol.Time → List Char
  message : TaskEventFields → Option (List Char)
  distinct : Function.Injective uuid

namespace Wire

variable (w : Wire)

/-- `_task_response`.
mirrors api/tasks.py:148-156 -/
def taskResponse (task : ControlPlane.Task) : TaskSnapshot where
  taskId := w.uuid task.id
  status := task.status
  revision := task.revision
  lastEventSequence := task.lastEventSequence
  createdAt := w.time task.createdAt
  updatedAt := w.time task.updatedAt

/-- `_event_frame`.
mirrors api/task_event_stream.py:69-93 -/
def eventFrame (event : TaskEventFields) : TaskEvent where
  taskId := w.uuid event.taskId
  sequence := event.sequence
  eventType := event.eventType
  taskRevision := event.taskRevision
  taskStatus := event.taskStatus
  executionAttemptId := event.executionAttemptId.map w.uuid
  actionId := event.actionId.map w.uuid
  progressPercent := event.progressPercent
  occurredAt := w.time event.occurredAt
  recordedAt := w.time event.recordedAt
  message := w.message event

end Wire

structure Watch extends RecordedDb where
  view : TaskProjectionState

inductive WatchCall where
  | operate (call : Call Op Op.Ret)
  | receive (action : TaskProjectionAction)

/-- What arrives, if it parses at all, is an answer of the control plane. -/
def Answered (w : Wire) (s : RecordedDb) : TaskProjectionAction → Prop
  | .snapshotLoaded value =>
    ∀ t, parseTaskSnapshot value = some t → ∃ id row, s.Row id row ∧ t = w.taskResponse row
  | .eventReceived value =>
    ∀ e, parseTaskEvent value = some e → ∃ event ∈ s.db.taskEvents, e = w.eventFrame (fieldsOf event)
  | .recoveryRequired _ | .recoveryExhausted _ => True

def watching (w : Wire) (id : TaskId) : LTS Watch WatchCall where
  init s := recording.Reachable s.toRecordedDb ∧ (∃ task ∈ s.db.tasks, task.id = id) ∧
    s.view = createTaskProjectionState (w.uuid id)
  step s call s' :=
    match call with
    | .operate call => recording.step s.toRecordedDb call s'.toRecordedDb ∧ s'.view = s.view
    | .receive action => Answered w s.toRecordedDb action ∧ s'.toRecordedDb = s.toRecordedDb ∧
        s'.view = reduceTaskProjection s.view action

variable {w : Wire} {id : TaskId} {s : RecordedDb} {task : ControlPlane.Task}
  {moments : List (Moment TaskStatus)} {events : List ControlPlane.TaskEvent}

/-- The history of a task that the control plane remembers. -/
def historyOf (w : Wire) (hp : Remembers s task moments events) : TaskHistory where
  taskId := w.uuid task.id
  moments := task.moment :: moments
  events := events.map fun event => w.eventFrame (fieldsOf event)
  past := by
    rw [List.map_map]
    exact hp.past
  owned := by
    intro e he
    obtain ⟨event, hevent, rfl⟩ := List.mem_map.1 he
    exact congrArg w.uuid ((hp.written event).1 hevent).2

/-- A longer history shows what a shorter one does. -/
theorem Shows.mono {h h' : TaskHistory} {view : TaskProjectionState} (hs : Shows h view)
    (hid : h'.taskId = h.taskId) (hmoments : ∀ m ∈ h.moments, m ∈ h'.moments)
    (hevents : ∀ e ∈ h.events, e ∈ h'.events) : Shows h' view where
  taskId := hs.taskId.trans hid.symm
  moment t ht := hmoments _ (hs.moment t ht)
  events e he := hevents e (hs.events e he)
  run := hs.run
  retained := hs.retained
  terminal := hs.terminal

theorem served_of_answered (hp : Remembers s task moments events) {action : TaskProjectionAction}
    (ha : Answered w s action) : Served (historyOf w hp) action := by
  cases action with
  | recoveryRequired | recoveryExhausted => trivial
  | snapshotLoaded value =>
    intro t hparse hid
    obtain ⟨id, row, hrow, rfl⟩ := ha t hparse
    have hrow' : s.Row task.id row := ⟨w.distinct hid, hrow.2⟩
    exact (hp.rows _).2 ⟨row, hrow', rfl⟩
  | eventReceived value =>
    intro e hparse hid
    obtain ⟨event, hevent, rfl⟩ := ha e hparse
    exact List.mem_map_of_mem ((hp.written event).2 ⟨hevent, w.distinct hid⟩)

/-- The client shows a moment of the row's past, with events of the task. -/
structure Watched (w : Wire) (id : TaskId) (s : Watch) : Prop where
  remembered : Remembered s.toRecordedDb
  shows : ∃ task ∈ s.db.tasks, task.id = id ∧ ∃ moments events,
    ∃ hp : Remembers s.toRecordedDb task moments events, Shows (historyOf w hp) s.view

theorem Watched.operate {s s' : Watch} (h : Watched w id s) {call : Call Op Op.Ret}
    (hstep : recording.step s.toRecordedDb call s'.toRecordedDb) (hview : s'.view = s.view) :
    Watched w id s' := by
  have hremembered := ControlPlane.remembered_inductive.step _ _ _ h.remembered hstep
  obtain ⟨hcall, ho⟩ := hstep
  obtain ⟨task, hm, rfl, moments, events, hp, hshows⟩ := h.shows
  have hrow (row : ControlPlane.Task) (hr : s.Row task.id row) : s'.Row task.id row := by
    obtain ⟨hid, db, hdb, hmem⟩ := hr
    refine ⟨hid, db, ?_, hmem⟩
    rw [ho]
    exact List.mem_cons_of_mem _ hdb
  obtain ⟨task', hm', hid⟩ := hremembered.kept _ _ (hrow task (RecordedDb.row_self hm))
  obtain ⟨moments', events', hp'⟩ := hremembered.past task' hm'
  refine ⟨hremembered, task', hm', hid, moments', events', hp', ?_⟩
  rw [hview]
  apply hshows.mono (congrArg w.uuid hid)
  · intro m hmem
    obtain ⟨row, hr, rfl⟩ := (hp.rows m).1 hmem
    exact (hp'.rows _).2 ⟨row, hid ▸ hrow row hr, rfl⟩
  · intro e he
    obtain ⟨event, hevent, rfl⟩ := List.mem_map.1 he
    obtain ⟨hwritten, howner⟩ := (hp.written event).1 hevent
    apply List.mem_map_of_mem
    exact (hp'.written event).2
      ⟨(ControlPlane.taskStep_of_step hcall).events_kept hwritten, howner.trans hid.symm⟩

theorem watched_inductive (w : Wire) (id : TaskId) : (watching w id).Inductive (Watched w id) where
  init s hs := by
    obtain ⟨hreachable, ⟨task, hm, rfl⟩, hview⟩ := hs
    have hremembered := ControlPlane.remembered_inductive.reachable hreachable
    obtain ⟨moments, events, hp⟩ := hremembered.past task hm
    refine ⟨hremembered, task, hm, rfl, moments, events, hp, ?_⟩
    rw [hview]
    exact shows_create
  step s call s' h hstep := by
    cases call with
    | operate call => exact h.operate hstep.1 hstep.2
    | receive action =>
      obtain ⟨ha, hs, hview⟩ := hstep
      obtain ⟨hremembered, task, hm, hid, moments, events, hp, hshows⟩ := h
      have hreduced := hshows.reduce (served_of_answered hp ha)
      rw [← hview] at hreduced
      obtain ⟨recorded', view'⟩ := s'
      cases hs
      exact ⟨hremembered, task, hm, hid, moments, events, hp, hreduced⟩

theorem isTerminal_of_mem {status : TaskStatus} (h : status ∈ terminalTaskStatuses) :
    isTerminal status = true := by
  revert status
  decide

/-- The stream goes on after what the client has, and the client takes the whole batch. -/
def CatchesUp (w : Wire) (db : ControlPlane.Db) (task : ControlPlane.Task)
    (view : TaskProjectionState) : Prop :=
  ∀ t, Following view t → ∀ limit, 1 ≤ limit → limit ≤ 100 →
    ∃ batch, read task.installationId (some task.id) (some (Nat.toDigits 10 t.lastEventSequence))
        limit db = .ok batch ∧
      ∀ values, values.map parseTaskEvent =
          batch.events.map (fun event => some (w.eventFrame event.toTaskEventFields)) →
        ∃ t', Following (receive view values) t' ∧
          t'.lastEventSequence = min (t.lastEventSequence + limit) task.lastEventSequence

theorem batch_taken {view : TaskProjectionState} (hp : Remembers s task moments events)
    (ht : ControlPlane.Timeline s.db) (hm : task ∈ s.db.tasks)
    (hshows : Shows (historyOf w hp) view) : CatchesUp w s.db task view := by
  intro t hf limit h1 h100
  have htask : s.db.task? task.id task.installationId = some task :=
    ControlPlane.Db.task?_eq_some.2 ⟨hm, rfl, rfl⟩
  have hle : t.lastEventSequence ≤ task.lastEventSequence :=
    (hp.past.le_head t.moment (hshows.moment t hf.held)).2
  have hmax := (Relation.check_of_mem hm).2.1
  obtain ⟨batch, hbatch, hreads⟩ :=
    read_eq ht htask (lastEventSequence_toDigits (hle.trans hmax)) hle h1 h100
  refine ⟨batch, hbatch, ?_⟩
  intro values hvalues
  have hseq := hreads.sequences ht htask
  have hlength := congrArg List.length hseq
  rw [List.length_map, List.length_range'] at hlength
  have hd : Delivery (historyOf w hp) (t.lastEventSequence + 1) values
      (batch.events.map fun event => w.eventFrame event.toTaskEventFields) := by
    refine ⟨?_, ?_, ?_⟩
    · rw [hvalues, List.map_map]
      rfl
    · intro e he
      obtain ⟨record, hrecord, rfl⟩ := List.mem_map.1 he
      have hmem : record.toTaskEventFields ∈ batch.events.map (·.toTaskEventFields) :=
        List.mem_map_of_mem hrecord
      rw [hreads.events] at hmem
      obtain ⟨row, hrow, hfields⟩ := List.mem_map.1 hmem
      obtain ⟨hwritten, -, hid⟩ := mem_eventsOf.1 (Feed.mem_of_mem_page hrow)
      rw [← hfields]
      exact List.mem_map.2 ⟨row, (hp.written row).2 ⟨hwritten, hid⟩, rfl⟩
    · rw [List.map_map, List.length_map, hlength]
      exact hseq
  obtain ⟨t', hf', hlast⟩ := deliver hf hshows hd (Nat.le_refl _)
  refine ⟨t', hf', ?_⟩
  rw [hlast, List.length_map, hlength]
  omega

/-- **What a client shows of a task**, whatever the control plane does and whatever arrives: the
row as it is or was, never ahead of it, with events of the task numbered on to it without a gap; a
task that it shows as over is over, exactly so; and what is shown never goes back. -/
theorem task_shown (w : Wire) (id : TaskId) :
    (∀ s, (watching w id).Reachable s → ∃ task ∈ s.db.tasks, task.id = id ∧
      (∀ t ∈ s.view.snapshot, (∃ row, s.Row id row ∧ row.moment = t.moment) ∧
        t.revision ≤ task.revision ∧ t.lastEventSequence ≤ task.lastEventSequence) ∧
      (∀ e ∈ s.view.events, ∃ event ∈ s.db.taskEvents, event.taskId = id ∧
        e = w.eventFrame (fieldsOf event)) ∧
      (∃ first, s.view.events.map (·.sequence) = List.range' first s.view.events.length ∧
        (s.view.events ≠ [] → ∃ t ∈ s.view.snapshot,
          first + s.view.events.length = t.lastEventSequence + 1)) ∧
      (s.view.phase = .terminal → ∃ t ∈ s.view.snapshot, t.moment = task.moment ∧
        isTerminal task.status = true)) ∧
    ∀ s calls s', (watching w id).Run s calls s' → Ahead s.view s'.view := by
  constructor
  · intro s hs
    obtain ⟨-, task, hm, rfl, moments, events, hp, hshows⟩ :=
      (watched_inductive w id).reachable hs
    refine ⟨task, hm, rfl, ?_, ?_, hshows.run, ?_⟩
    · intro t ht
      exact ⟨(hp.rows _).1 (hshows.moment t ht), hp.past.le_head t.moment (hshows.moment t ht)⟩
    · intro e he
      obtain ⟨event, hevent, rfl⟩ := List.mem_map.1 (hshows.events e he)
      obtain ⟨hwritten, hid⟩ := (hp.written event).1 hevent
      exact ⟨event, hwritten, hid, rfl⟩
    · intro hphase
      obtain ⟨t, ht, hstatus⟩ := hshows.terminal hphase
      have hterminal : isTerminal t.moment.status = true := isTerminal_of_mem hstatus
      -- only the row as it is can be terminal
      rcases List.mem_cons.1 (hshows.moment t ht) with hlast | holder
      · rw [hlast] at hterminal
        exact ⟨t, ht, hlast, hterminal⟩
      · rw [hp.live _ holder] at hterminal
        cases hterminal
  · intro s calls s' hrun
    induction hrun with
    | nil s => exact Ahead.refl _
    | @cons a b _ call _ hstep _ ih =>
      refine Ahead.trans ?_ ih
      cases call with
      | operate call =>
        rw [hstep.2]
        exact Ahead.refl _
      | receive action =>
        rw [hstep.2.2]
        exact ahead_reduce _ action

end AutomationTool.Desktop.TaskRuns
