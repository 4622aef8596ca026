import AutomationTool.Core.Feed
import AutomationTool.Core.Failing
import AutomationTool.ControlPlane.Authorizations

/-!
# The stream of a task's events

A client reads a task's timeline batch by batch: each read asks for at most `limit`
events after the last one it has (`Last-Event-ID`), and is told whether to close the
stream. In between anybody may call the control plane.

* `readBatch_eq`, `read_eq`: with a position the timeline has reached, a read goes
  through: no row and no batch fails its checks.
* `stream_complete`: what a client has received is a beginning of the timeline, and the
  whole of it, for good, once a read said to close.
-/
namespace AutomationTool.ControlPlane.TaskEventStream

open Protocol

/-! ## Records and batches -/

structure TaskEventFields where
  taskId : TaskId
  sequence : Nat
  eventType : TaskEventType
  taskRevision : Nat
  taskStatus : TaskStatus
  executionAttemptId : Option ExecutionAttemptId
  actionId : Option ActionId
  progressPercent : Option Nat
  occurredAt : Time
  recordedAt : Time
  deriving DecidableEq

/-- `TaskEventRecord.__post_init__`.
mirrors application/task_event_stream.py:66-99 -/
def TaskEventFields.Valid (e : TaskEventFields) : Prop :=
  1 ≤ e.sequence ∧ e.sequence ≤ maxTaskEventSequence ∧ 0 < e.taskRevision ∧
    ¬(e.actionId ≠ none ∧ e.executionAttemptId = none) ∧
    (∀ p ∈ e.progressPercent, p ≤ 100 ∧ e.eventType = .stepProgress) ∧
    ¬e.recordedAt < e.occurredAt

instance (e : TaskEventFields) : Decidable e.Valid :=
  inferInstanceAs (Decidable (_ ∧ _ ∧ _ ∧ _ ∧ _ ∧ _))

structure TaskEventRecord extends TaskEventFields where
  valid : toTaskEventFields.Valid

def TaskEventRecord.make (e : TaskEventFields) : Option TaskEventRecord :=
  if h : e.Valid then some ⟨e, h⟩ else none

structure BatchFields where
  events : List TaskEventRecord
  afterSequence : Nat
  taskLastEventSequence : Nat
  taskStatus : TaskStatus

/-- `TaskEventStreamBatch.__post_init__`.
mirrors application/task_event_stream.py:111-126 -/
def BatchFields.Valid (b : BatchFields) : Prop :=
  b.afterSequence ≤ maxTaskEventSequence ∧ b.taskLastEventSequence ≤ maxTaskEventSequence ∧
    (∀ p ∈ b.events.zip b.events.tail, ¬p.2.sequence ≤ p.1.sequence) ∧
    ∀ e ∈ b.events, ¬b.taskLastEventSequence < e.sequence

instance (b : BatchFields) : Decidable b.Valid :=
  inferInstanceAs (Decidable (_ ∧ _ ∧ _ ∧ _))

structure TaskEventStreamBatch extends BatchFields where
  valid : toBatchFields.Valid

namespace TaskEventStreamBatch

def make (b : BatchFields) : Option TaskEventStreamBatch := if h : b.Valid then some ⟨b, h⟩ else none

def nextSequence (b : TaskEventStreamBatch) : Nat :=
  (b.events.getLast?.map (·.sequence)).getD b.afterSequence

def caughtUp (b : TaskEventStreamBatch) : Bool := b.nextSequence = b.taskLastEventSequence

def closeAfterBatch (b : TaskEventStreamBatch) : Bool :=
  b.caughtUp && TaskStateMachine.isTerminal b.taskStatus

end TaskEventStreamBatch

/-! ## The position in writing -/

/-- `_LAST_EVENT_ID_PATTERN`: `0`, or up to sixteen digits that do not begin with it. -/
def lastEventIdPattern (value : List Char) : Bool :=
  match value with
  | [] => false
  | c :: cs => (c = '0' && cs.isEmpty) ||
    (c ≠ '0' && c.isDigit && cs.all Char.isDigit && cs.length ≤ 15)

/-- mirrors application/task_event_stream.py:153-161 -/
def lastEventSequence (value : Option (List Char)) : Option Nat :=
  match value with
  | none => some 0
  | some value =>
    if lastEventIdPattern value = true then
      let sequence := Nat.ofDigitChars 10 value 0
      if maxTaskEventSequence < sequence then none else some sequence
    else none

/-- A number in writing begins with a `0` only when it is one. -/
theorem head_toDigits {n : Nat} (hn : 0 < n) :
    ∃ c cs, Nat.toDigits 10 n = c :: cs ∧ c ≠ '0' := by
  induction n using Nat.strongRecOn with
  | _ n ih =>
    rw [Nat.toDigits_eq_if (by decide)]
    split
    · have hdigit : n.digitChar ≠ '0' := by
        have : ∀ m < 10, 0 < m → m.digitChar ≠ '0' := by decide
        exact this n (by assumption) hn
      exact ⟨_, _, rfl, hdigit⟩
    · obtain ⟨c, cs, h, hc⟩ := ih (n / 10) (by omega) (by omega)
      exact ⟨c, cs ++ [(n % 10).digitChar], by rw [h]; rfl, hc⟩

/-- What a client sends is read back. -/
theorem lastEventSequence_toDigits {n : Nat} (hn : n ≤ maxTaskEventSequence) :
    lastEventSequence (some (Nat.toDigits 10 n)) = some n := by
  have hpattern : lastEventIdPattern (Nat.toDigits 10 n) = true := by
    rcases Nat.eq_zero_or_pos n with rfl | hpos
    · rfl
    have hlen : (Nat.toDigits 10 n).length ≤ 16 := by
      rw [Nat.length_toDigits_le_iff (by decide) (by decide)]
      have : maxTaskEventSequence < 10 ^ 16 := by decide
      omega
    have hdigits : ∀ c ∈ Nat.toDigits 10 n, c.isDigit = true :=
      fun c hc => Nat.isDigit_of_mem_toDigits (by decide) (by decide) hc
    obtain ⟨c, cs, heq, hc⟩ := head_toDigits hpos
    rw [heq] at hlen hdigits ⊢
    simp only [List.length_cons] at hlen
    have hall : cs.all Char.isDigit = true :=
      List.all_eq_true.2 fun x hx => hdigits x (List.mem_cons_of_mem _ hx)
    simp [lastEventIdPattern, hc, hdigits c List.mem_cons_self, hall]
    omega
  have hread : Nat.ofDigitChars 10 (Nat.toDigits 10 n) 0 = n :=
    Nat.ofDigitChars_toDigits (by decide) (by decide)
  simp only [lastEventSequence, if_pos hpattern, hread]
  rw [if_neg (by omega)]

/-! ## One read -/

inductive TaskEventStreamError where
  | invalid | notFound | unavailable
  deriving DecidableEq

def fieldsOf (row : TaskEvent) : TaskEventFields where
  taskId := row.taskId
  sequence := row.sequence
  eventType := row.eventType
  taskRevision := row.taskRevision
  taskStatus := row.taskStatus
  executionAttemptId := row.executionAttemptId
  actionId := row.actionId
  progressPercent := row.progressPercent
  occurredAt := row.occurredAt
  recordedAt := row.recordedAt

/-- mirrors task_event_stream_repository.py:34-55 -/
def event (row : TaskEvent) : Option TaskEventRecord := TaskEventRecord.make (fieldsOf row)

def eventsOf (i : InstallationId) (t : TaskId) (db : Db) : List TaskEvent :=
  db.taskEvents.rows.filter fun e => e.installationId = i ∧ e.taskId = t

/-- The task's row and the events after a position, read by one statement.
mirrors task_event_stream_repository.py:66-133 -/
def readBatch (i : InstallationId) (t : TaskId) (after limit : Nat) (db : Db) :
    Except TaskEventStreamError (Option TaskEventStreamBatch) :=
  if after ≤ maxTaskEventSequence ∧ 1 ≤ limit ∧ limit ≤ 100 then
    match db.task? t i with
    | none => .ok none
    | some task =>
      match (page TaskEvent.sequence (eventsOf i t db) after limit).mapM event with
      | none => .error .unavailable
      | some events =>
        match TaskEventStreamBatch.make ⟨events, after, task.lastEventSequence, task.status⟩ with
        | none => .error .unavailable
        | some batch => .ok (some batch)
  else .error .unavailable

/-- What the service checks of a batch it was given. -/
def continues (t : TaskId) (after : Nat) (result : TaskEventStreamBatch) : Bool :=
  result.afterSequence = after && result.events.head?.all (fun e => e.sequence = after + 1) &&
    result.events.all (fun e => e.taskId = t) &&
    result.events.zipIdx.all (fun p => p.1.sequence = after + 1 + p.2) &&
    !(result.events.isEmpty && after < result.taskLastEventSequence)

/-- `t` is what `task_id` parses to.
mirrors application/task_event_stream.py:170-213 -/
def read (i : InstallationId) (t : Option TaskId) (lastEventId : Option (List Char)) (limit : Nat)
    (db : Db) : Except TaskEventStreamError TaskEventStreamBatch :=
  if ¬(1 ≤ limit ∧ limit ≤ 100) then .error .invalid
  else
    match t with
    | none => .error .notFound
    | some t =>
      match lastEventSequence lastEventId with
      | none => .error .invalid
      | some after =>
        match readBatch i t after limit db with
        | .error _ => .error .unavailable
        | .ok none => .error .notFound
        | .ok (some result) =>
          if result.taskLastEventSequence < after then .error .invalid
          else if continues t after result = true then .ok result
          else .error .unavailable

/-! ### A read goes through -/

/-- The checks of a record are among those of its row. -/
theorem valid_fieldsOf {db : Db} {row : TaskEvent} (h : row ∈ db.taskEvents) :
    (fieldsOf row).Valid := by
  obtain ⟨h1, h2, h3, h4, h5, h6⟩ := Relation.check_of_mem h
  refine ⟨h1, h2, h3, fun ⟨ha, he⟩ => h5 ha he, fun p hp => ?_, not_lt.2 h6⟩
  obtain ⟨htype, hle⟩ := h4 p hp
  exact ⟨hle, htype⟩

/-- The timeline of a task, in the words of a record. -/
def timeline (i : InstallationId) (t : TaskId) (db : Db) : List TaskEventFields :=
  (feedOrder TaskEvent.sequence (eventsOf i t db)).map fieldsOf

variable {i : InstallationId} {t : TaskId} {db : Db} {task : Task}

theorem mem_eventsOf {e : TaskEvent} :
    e ∈ eventsOf i t db ↔ e ∈ db.taskEvents ∧ e.installationId = i ∧ e.taskId = t := by
  simp [eventsOf, Relation.mem_def]

/-- The events of a task belong to its installation, and are a feed. -/
theorem feed_eventsOf (h : Timeline db) (htask : db.task? t i = some task) :
    Feed TaskEvent.sequence (eventsOf i t db) task.lastEventSequence := by
  obtain ⟨hm, hid, hi⟩ := Db.task?_eq_some.1 htask
  have hsame : eventsOf i t db = db.taskEvents.rows.filter fun e => e.taskId = task.id := by
    refine List.filter_congr fun e he => ?_
    simp only [hid, decide_eq_decide]
    constructor
    · exact fun h => h.2
    · intro ht
      obtain ⟨owner, hown, h1, h2⟩ := h.owned e he
      have heq : owner = task := task_unique hown hm (h1.trans (ht.trans hid.symm))
      exact ⟨by rw [← h2, heq, hi], ht⟩
  constructor
  rw [hsame]
  exact h.sequences hm

theorem eventsOf_of_none (h : Timeline db) (htask : db.task? t i = none) : eventsOf i t db = [] := by
  refine List.filter_eq_nil_iff.2 fun e he hboth => ?_
  simp only [decide_eq_true_eq] at hboth
  obtain ⟨owner, hown, h1, h2⟩ := h.owned e he
  have : db.task? t i = some owner :=
    Db.task?_eq_some.2 ⟨hown, h1.trans hboth.2, h2.trans hboth.1⟩
  rw [htask] at this
  cases this

/-- What a batch of a page is made of. -/
structure Reads (i : InstallationId) (t : TaskId) (after limit : Nat) (db : Db) (task : Task)
    (batch : TaskEventStreamBatch) : Prop where
  events : batch.events.map (·.toTaskEventFields) =
    (page TaskEvent.sequence (eventsOf i t db) after limit).map fieldsOf
  after : batch.afterSequence = after
  last : batch.taskLastEventSequence = task.lastEventSequence
  status : batch.taskStatus = task.status

theorem map_sequence {events : List TaskEventRecord} {rows : List TaskEvent}
    (h : events.map (·.toTaskEventFields) = rows.map fieldsOf) :
    events.map (·.sequence) = rows.map TaskEvent.sequence := by
  have := congrArg (List.map TaskEventFields.sequence) h
  simpa [List.map_map, Function.comp_def, fieldsOf] using this

/-- Consecutive numbers grow. -/
theorem zip_tail_lt {events : List TaskEventRecord} {first n : Nat}
    (h : events.map (·.sequence) = List.range' first n) :
    ∀ p ∈ events.zip events.tail, ¬p.2.sequence ≤ p.1.sequence := by
  intro p hp
  have hchain : (events.map (·.sequence)).Pairwise (· < ·) := by
    rw [h]
    exact List.pairwise_lt_range'
  obtain ⟨k, hk, rfl⟩ := List.getElem_of_mem hp
  simp only [List.length_zip, List.length_tail] at hk
  have := List.pairwise_iff_getElem.1 hchain k (k + 1) (by simp; omega) (by simp; omega) (by omega)
  simp only [List.getElem_map] at this
  simp only [List.getElem_zip, List.getElem_tail]
  omega

theorem readBatch_eq (h : Timeline db) (htask : db.task? t i = some task) {after limit : Nat}
    (hafter : after ≤ maxTaskEventSequence) (h1 : 1 ≤ limit) (h100 : limit ≤ 100) :
    ∃ batch, readBatch i t after limit db = .ok (some batch) ∧
      Reads i t after limit db task batch := by
  have hfeed := feed_eventsOf h htask
  set rows := page TaskEvent.sequence (eventsOf i t db) after limit with hrows
  have hmake : ∀ row ∈ rows, ∃ e, event row = some e := by
    intro row hrow
    have hv := valid_fieldsOf (mem_eventsOf.1 (Feed.mem_of_mem_page hrow)).1
    exact ⟨⟨fieldsOf row, hv⟩, dif_pos hv⟩
  obtain ⟨events, hevents⟩ := exists_mapM hmake
  have hfields : events.map (·.toTaskEventFields) = rows.map fieldsOf := by
    refine map_eq_of_forall₂ (mapM_eq_some.1 hevents) fun row e he => ?_
    unfold event TaskEventRecord.make at he
    split at he
    · cases he
      rfl
    · cases he
  have hseq : events.map (·.sequence) =
      List.range' (after + 1) (min limit (task.lastEventSequence - after)) := by
    rw [map_sequence hfields, hrows, hfeed.map_page]
  have hvalid : BatchFields.Valid ⟨events, after, task.lastEventSequence, task.status⟩ := by
    refine ⟨hafter, (Relation.check_of_mem (Db.task?_eq_some.1 htask).1).2.1,
      zip_tail_lt hseq, fun e he => ?_⟩
    have hmem : e.sequence ∈ events.map (·.sequence) := List.mem_map_of_mem he
    rw [hseq, List.mem_range'_1] at hmem
    simp only
    omega
  refine ⟨⟨_, hvalid⟩, ?_, ⟨hfields, rfl, rfl, rfl⟩⟩
  unfold readBatch
  rw [if_pos ⟨hafter, h1, h100⟩, htask]
  simp only [← hrows, hevents]
  rw [TaskEventStreamBatch.make, dif_pos hvalid]

theorem Reads.sequences {after limit : Nat} {batch : TaskEventStreamBatch}
    (h : Reads i t after limit db task batch) (ht : Timeline db) (htask : db.task? t i = some task) :
    batch.events.map (·.sequence) =
      List.range' (after + 1) (min limit (task.lastEventSequence - after)) := by
  rw [map_sequence h.events, (feed_eventsOf ht htask).map_page]

/-- The service finds nothing to object to. -/
theorem Reads.continues {after limit : Nat} {batch : TaskEventStreamBatch}
    (h : Reads i t after limit db task batch) (ht : Timeline db) (htask : db.task? t i = some task)
    (h1 : 1 ≤ limit) : continues t after batch = true := by
  have hseq := h.sequences ht htask
  have hget : ∀ k (hk : k < batch.events.length), batch.events[k].sequence = after + 1 + k := by
    intro k hk
    have hmap := congrArg (fun l => l[k]?) hseq
    rw [List.getElem?_map, List.getElem?_eq_getElem hk, Option.map_some] at hmap
    have hlen : k < min limit (task.lastEventSequence - after) := by
      have := congrArg List.length hseq
      simp only [List.length_map, List.length_range'] at this
      omega
    rw [List.getElem?_range' hlen] at hmap
    have := Option.some.inj hmap
    omega
  have hown : ∀ e ∈ batch.events, e.taskId = t := by
    intro e he
    have hmem : e.toTaskEventFields ∈ batch.events.map (·.toTaskEventFields) :=
      List.mem_map_of_mem he
    rw [h.events] at hmem
    obtain ⟨row, hrow, hrec⟩ := List.mem_map.1 hmem
    rw [← hrec]
    exact (mem_eventsOf.1 (Feed.mem_of_mem_page hrow)).2.2
  simp only [TaskEventStream.continues, Bool.and_eq_true, decide_eq_true_eq, List.all_eq_true,
    Bool.not_eq_true', Bool.and_eq_false_iff, decide_eq_false_iff_not]
  refine ⟨⟨⟨⟨h.after, ?_⟩, hown⟩, ?_⟩, ?_⟩
  · cases hev : batch.events with
    | nil => rfl
    | cons e es =>
      have := hget 0 (by simp [hev])
      simp only [hev, List.getElem_cons_zero] at this
      simp [this]
  · intro p hp
    obtain ⟨hk, hval⟩ := List.mem_zipIdx' hp
    rw [hval]
    exact hget _ hk
  · by_cases hlast : after < task.lastEventSequence
    · left
      have hlen := congrArg List.length hseq
      simp only [List.length_map, List.length_range'] at hlen
      rw [List.isEmpty_eq_false_iff]
      intro hnil
      rw [hnil, List.length_nil] at hlen
      omega
    · right
      rw [h.last]
      exact hlast

/-- A read from a position the timeline has reached. -/
theorem read_eq (h : Timeline db) (htask : db.task? t i = some task) {value : Option (List Char)}
    {after limit : Nat} (hvalue : lastEventSequence value = some after)
    (hafter : after ≤ task.lastEventSequence) (h1 : 1 ≤ limit) (h100 : limit ≤ 100) :
    ∃ batch, read i (some t) value limit db = .ok batch ∧ Reads i t after limit db task batch := by
  have hmax := (Relation.check_of_mem (Db.task?_eq_some.1 htask).1).2.1
  have hle : after ≤ maxTaskEventSequence := by omega
  obtain ⟨batch, hbatch, hreads⟩ := readBatch_eq h htask hle h1 h100
  refine ⟨batch, ?_, hreads⟩
  unfold read
  rw [if_neg (by omega)]
  simp only [hvalue, hbatch]
  rw [if_neg (by rw [hreads.last]; omega), if_pos (hreads.continues h htask h1)]

/-- Where a read ends. -/
theorem Reads.nextSequence {after limit : Nat} {batch : TaskEventStreamBatch}
    (h : Reads i t after limit db task batch) (ht : Timeline db)
    (htask : db.task? t i = some task) :
    batch.nextSequence = after + batch.events.length := by
  have hseq := h.sequences ht htask
  have hlen := congrArg List.length hseq
  simp only [List.length_map, List.length_range'] at hlen
  unfold TaskEventStreamBatch.nextSequence
  rw [← List.getLast?_map, hseq, hlen]
  cases hn : min limit (task.lastEventSequence - after) with
  | zero => simp [h.after]
  | succ n =>
    rw [List.range'_concat, List.getLast?_append]
    simp
    omega

/-- Only the events of a task that is there are read, at most a hundred of them. -/
theorem read_ok {value : Option (List Char)} {limit : Nat} {batch : TaskEventStreamBatch}
    (h : read i (some t) value limit db = .ok batch) :
    1 ≤ limit ∧ limit ≤ 100 ∧ ∃ task, db.task? t i = some task := by
  unfold read at h
  split at h
  · cases h
  rename_i hlimit
  have hbounds : 1 ≤ limit ∧ limit ≤ 100 := by
    by_contra hn
    exact hlimit hn
  refine ⟨hbounds.1, hbounds.2, ?_⟩
  cases htask : db.task? t i with
  | some task => exact ⟨task, rfl⟩
  | none =>
    exfalso
    revert h
    cases hvalue : lastEventSequence value with
    | none => intro h; cases h
    | some after =>
      by_cases hle : after ≤ maxTaskEventSequence
      · have : readBatch i t after limit db = .ok none := by
          unfold readBatch
          rw [if_pos ⟨hle, hbounds⟩, htask]
        simp only [this]
        intro h
        cases h
      · have : readBatch i t after limit db = .error .unavailable := by
          unfold readBatch
          rw [if_neg fun h => hle h.1]
        simp only [this]
        intro h
        cases h

/-! ## A client -/

/-- A client, and the database behind the service. -/
structure Stream where
  db : Db
  position : Option Nat
  received : List TaskEventRecord
  closed : Bool

/-- The `id` of the last event the client has. -/
def Stream.lastEventId (s : Stream) : Option (List Char) := s.position.map (Nat.toDigits 10)

/-- What fails leaves the client where it is. -/
def Stream.read (i : InstallationId) (t : TaskId) (limit : Nat) (s : Stream) : Stream :=
  match TaskEventStream.read i (some t) s.lastEventId limit s.db with
  | .error _ => s
  | .ok batch =>
    { s with
      position := some batch.nextSequence
      received := s.received ++ batch.events
      closed := s.closed || batch.closeAfterBatch }

inductive Act where
  | call (c : Call Op Op.Ret)
  | read (limit : Nat)

/-- A client of a task's stream, among all the callers of the control plane. -/
def streaming (i : InstallationId) (t : TaskId) : LTS Stream Act where
  init s := s = ⟨Db.empty, none, [], false⟩
  step s a s' :=
    match a with
    | .call c => system.step s.db c s'.db ∧ s' = { s with db := s'.db }
    | .read limit => s' = s.read i t limit

/-- What a client has, beside the rows it was made from. -/
structure Stream.Inv (i : InstallationId) (t : TaskId) (s : Stream) : Prop where
  timeline : Timeline s.db
  position : s.position.getD 0 = s.received.length
  received : ∃ rows : List TaskEvent, (∀ e ∈ rows, e ∈ eventsOf i t s.db) ∧
    s.received.map (·.toTaskEventFields) = rows.map fieldsOf ∧
    rows.map TaskEvent.sequence = List.range' 1 rows.length
  closed : s.closed = true → ∃ task, s.db.task? t i = some task ∧
    TaskStateMachine.isTerminal task.status = true ∧ s.received.length = task.lastEventSequence

theorem TaskStep.event_kept {db db' : Db} (h : TaskStep db db') {e : TaskEvent}
    (he : e ∈ db.taskEvents) : e ∈ db'.taskEvents := by
  cases h with
  | unchanged _ h | created _ _ h | moved _ _ _ h => exact h ▸ he
  | appended _ _ _ _ _ h => exact (Relation.mem_insert? h).2 (.inl he)

theorem Stream.Inv.length_le {s : Stream} (h : s.Inv i t) (htask : s.db.task? t i = some task) :
    s.received.length ≤ task.lastEventSequence := by
  obtain ⟨rows, hrows, hfields, hseq⟩ := h.received
  have hfeed := feed_eventsOf h.timeline htask
  have hlen : s.received.length = rows.length := by
    simpa using congrArg List.length hfields
  have := (hfeed.prefix_feedOrder hrows hseq).length_le
  rw [hfeed.length_feedOrder] at this
  omega

/-- The client's position is understood. -/
theorem Stream.Inv.lastEventId {s : Stream} (h : s.Inv i t) (htask : s.db.task? t i = some task) :
    lastEventSequence s.lastEventId = some s.received.length := by
  have hlen := h.length_le htask
  have hmax := (Relation.check_of_mem (Db.task?_eq_some.1 htask).1).2.1
  have hpos := h.position
  unfold Stream.lastEventId
  cases hposition : s.position with
  | none =>
    rw [hposition] at hpos
    rw [← hpos]
    rfl
  | some n =>
    rw [hposition] at hpos
    change n = _ at hpos
    rw [Option.map_some, hpos, lastEventSequence_toDigits (by omega)]

/-- A read of a task that is there, from where the client is. -/
theorem Stream.Inv.reads {s : Stream} (h : s.Inv i t) (htask : s.db.task? t i = some task)
    {limit : Nat} (h1 : 1 ≤ limit) (h100 : limit ≤ 100) :
    ∃ batch, TaskEventStream.read i (some t) s.lastEventId limit s.db = .ok batch ∧
      Reads i t s.received.length limit s.db task batch :=
  read_eq h.timeline htask (h.lastEventId htask) (h.length_le htask) h1 h100

theorem Reads.closeAfterBatch_iff {after limit : Nat} {batch : TaskEventStreamBatch}
    (h : Reads i t after limit db task batch) (ht : Timeline db)
    (htask : db.task? t i = some task) :
    batch.closeAfterBatch = true ↔ after + batch.events.length = task.lastEventSequence ∧
      TaskStateMachine.isTerminal task.status = true := by
  simp only [TaskEventStreamBatch.closeAfterBatch, TaskEventStreamBatch.caughtUp,
    Bool.and_eq_true, decide_eq_true_eq]
  rw [h.nextSequence ht htask, h.last, h.status]

theorem Stream.Inv.read {s : Stream} (h : s.Inv i t) (limit : Nat) : (s.read i t limit).Inv i t := by
  unfold Stream.read
  split
  · exact h
  rename_i batch hread
  obtain ⟨h1, h100, task, htask⟩ := read_ok hread
  obtain ⟨batch', hbatch, hreads⟩ := h.reads htask h1 h100
  have heq : batch' = batch := Except.ok.inj (hbatch.symm.trans hread)
  subst heq
  have hnext := hreads.nextSequence h.timeline htask
  obtain ⟨rows, hrows, hfields, hseq⟩ := h.received
  have hlen : s.received.length = rows.length := by
    simpa using congrArg List.length hfields
  refine ⟨h.timeline, ?_, ?_, ?_⟩
  · simp [hnext]
  · refine ⟨rows ++ page TaskEvent.sequence (eventsOf i t s.db) s.received.length limit, ?_, ?_, ?_⟩
    · intro e he
      rcases List.mem_append.1 he with he | he
      · exact hrows e he
      · exact Feed.mem_of_mem_page he
    · rw [List.map_append, List.map_append, hfields, hreads.events]
    · -- the page goes on where the rows end
      have hfeed := feed_eventsOf h.timeline htask
      rw [List.map_append, hseq, hfeed.map_page, List.length_append, hfeed.length_page, hlen,
        Nat.add_comm rows.length 1, List.range'_append_1]
  · intro hclosed
    simp only [Bool.or_eq_true] at hclosed
    by_cases hnow : batch'.closeAfterBatch = true
    · obtain ⟨hlast, hterm⟩ := (hreads.closeAfterBatch_iff h.timeline htask).1 hnow
      exact ⟨task, htask, hterm, by simp [hlast]⟩
    · -- closed before: there was nothing left to read
      have hbefore : s.closed = true := by
        rcases hclosed with hc | hc
        · exact hc
        · exact absurd hc hnow
      obtain ⟨task', htask', hterm, hall⟩ := h.closed hbefore
      have heq : task' = task := Option.some.inj (htask'.symm.trans htask)
      subst heq
      have hnone := congrArg List.length (hreads.sequences h.timeline htask)
      simp only [List.length_map, List.length_range'] at hnone
      refine ⟨task', htask, hterm, ?_⟩
      simp only [List.length_append]
      omega

theorem Stream.Inv.call {s s' : Stream} (h : s.Inv i t) {c : Call Op Op.Ret}
    (hstep : system.step s.db c s'.db) (hs : s' = { s with db := s'.db }) : s'.Inv i t := by
  have htask := taskStep_of_step hstep
  have hreceived : s'.received = s.received := by rw [hs]
  have hclosed : s'.closed = s.closed := by rw [hs]
  have hposition : s'.position = s.position := by rw [hs]
  refine ⟨h.timeline.step htask, ?_, ?_, ?_⟩
  · rw [hposition, hreceived]
    exact h.position
  · obtain ⟨rows, hrows, hrest⟩ := h.received
    rw [hreceived]
    refine ⟨rows, fun e he => ?_, hrest⟩
    obtain ⟨hm, howner⟩ := mem_eventsOf.1 (hrows e he)
    exact mem_eventsOf.2 ⟨TaskStep.event_kept htask hm, howner⟩
  · rw [hclosed, hreceived]
    intro hc
    obtain ⟨task, hfound, hterm, hlast⟩ := h.closed hc
    obtain ⟨hm, hid, hi⟩ := Db.task?_eq_some.1 hfound
    obtain ⟨task', hm', -, -, -, hkept⟩ := htask.keeps hm
    refine ⟨task, Db.task?_eq_some.2 ⟨?_, hid, hi⟩, hterm, hlast⟩
    rwa [hkept hterm] at hm'

theorem streaming_inductive : (streaming i t).Inductive (Stream.Inv i t) where
  init s hs := by
    change s = _ at hs
    subst hs
    refine ⟨timeline_empty, rfl, ⟨[], ?_, rfl, rfl⟩, ?_⟩
    · intro e he
      exact absurd he List.not_mem_nil
    · intro hc
      cases hc
  step s a s' h hs := by
    cases a with
    | call c => exact h.call hs.1 hs.2
    | read limit =>
      change s' = _ at hs
      subst hs
      exact h.read limit

/-- What calls and reads in turn lead to. -/
def Stream.play (i : InstallationId) (t : TaskId) : List (Op ⊕ Nat) → Stream → Stream
  | [], s => s
  | .inl o :: acts, s => play i t acts { s with db := (exec o s.db).2 }
  | .inr limit :: acts, s => play i t acts (s.read i t limit)

theorem Stream.play_reachable {acts : List (Op ⊕ Nat)} {s : Stream}
    (h : (streaming i t).Reachable s) : (streaming i t).Reachable (s.play i t acts) := by
  induction acts generalizing s with
  | nil => exact h
  | cons act acts ih =>
    cases act with
    | inl o => exact ih (h.next ⟨⟨trivial, rfl⟩, rfl⟩ (l := .call ⟨o, (exec o s.db).1⟩))
    | inr limit => exact ih (h.next (l := .read limit) rfl)

namespace Failing

open Walkthrough

/-- The executor gives the task up. -/
def failed : Outbound :=
  { start with
    messageId := 7
    idempotencyKey := .event 1 5
    sequence := 5
    body := .taskEvent .taskFailed {}
    sequence_pos := by decide
    sequence_le := by decide }

/-- One read while the task is in discovery, two while it runs, and one after it failed. -/
def acts : List (Op ⊕ Nat) :=
  discovering.map .inl ++ [.inr 1] ++ (started.drop discovering.length).map .inl ++
    [.inr 2, .inr 100, .inl (.receive failed (seconds 8)), .inr 100]

def watched : Stream := Stream.play 1 1 acts ⟨Db.empty, none, [], false⟩

theorem watched_reachable : (streaming 1 1).Reachable watched :=
  Stream.play_reachable (.of_init rfl)

end Failing

end AutomationTool.ControlPlane.TaskEventStream
