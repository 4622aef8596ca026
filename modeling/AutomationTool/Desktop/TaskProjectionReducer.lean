import AutomationTool.Core.LTS
import AutomationTool.Core.Moments
import AutomationTool.Desktop.TaskProjections

/-!
# The client's projection of a task

The client keeps a snapshot of a task and the events that it received after it. Snapshots
and events come from two requests and may be late, repeated, lost or damaged; what does
not fit asks for a recovery, which is another snapshot.

A `TaskHistory` is what the server wrote of a task. The system `projecting` lets any value
arrive in any order, as long as what parses and names the task is a snapshot of some moment
of the history, or an event of it.

* `Shows`: what the client shows is a moment of the history, and the events it retains are
  those that led to it.
* `Ahead`: neither counter goes back.
* `deliver`: events that come in order after a snapshot are all taken.
-/
namespace AutomationTool.Desktop.TaskRuns

open ControlPlane (TaskStatus TaskEventType)

/-! ## The reducer -/

/-- `TERMINAL_TASK_STATUSES`.
mirrors task-projection-reducer.ts:10-16 -/
def terminalTaskStatuses : List TaskStatus :=
  [.succeeded, .partiallySucceeded, .failed, .cancelled, .outcomeUncertain]

def maxRetainedEvents : Nat := 200

inductive TaskProjectionRecoveryReason where
  | sequenceGap | incompatibleEvent | protocolMismatch | taskMismatch | revisionRegression
  | snapshotRegression | streamInterrupted
  deriving DecidableEq

inductive TaskProjectionPhase where
  | empty | live | terminal | refreshRequired | degraded
  deriving DecidableEq

structure TaskProjectionState where
  taskId : List Char
  phase : TaskProjectionPhase
  snapshot : Option TaskSnapshot
  events : List TaskEvent
  recoveryReason : Option TaskProjectionRecoveryReason
  deriving DecidableEq

inductive TaskProjectionAction where
  | snapshotLoaded (snapshot : Json)
  | eventReceived (event : Json)
  | recoveryRequired (reason : TaskProjectionRecoveryReason)
  | recoveryExhausted (reason : TaskProjectionRecoveryReason)

def createTaskProjectionState (taskId : List Char) : TaskProjectionState where
  taskId := taskId
  phase := .empty
  snapshot := none
  events := []
  recoveryReason := none

def recovery (state : TaskProjectionState) (reason : TaskProjectionRecoveryReason) :
    TaskProjectionState := { state with phase := .refreshRequired, recoveryReason := some reason }

/-- An array is an object without an `eventVersion`.
mirrors task-projection-reducer.ts:79-91 -/
def eventCompatibilityReason : Json → TaskProjectionRecoveryReason
  | .obj members =>
    let version := (Json.get members "eventVersion").bind Json.str?
    let type := (Json.get members "eventType").bind Json.str?
    if version ≠ some "1.0".toList ∨
        type.any (fun t => !(taskEventTypes.any fun known => known.1.toList = t)) = true then
      .incompatibleEvent
    else .protocolMismatch
  | .arr _ => .incompatibleEvent
  | _ => .protocolMismatch

def phaseOf (status : TaskStatus) : TaskProjectionPhase :=
  if status ∈ terminalTaskStatuses then .terminal else .live

/-- The state after a snapshot was taken over. -/
def loaded (taskId : List Char) (snapshot : TaskSnapshot) : TaskProjectionState where
  taskId := taskId
  phase := phaseOf snapshot.status
  snapshot := some snapshot
  events := []
  recoveryReason := none

def nextSnapshot (snapshot : TaskSnapshot) (event : TaskEvent) : TaskSnapshot :=
  { snapshot with
    status := event.taskStatus
    revision := event.taskRevision
    lastEventSequence := event.sequence
    updatedAt := event.recordedAt }

/-- `slice(-MAX_RETAINED_EVENTS)`. -/
def retained (events : List TaskEvent) : List TaskEvent :=
  events.drop (events.length - maxRetainedEvents)

/-- The state after an event was taken over. -/
def advanced (state : TaskProjectionState) (snapshot : TaskSnapshot) (event : TaskEvent) :
    TaskProjectionState where
  taskId := state.taskId
  phase := phaseOf (nextSnapshot snapshot event).status
  snapshot := some (nextSnapshot snapshot event)
  events := retained (state.events ++ [event])
  recoveryReason := none

/-- mirrors task-projection-reducer.ts:93-170 -/
def reduceTaskProjection (state : TaskProjectionState) :
    TaskProjectionAction → TaskProjectionState
  | .recoveryRequired reason => recovery state reason
  | .recoveryExhausted reason =>
    { state with phase := .degraded, recoveryReason := some reason }
  | .snapshotLoaded value =>
    match parseTaskSnapshot value with
    | none => recovery state .protocolMismatch
    | some snapshot =>
      if snapshot.taskId ≠ state.taskId then recovery state .taskMismatch
      else if state.snapshot.any (fun held => snapshot.revision < held.revision ||
          snapshot.lastEventSequence < held.lastEventSequence) = true then
        recovery state .snapshotRegression
      else loaded state.taskId snapshot
  | .eventReceived value =>
    if state.phase = .refreshRequired ∨ state.phase = .degraded then state
    else
      match parseTaskEvent value with
      | none => recovery state (eventCompatibilityReason value)
      | some event =>
        match state.snapshot with
        | none => recovery state .protocolMismatch
        | some snapshot =>
          if event.taskId ≠ state.taskId then recovery state .taskMismatch
          else if event.sequence ≤ snapshot.lastEventSequence then state
          else if event.sequence ≠ snapshot.lastEventSequence + 1 then recovery state .sequenceGap
          else if event.taskRevision ≤ snapshot.revision then recovery state .revisionRegression
          else advanced state snapshot event

/-! ### What an action can do -/

variable {s s' : TaskProjectionState} {value : Json}

/-- A snapshot is taken over, unless it names another task or goes back. -/
theorem reduce_loaded {t : TaskSnapshot} (hparse : parseTaskSnapshot value = some t)
    (hid : t.taskId = s.taskId)
    (hahead : ∀ u ∈ s.snapshot, u.revision ≤ t.revision ∧
      u.lastEventSequence ≤ t.lastEventSequence) :
    reduceTaskProjection s (.snapshotLoaded value) = loaded s.taskId t := by
  have hno : s.snapshot.any (fun held => t.revision < held.revision ||
      t.lastEventSequence < held.lastEventSequence) = false := by
    cases hs : s.snapshot with
    | none => rfl
    | some u =>
      obtain ⟨h1, h2⟩ := hahead u hs
      simp [h1, h2]
  simp [reduceTaskProjection, hparse, hid, hno]

theorem loaded_cases (s : TaskProjectionState) (value : Json) :
    (∃ reason, reduceTaskProjection s (.snapshotLoaded value) = recovery s reason) ∨
      ∃ t, parseTaskSnapshot value = some t ∧ t.taskId = s.taskId ∧
        (∀ u ∈ s.snapshot, u.revision ≤ t.revision ∧ u.lastEventSequence ≤ t.lastEventSequence) ∧
        reduceTaskProjection s (.snapshotLoaded value) = loaded s.taskId t := by
  cases hparse : parseTaskSnapshot value with
  | none => exact .inl ⟨.protocolMismatch, by simp [reduceTaskProjection, hparse]⟩
  | some t =>
    by_cases hid : t.taskId = s.taskId
    · by_cases hback : s.snapshot.any (fun held => t.revision < held.revision ||
          t.lastEventSequence < held.lastEventSequence) = true
      · exact .inl ⟨.snapshotRegression, by simp [reduceTaskProjection, hparse, hid, hback]⟩
      · have hahead : ∀ u ∈ s.snapshot, u.revision ≤ t.revision ∧
            u.lastEventSequence ≤ t.lastEventSequence := by
          intro u hu
          rw [hu] at hback
          simp at hback
          omega
        exact .inr ⟨t, rfl, hid, hahead, reduce_loaded hparse hid hahead⟩
    · exact .inl ⟨.taskMismatch, by simp [reduceTaskProjection, hparse, hid]⟩

/-- The event is the next one. -/
structure Next (s : TaskProjectionState) (t : TaskSnapshot) (e : TaskEvent) : Prop where
  held : s.snapshot = some t
  taskId : e.taskId = s.taskId
  sequence : e.sequence = t.lastEventSequence + 1
  revision : t.revision < e.taskRevision

theorem received_cases (s : TaskProjectionState) (value : Json) :
    reduceTaskProjection s (.eventReceived value) = s ∨
      (∃ reason, reduceTaskProjection s (.eventReceived value) = recovery s reason) ∨
      ∃ t e, parseTaskEvent value = some e ∧ Next s t e ∧
        reduceTaskProjection s (.eventReceived value) = advanced s t e := by
  simp only [reduceTaskProjection]
  split
  · exact .inl rfl
  split
  · exact .inr (.inl ⟨_, rfl⟩)
  rename_i e hparse
  split
  · exact .inr (.inl ⟨_, rfl⟩)
  rename_i t hheld
  split
  · exact .inr (.inl ⟨_, rfl⟩)
  split
  · exact .inl rfl
  split
  · exact .inr (.inl ⟨_, rfl⟩)
  split
  · exact .inr (.inl ⟨_, rfl⟩)
  · rename_i hid _ hseq hrev
    refine .inr (.inr ⟨t, e, hparse, ⟨hheld, ?_, ?_, ?_⟩, rfl⟩)
    · simpa using hid
    · simpa using hseq
    · omega

/-! ## The history of a task -/

def TaskEvent.moment (e : TaskEvent) : Moment TaskStatus := ⟨e.taskStatus, e.taskRevision, e.sequence⟩

def TaskSnapshot.moment (t : TaskSnapshot) : Moment TaskStatus :=
  ⟨t.status, t.revision, t.lastEventSequence⟩

/-- All that the server wrote of a task, newest first. -/
structure TaskHistory where
  taskId : List Char
  moments : List (Moment TaskStatus)
  events : List TaskEvent
  past : Past moments (events.map TaskEvent.moment)
  owned : ∀ e ∈ events, e.taskId = taskId

theorem TaskHistory.event_mem (h : TaskHistory) {e : TaskEvent} (he : e ∈ h.events) :
    e.moment ∈ h.moments := h.past.marks_subset _ (List.mem_map_of_mem he)

/-- What of an action is the server's comes from the history. -/
def Served (h : TaskHistory) : TaskProjectionAction → Prop
  | .snapshotLoaded value =>
    ∀ t, parseTaskSnapshot value = some t → t.taskId = h.taskId → t.moment ∈ h.moments
  | .eventReceived value =>
    ∀ e, parseTaskEvent value = some e → e.taskId = h.taskId → e ∈ h.events
  | .recoveryRequired _ | .recoveryExhausted _ => True

def projecting (h : TaskHistory) : LTS TaskProjectionState TaskProjectionAction where
  init s := s = createTaskProjectionState h.taskId
  step s a s' := Served h a ∧ s' = reduceTaskProjection s a

/-- What the client shows of a history. -/
structure Shows (h : TaskHistory) (s : TaskProjectionState) : Prop where
  taskId : s.taskId = h.taskId
  moment : ∀ t ∈ s.snapshot, t.moment ∈ h.moments
  events : ∀ e ∈ s.events, e ∈ h.events
  run : ∃ first, s.events.map (·.sequence) = List.range' first s.events.length ∧
    (s.events ≠ [] → ∃ t ∈ s.snapshot, first + s.events.length = t.lastEventSequence + 1)
  retained : s.events.length ≤ maxRetainedEvents
  terminal : s.phase = .terminal → ∃ t ∈ s.snapshot, t.status ∈ terminalTaskStatuses

/-- Neither counter goes back, and a snapshot is never given up. -/
def Ahead (s s' : TaskProjectionState) : Prop :=
  ∀ t ∈ s.snapshot, ∃ t' ∈ s'.snapshot, t.revision ≤ t'.revision ∧
    t.lastEventSequence ≤ t'.lastEventSequence

theorem Ahead.refl (s : TaskProjectionState) : Ahead s s :=
  fun t ht => ⟨t, ht, Nat.le_refl _, Nat.le_refl _⟩

theorem Ahead.trans {a b c : TaskProjectionState} (hab : Ahead a b) (hbc : Ahead b c) :
    Ahead a c := by
  intro t ht
  obtain ⟨u, hu, h1, h2⟩ := hab t ht
  obtain ⟨v, hv, h3, h4⟩ := hbc u hu
  exact ⟨v, hv, h1.trans h3, h2.trans h4⟩

/-! ### One action -/

variable {h : TaskHistory}

theorem phaseOf_eq_terminal {status : TaskStatus} (hp : phaseOf status = .terminal) :
    status ∈ terminalTaskStatuses := by
  unfold phaseOf at hp
  split at hp
  · assumption
  · cases hp

theorem shows_create : Shows h (createTaskProjectionState h.taskId) where
  taskId := rfl
  moment _ ht := nomatch ht
  events _ he := nomatch he
  run := ⟨0, rfl, fun hne => absurd rfl hne⟩
  retained := Nat.zero_le _
  terminal hp := nomatch hp

/-- Another phase, with the same snapshot and events, is no terminal one. -/
theorem Shows.withPhase (hs : Shows h s) {phase : TaskProjectionPhase} (hp : phase ≠ .terminal)
    (reason : Option TaskProjectionRecoveryReason) :
    Shows h { s with phase := phase, recoveryReason := reason } where
  taskId := hs.taskId
  moment := hs.moment
  events := hs.events
  run := hs.run
  retained := hs.retained
  terminal ht := absurd ht hp

theorem Shows.loaded (hs : Shows h s) {t : TaskSnapshot} (ht : t.moment ∈ h.moments) :
    Shows h (loaded s.taskId t) where
  taskId := hs.taskId
  moment u hu := by
    cases hu
    exact ht
  events _ he := nomatch he
  run := ⟨0, rfl, fun hne => absurd rfl hne⟩
  retained := Nat.zero_le _
  terminal hp := ⟨t, rfl, phaseOf_eq_terminal hp⟩

theorem events_advanced (s : TaskProjectionState) (t : TaskSnapshot) (e : TaskEvent) :
    (advanced s t e).events = retained (s.events ++ [e]) := by
  simp only [advanced]

theorem mem_of_mem_retained {events : List TaskEvent} {e : TaskEvent}
    (he : e ∈ TaskRuns.retained events) : e ∈ events := List.mem_of_mem_drop he

theorem length_retained (events : List TaskEvent) :
    (TaskRuns.retained events).length = min events.length maxRetainedEvents := by
  simp [TaskRuns.retained]
  omega

/-- The end of a run is a run. -/
theorem map_retained {events : List TaskEvent} {first : Nat}
    (hrun : events.map (·.sequence) = List.range' first events.length) :
    (TaskRuns.retained events).map (·.sequence) =
      List.range' (first + (events.length - maxRetainedEvents)) (TaskRuns.retained events).length := by
  unfold TaskRuns.retained
  rw [List.map_drop, hrun, List.drop_range', List.length_drop, Nat.mul_one]

theorem Shows.advanced (hs : Shows h s) {t : TaskSnapshot} {e : TaskEvent} (hn : Next s t e)
    (he : e ∈ h.events) : Shows h (advanced s t e) := by
  obtain ⟨first, hrun, hlast⟩ := hs.run
  -- the run that the new event ends
  have hrun' : ∃ first, (s.events ++ [e]).map (·.sequence) =
      List.range' first (s.events ++ [e]).length ∧
      first + (s.events ++ [e]).length = e.sequence + 1 := by
    by_cases hempty : s.events = []
    · refine ⟨e.sequence, ?_, ?_⟩ <;> simp [hempty]
    · obtain ⟨u, hu, hend⟩ := hlast hempty
      have htu : u = t := Option.some.inj (hu.symm.trans hn.held)
      subst htu
      have hseq := hn.sequence
      refine ⟨first, ?_, ?_⟩
      · rw [List.map_append, hrun, List.length_append, List.length_singleton,
          List.range'_1_concat, List.map_singleton]
        congr 2
        omega
      · simp only [List.length_append, List.length_singleton]
        omega
  obtain ⟨first', hmap, hend⟩ := hrun'
  refine ⟨hs.taskId, ?_, ?_, ?_, ?_, ?_⟩
  · intro u hu
    cases hu
    exact h.event_mem he
  · rw [events_advanced]
    intro f hf
    rcases List.mem_append.1 (mem_of_mem_retained hf) with hf' | hf'
    · exact hs.events f hf'
    · rw [List.mem_singleton.1 hf']
      exact he
  · rw [events_advanced]
    refine ⟨_, map_retained hmap, fun _ => ⟨nextSnapshot t e, rfl, ?_⟩⟩
    rw [length_retained]
    show _ = e.sequence + 1
    omega
  · rw [events_advanced, length_retained]
    exact Nat.min_le_right _ _
  · exact fun hp => ⟨nextSnapshot t e, rfl, phaseOf_eq_terminal hp⟩

theorem Shows.reduce (hs : Shows h s) {a : TaskProjectionAction} (ha : Served h a) :
    Shows h (reduceTaskProjection s a) := by
  cases a with
  | recoveryRequired reason => exact hs.withPhase (by decide) _
  | recoveryExhausted reason => exact hs.withPhase (by decide) _
  | snapshotLoaded value =>
    rcases loaded_cases s value with ⟨reason, hr⟩ | ⟨t, hparse, hid, -, hr⟩
    · rw [hr]
      exact hs.withPhase (by decide) _
    · rw [hr]
      exact hs.loaded (ha t hparse (hid.trans hs.taskId))
  | eventReceived value =>
    rcases received_cases s value with hr | ⟨reason, hr⟩ | ⟨t, e, hparse, hn, hr⟩
    · rw [hr]
      exact hs
    · rw [hr]
      exact hs.withPhase (by decide) _
    · rw [hr]
      exact hs.advanced hn (ha e hparse (hn.taskId.trans hs.taskId))

theorem ahead_reduce (s : TaskProjectionState) (a : TaskProjectionAction) :
    Ahead s (reduceTaskProjection s a) := by
  cases a with
  | recoveryRequired reason => exact Ahead.refl s
  | recoveryExhausted reason => exact Ahead.refl s
  | snapshotLoaded value =>
    rcases loaded_cases s value with ⟨reason, hr⟩ | ⟨t, -, -, hahead, hr⟩
    · rw [hr]
      exact Ahead.refl s
    · rw [hr]
      exact fun u hu => ⟨t, rfl, hahead u hu⟩
  | eventReceived value =>
    rcases received_cases s value with hr | ⟨reason, hr⟩ | ⟨t, e, -, hn, hr⟩
    · rw [hr]
      exact Ahead.refl s
    · rw [hr]
      exact Ahead.refl s
    · rw [hr]
      intro u hu
      have htu : u = t := Option.some.inj (hu.symm.trans hn.held)
      subst htu
      have hseq := hn.sequence
      exact ⟨nextSnapshot u e, rfl, Nat.le_of_lt hn.revision,
        show u.lastEventSequence ≤ e.sequence by omega⟩

theorem projecting_inductive (h : TaskHistory) : (projecting h).Inductive (Shows h) where
  init s hs := by
    change s = _ at hs
    subst hs
    exact shows_create
  step s a s' hs hstep := by
    obtain ⟨ha, rfl⟩ := hstep
    exact hs.reduce ha

/-! ### In order -/

/-- The client follows the task: it has a snapshot and waits for events. -/
structure Following (s : TaskProjectionState) (t : TaskSnapshot) : Prop where
  held : s.snapshot = some t
  phase : s.phase = phaseOf t.status
  reason : s.recoveryReason = none

theorem following_loaded (taskId : List Char) (t : TaskSnapshot) :
    Following (loaded taskId t) t := ⟨rfl, rfl, rfl⟩

/-- An event of the history, no later than the next one, is known already or taken over. -/
theorem Following.next {t : TaskSnapshot} {e : TaskEvent} (hf : Following s t) (hs : Shows h s)
    (hparse : parseTaskEvent value = some e) (he : e ∈ h.events)
    (hseq : e.sequence ≤ t.lastEventSequence + 1) :
    ∃ t', Following (reduceTaskProjection s (.eventReceived value)) t' ∧
      t'.lastEventSequence = max t.lastEventSequence e.sequence := by
  have hlistens : ¬(s.phase = .refreshRequired ∨ s.phase = .degraded) := by
    rw [hf.phase]
    unfold phaseOf
    split <;> simp
  have hid : e.taskId = s.taskId := (h.owned e he).trans hs.taskId.symm
  by_cases hknown : e.sequence ≤ t.lastEventSequence
  · have hr : reduceTaskProjection s (.eventReceived value) = s := by
      simp [reduceTaskProjection, hlistens, hparse, hf.held, hid, hknown]
    rw [hr]
    exact ⟨t, hf, (Nat.max_eq_left hknown).symm⟩
  · have hnext : e.sequence = t.lastEventSequence + 1 := by omega
    -- the snapshot's moment had not seen the event
    have hrev : ¬e.taskRevision ≤ t.revision := by
      have := h.past.revision_lt t.moment (hs.moment t hf.held) e.moment (List.mem_map_of_mem he)
        (by show t.lastEventSequence < e.sequence; omega)
      exact Nat.not_le.2 this
    have hr : reduceTaskProjection s (.eventReceived value) = advanced s t e := by
      simp [reduceTaskProjection, hlistens, hparse, hf.held, hid, hnext, hrev]
    rw [hr]
    refine ⟨nextSnapshot t e, ⟨rfl, rfl, rfl⟩, ?_⟩
    show e.sequence = _
    omega

/-- Values that parse to events of the history, one after the other. -/
structure Delivery (h : TaskHistory) (first : Nat) (values : List Json) (events : List TaskEvent) :
    Prop where
  parsed : values.map parseTaskEvent = events.map some
  written : ∀ e ∈ events, e ∈ h.events
  inOrder : events.map (·.sequence) = List.range' first events.length

def receive (s : TaskProjectionState) (values : List Json) : TaskProjectionState :=
  (values.map TaskProjectionAction.eventReceived).foldl reduceTaskProjection s

theorem deliver {t : TaskSnapshot} {first : Nat} {values : List Json} {events : List TaskEvent}
    (hf : Following s t) (hs : Shows h s) (hd : Delivery h first values events)
    (hfirst : first ≤ t.lastEventSequence + 1) :
    ∃ t', Following (receive s values) t' ∧
      t'.lastEventSequence = max t.lastEventSequence (first + events.length - 1) := by
  induction values generalizing s t first events with
  | nil =>
    have hnil : events = [] := by simpa using hd.parsed.symm
    subst hnil
    refine ⟨t, hf, ?_⟩
    simp only [List.length_nil]
    omega
  | cons value values ih =>
    cases events with
    | nil => exact absurd hd.parsed (by simp)
    | cons e events =>
      obtain ⟨hparse, hparsed⟩ := List.cons.inj hd.parsed
      have horder := hd.inOrder
      rw [List.length_cons, List.map_cons, List.range'_succ] at horder
      obtain ⟨hseq, hrest⟩ := List.cons.inj horder
      have he : e ∈ h.events := hd.written e List.mem_cons_self
      obtain ⟨u, hfu, hlast⟩ := hf.next hs hparse he (by omega)
      have hserved : Served h (.eventReceived value) := by
        intro f hf' _
        cases hparse.symm.trans hf'
        exact he
      have hd' : Delivery h (first + 1) values events :=
        ⟨hparsed, fun f hf' => hd.written f (List.mem_cons_of_mem _ hf'), hrest⟩
      obtain ⟨t', hft, hend⟩ := ih hfu (hs.reduce hserved) hd' (by omega)
      refine ⟨t', hft, ?_⟩
      rw [hend, hlast, hseq, List.length_cons]
      omega

/-- Whatever arrives, the client shows a moment of the task's history with the events that
led to it, and never goes back. After a snapshot that is not older than what it shows, it
takes over all events that come in order, from the next one or from one it has seen, and
asks for no recovery. -/
theorem projection_follows (h : TaskHistory) {s : TaskProjectionState}
    (hr : (projecting h).Reachable s) :
    Shows h s ∧
    (∀ acts s', (projecting h).Run s acts s' → Ahead s s') ∧
    ∀ value t, parseTaskSnapshot value = some t → t.taskId = h.taskId → t.moment ∈ h.moments →
      (∀ u ∈ s.snapshot, u.revision ≤ t.revision ∧ u.lastEventSequence ≤ t.lastEventSequence) →
      ∀ first values events, Delivery h first values events → first ≤ t.lastEventSequence + 1 →
        ∃ t', Following (receive (reduceTaskProjection s (.snapshotLoaded value)) values) t' ∧
          t'.lastEventSequence = max t.lastEventSequence (first + events.length - 1) := by
  have hs := (projecting_inductive h).reachable hr
  refine ⟨hs, fun acts s' hrun => ?_, ?_⟩
  · refine hrun.rel (projecting_inductive h) Ahead.refl (fun _ _ _ => Ahead.trans) ?_ hs
    rintro a act _ - ⟨-, rfl⟩
    exact ahead_reduce a act
  · intro value t hparse hid ht hahead first values events hd hfirst
    rw [reduce_loaded hparse (hid.trans hs.taskId.symm) hahead]
    exact deliver (following_loaded s.taskId t) (hs.loaded ht) hd hfirst

namespace Concrete

/-! A task that is started, told to stop, and stops: the request to stop is no event. -/

def task : List Char := "0c9b2f64-3a3f-4c0b-9a55-0123456789ab".toList

def attempt : List Char := "7d1f0a52-6c1e-4b7a-8f00-0123456789ab".toList

def second (digit : String) : List Char := ("2026-01-01T00:00:0" ++ digit ++ "Z").toList

def snapshotValue (status : String) (revision sequence : Nat) : Json :=
  .obj [("taskId", .str task), ("status", .str status.toList), ("revision", .ofNat revision),
    ("lastEventSequence", .ofNat sequence), ("createdAt", .str (second "0")),
    ("updatedAt", .str (second "1"))]

def eventValue (type status : String) (revision sequence : Nat) : Json :=
  .obj [("taskId", .str task), ("sequence", .ofNat sequence), ("eventVersion", .str "1.0".toList),
    ("eventType", .str type.toList), ("taskRevision", .ofNat revision),
    ("taskStatus", .str status.toList), ("executionAttemptId", .str attempt), ("actionId", .null),
    ("progressPercent", .null), ("occurredAt", .str (second "1")), ("recordedAt", .str (second "2")),
    ("message", .null)]

def event (type : TaskEventType) (status : TaskStatus) (revision sequence : Nat) : TaskEvent :=
  ⟨task, sequence, type, revision, status, some attempt, none, none, second "1", second "2", none⟩

def started : TaskEvent := event .taskStarted .running 2 1

def stopped : TaskEvent := event .taskCancelled .cancelled 4 2

def history : TaskHistory where
  taskId := task
  moments := [stopped.moment, ⟨.cancelling, 3, 1⟩, started.moment, ⟨.queued, 1, 0⟩]
  events := [stopped, started]
  past := by
    refine .announced (.changed (.announced (.start _ _) ?_ rfl) ?_ rfl) ?_ rfl
    all_goals decide
  owned := by simp [started, stopped, event]

theorem parse_cancelling : parseTaskSnapshot (snapshotValue "cancelling" 3 1) =
    some ⟨task, .cancelling, 3, 1, second "0", second "1"⟩ := by decide +kernel

theorem parse_stopped :
    parseTaskEvent (eventValue "task.cancelled" "cancelled" 4 2) = some stopped := by decide +kernel

theorem create_reachable : (projecting history).Reachable (createTaskProjectionState task) :=
  .of_init rfl

/-- The first snapshot is taken between the two events. -/
theorem stopped_followed :
    ∃ t', Following (receive (reduceTaskProjection (createTaskProjectionState task)
      (.snapshotLoaded (snapshotValue "cancelling" 3 1)))
      [eventValue "task.cancelled" "cancelled" 4 2]) t' ∧ t'.lastEventSequence = 2 :=
  (projection_follows history create_reachable).2.2 (snapshotValue "cancelling" 3 1)
    ⟨task, .cancelling, 3, 1, second "0", second "1"⟩ parse_cancelling rfl
    (by simp [history, TaskSnapshot.moment]) (fun _ hu => nomatch hu) 2 _ [stopped]
    ⟨by simp [parse_stopped], by simp [history], by decide⟩ (by decide)

end Concrete

end AutomationTool.Desktop.TaskRuns
