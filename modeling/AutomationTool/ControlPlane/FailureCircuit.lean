import AutomationTool.Core.Breaker
import AutomationTool.ControlPlane.Authorizations
import AutomationTool.ControlPlane.Coupling

/-!
# The failure circuit of a scope

The row of `action_failure_circuits` for one installation and action is a `Breaker` that
has seen the accepted results of the scope's authorized actions and the accepted resumes
of the installation's tasks, in order. `history` reads these facts off a list of
operations; `circuit_follows_history` says that the row is what the breaker makes of them.
-/
namespace AutomationTool.ControlPlane

open Protocol TaskEventConvergence TaskEventConvergenceRepository
  ActionRiskAuthorizationRepository

/-- A result of an action, or a resume of a task. -/
abbrev CircuitFact := Breaker.Fact ActionId TaskId

/-- What an accepted event tells the breaker of a scope. -/
def eventFacts (scope : ActionRiskScope) (db : Db) (p : PendingTaskEvent) : List CircuitFact :=
  match riskOutcome? p with
  | some (a, outcome) =>
    match authorization? db a with
    | some r =>
      if r.installationId = scope.installationId ∧ r.action = scope.action then
        [if outcome = .failed then .failed a r.taskId r.consecutiveFailureThreshold
          else .succeeded a]
      else []
    | none => []
  | none =>
    if p.type = .taskResumed ∧ p.message.installationId = scope.installationId then
      [.resumed p.message.taskId]
    else []

/-- What an operation tells it: only an event that is accepted as a new one counts. -/
def facts (scope : ActionRiskScope) (db : Db) : Op → List CircuitFact
  | .receive m t =>
    match receive m t db, pending? m t with
    | some (r, _), some p => if r.duplicate then [] else eventFacts scope db p
    | _, _ => []
  | _ => []

/-- The facts of a list of operations. -/
def history (scope : ActionRiskScope) : Db → List Op → List CircuitFact
  | _, [] => []
  | db, o :: os => facts scope db o ++ history scope (exec o db).2 os

/-- `consecutive_failures`, 0 as long as there is no row. -/
def consecutiveFailures (scope : ActionRiskScope) (db : Db) : Nat :=
  ((circuit? db scope.installationId scope.action).map
    ActionFailureCircuit.consecutiveFailures).getD 0

/-- `circuit_open`. -/
def isCircuitOpen (scope : ActionRiskScope) (db : Db) : Bool :=
  ((circuit? db scope.installationId scope.action).map ActionFailureCircuit.circuitOpen).getD false

/-- `opened_by_action_id`. -/
def openedBy (scope : ActionRiskScope) (db : Db) : Option ActionId :=
  (circuit? db scope.installationId scope.action).bind ActionFailureCircuit.openedByActionId

section Lookups

variable {db : Db}

theorem circuit?_eq_some {i : InstallationId} {a : DouyinSearchExposureAction}
    {c : ActionFailureCircuit} : circuit? db i a = some c ↔
      c ∈ db.actionFailureCircuits ∧ c.installationId = i ∧ c.action = a :=
  Relation.find?_key_iff fun _ _ ha hb hab =>
    hab ⟨ha.1.trans hb.1.symm, ha.2.trans hb.2.symm⟩

/-- Two databases with the same row of a scope read the same. -/
theorem circuit?_congr {db' : Db} {i : InstallationId} {a : DouyinSearchExposureAction}
    (h : ∀ c : ActionFailureCircuit, c.installationId = i → c.action = a →
      (c ∈ db'.actionFailureCircuits ↔ c ∈ db.actionFailureCircuits)) :
    circuit? db' i a = circuit? db i a := by
  refine Option.ext fun c => ?_
  rw [circuit?_eq_some, circuit?_eq_some]
  constructor
  · rintro ⟨hm, h1, h2⟩
    exact ⟨(h c h1 h2).1 hm, h1, h2⟩
  · rintro ⟨hm, h1, h2⟩
    exact ⟨(h c h1 h2).2 hm, h1, h2⟩

/-- The circuit is open exactly when it names the action that opened it. -/
theorem circuitOpen_eq {c : ActionFailureCircuit} (h : c ∈ db.actionFailureCircuits) :
    c.circuitOpen = c.openedByActionId.isSome := by
  obtain ⟨-, -, ⟨ho, -, hs, -⟩ | ⟨ho, hs, -⟩, -⟩ := Relation.check_of_mem h
  · rw [ho]
    exact (Option.isSome_iff_ne_none.2 hs).symm
  · rw [ho, hs]
    rfl

theorem isCircuitOpen_eq (scope : ActionRiskScope) :
    isCircuitOpen scope db = (openedBy scope db).isSome := by
  unfold isCircuitOpen openedBy
  cases hc : circuit? db scope.installationId scope.action with
  | none => rfl
  | some c => exact circuitOpen_eq (circuit?_eq_some.1 hc).1

end Lookups

/-! ## Recording a result -/

/-- A result of an authorized action, not recorded before, moves the row of its scope and
no other. -/
theorem recordResult_eq_some {db db' : Db} {t : Time} {r : ActionRiskAuthorization}
    {outcome : ActionOutcome} {opened : Bool}
    (h : recordResult t r outcome db = some (opened, db')) :
    let scope : ActionRiskScope := ⟨r.installationId, r.action⟩
    let s := circuitStep (consecutiveFailures scope db) (isCircuitOpen scope db) outcome
      r.consecutiveFailureThreshold
    result? db r.actionId = none ∧
      (∃ x ∈ db'.actionRiskResults, x.actionId = r.actionId) ∧
      (∀ x ∈ db.actionRiskResults, x ∈ db'.actionRiskResults) ∧
      consecutiveFailures scope db' = s.failuresAfter ∧
      openedBy scope db' = (if s.openedNow then some r.actionId else openedBy scope db) ∧
      ∀ i a, (i, a) ≠ (r.installationId, r.action) → circuit? db' i a = circuit? db i a := by
  intro scope s
  simp only [recordResult, Option.bind_eq_bind, Option.bind_eq_some_iff, Option.pure_def,
    Option.guard_eq_some', Option.some.injEq, Prod.mk.injEq] at h
  obtain ⟨-, hnew, -, -, -, -, results, hres, circuits, hput, -, rfl⟩ := h
  change result? db r.actionId = none at hnew
  refine ⟨hnew, ⟨_, (Relation.mem_insert? hres).2 (.inr rfl), rfl⟩,
    fun x hx => (Relation.mem_insert? hres).2 (.inl hx), ?_⟩
  -- the row the result leaves, and nothing else of its scope
  obtain ⟨c, hc, hci, hca, hcf, hco, hother⟩ : ∃ c ∈ circuits, c.installationId = r.installationId ∧
      c.action = r.action ∧ c.consecutiveFailures = s.failuresAfter ∧
      c.openedByActionId = (if s.openedNow then some r.actionId else openedBy scope db) ∧
      ∀ x : ActionFailureCircuit, (x.installationId, x.action) ≠ (r.installationId, r.action) →
        (x ∈ circuits ↔ x ∈ db.actionFailureCircuits) := by
    change putCircuit r s t db.actionFailureCircuits
      (circuit? db r.installationId r.action) = some circuits at hput
    have hopened : openedBy scope db = (circuit? db r.installationId r.action).bind
      ActionFailureCircuit.openedByActionId := rfl
    cases hcirc : circuit? db r.installationId r.action with
    | none =>
      rw [hcirc] at hput hopened
      refine ⟨newCircuit r s t, (Relation.mem_insert? hput).2 (.inr rfl), rfl, rfl, rfl, ?_,
        fun x hx => ?_⟩
      · rw [hopened]
        rfl
      · rw [Relation.mem_insert? hput]
        constructor
        · rintro (hx' | rfl)
          · exact hx'
          · exact absurd rfl hx
        · exact .inl
    | some old =>
      rw [hcirc] at hput hopened
      obtain ⟨hm, h1, h2⟩ := circuit?_eq_some.1 hcirc
      have hrep := Relation.Replaced.of_replace? hput hm
      refine ⟨movedCircuit old r.actionId s t, hrep.new_mem, h1, h2, rfl, ?_, fun x hx => ?_⟩
      · rw [hopened]
        rfl
      · rw [hrep.mem_iff]
        constructor
        · rintro (rfl | hx')
          · exact absurd (Prod.ext h1 h2) hx
          · exact hx'.1
        · intro hx'
          refine .inr ⟨hx', ?_⟩
          rintro rfl
          exact hx (Prod.ext h1 h2)
  have hfind : circuit? { db with actionRiskResults := results, actionFailureCircuits := circuits }
      r.installationId r.action = some c := circuit?_eq_some.2 ⟨hc, hci, hca⟩
  refine ⟨?_, ?_, fun i a hne => circuit?_congr fun x hxi hxa => hother x ?_⟩
  · unfold consecutiveFailures
    rw [hfind]
    exact hcf
  · rw [← hco]
    unfold openedBy
    rw [hfind]
    rfl
  · rw [hxi, hxa]
    exact hne

/-! ## Clearing a circuit -/

/-- The circuit a task owns is open, is of the action the task is defined with, and was
opened by one of the task's own actions. -/
theorem ownedCircuit?_eq_some {db : Db} {t : TaskId} {i : InstallationId}
    {c : ActionFailureCircuit} : ownedCircuit? db t i = some c ↔
      ∃ d opener r, db.definition? t i = some d ∧ circuit? db i d.action = some c ∧
        c.circuitOpen = true ∧ c.openedByActionId = some opener ∧
        authorization? db opener = some r ∧ r.taskId = t := by
  simp only [ownedCircuit?, Option.bind_eq_bind, Option.bind_eq_some_iff, Option.guard_eq_some',
    Option.pure_def, Option.some.injEq]
  constructor
  · rintro ⟨d, hd, x, hx, -, ho, a, ha, r, hr, -, ht, rfl⟩
    exact ⟨d, a, r, hd, hx, ho, ha, hr, ht⟩
  · rintro ⟨d, a, r, hd, hx, ho, ha, hr, ht⟩
    exact ⟨d, hd, c, hx, (), ho, a, ha, r, hr, (), ht, rfl⟩

/-- Clearing a circuit closes the one of its scope and touches no other. -/
theorem clearedCircuit_replaced {db : Db} {c : ActionFailureCircuit} {t : Time}
    {circuits : Relation ActionFailureCircuit} {i : InstallationId}
    {a : DouyinSearchExposureAction} (hc : circuit? db i a = some c)
    (h : db.actionFailureCircuits.Replaced circuits c (clearedCircuit c t))
    (db' : Db) (hdb : db'.actionFailureCircuits = circuits) :
    circuit? db' i a = some (clearedCircuit c t) ∧
      ∀ i' a', (i', a') ≠ (i, a) → circuit? db' i' a' = circuit? db i' a' := by
  obtain ⟨-, h1, h2⟩ := circuit?_eq_some.1 hc
  refine ⟨circuit?_eq_some.2 ⟨hdb ▸ h.new_mem, h1, h2⟩, fun i' a' hne => circuit?_congr ?_⟩
  intro x hxi hxa
  rw [hdb, h.mem_iff]
  constructor
  · rintro (rfl | hx)
    · exact absurd (Prod.ext (hxi.symm.trans h1) (hxa.symm.trans h2)) hne
    · exact hx.1
  · intro hx
    refine .inr ⟨hx, ?_⟩
    rintro rfl
    exact hne (Prod.ext (hxi.symm.trans h1) (hxa.symm.trans h2))

/-! ## The row follows the facts -/

/-- The row of the scope is what the breaker makes of the facts; the opener is one of the
scope's authorized actions, and its task owns the circuit; every result is stored. -/
structure Tracks (scope : ActionRiskScope) (db : Db) (fs : List CircuitFact) : Prop where
  failures : consecutiveFailures scope db = (Breaker.run fs).failures
  opened : openedBy scope db = (Breaker.run fs).openedBy.map Prod.fst
  owner : ∀ a t, (Breaker.run fs).openedBy = some (a, t) → ∃ r ∈ db.actionRiskAuthorizations,
    r.actionId = a ∧ r.taskId = t ∧ r.installationId = scope.installationId ∧
      r.action = scope.action
  stored : ∀ a ∈ fs.filterMap Breaker.Fact.action?, ∃ x ∈ db.actionRiskResults, x.actionId = a
  once : (fs.filterMap Breaker.Fact.action?).Nodup

variable {scope : ActionRiskScope} {db db' : Db} {fs : List CircuitFact}

theorem tracks_empty (scope : ActionRiskScope) : Tracks scope Db.empty [] where
  failures := rfl
  opened := rfl
  owner _ _ h := nomatch h
  stored _ h := nomatch h
  once := .nil

theorem Tracks.isOpen (h : Tracks scope db fs) :
    isCircuitOpen scope db = (Breaker.run fs).isOpen := by
  rw [isCircuitOpen_eq, h.opened]
  exact Option.isSome_map

/-- Who has to resume an open circuit is a task defined with the scope's action. -/
theorem Tracks.owner_defined (h : Tracks scope db fs) (hm : Metered db) {t : TaskId}
    (ho : (Breaker.run fs).owner? = some t) : ∃ a r d,
      openedBy scope db = some a ∧ authorization? db a = some r ∧ r.taskId = t ∧
        db.definition? t scope.installationId = some d ∧ d.action = scope.action := by
  obtain ⟨⟨a, t'⟩, hopen, rfl⟩ := Option.map_eq_some_iff.1 ho
  obtain ⟨r, hr, h1, h2, h3, h4⟩ := h.owner a t' hopen
  obtain ⟨d, hd, hd1, hd2, hd3⟩ := hm.defined r hr
  exact ⟨a, r, d, by rw [h.opened, hopen]; rfl, authorization?_eq_some.2 ⟨hr, h1⟩, h2,
    Db.definition?_eq_some.2 ⟨hd, hd1.trans h2, hd2.trans h3⟩, hd3.trans h4⟩

/-- What does not touch the scope's row, the grants or the results keeps the relation. -/
theorem Tracks.frame (h : Tracks scope db fs)
    (hc : circuit? db' scope.installationId scope.action =
      circuit? db scope.installationId scope.action)
    (ha : ∀ r ∈ db.actionRiskAuthorizations, r ∈ db'.actionRiskAuthorizations)
    (hr : ∀ x ∈ db.actionRiskResults, x ∈ db'.actionRiskResults) : Tracks scope db' fs where
  failures := by rw [← h.failures]; unfold consecutiveFailures; rw [hc]
  opened := by rw [← h.opened]; unfold openedBy; rw [hc]
  owner a t ho := by
    obtain ⟨r, hm, hrest⟩ := h.owner a t ho
    exact ⟨r, ha r hm, hrest⟩
  stored a hx := by
    obtain ⟨x, hm, hid⟩ := h.stored a hx
    exact ⟨x, hr x hm, hid⟩
  once := h.once

/-- The code's step is the breaker's. -/
theorem circuitStep_eq (b : Breaker.State ActionId TaskId) (a : ActionId) (t : TaskId)
    (threshold : Nat) {outcome : ActionOutcome} (ho : outcome = .succeeded ∨ outcome = .failed) :
    let c := circuitStep b.failures b.isOpen outcome threshold
    let b' := b.step (if outcome = .failed then .failed a t threshold else .succeeded a)
    b'.failures = c.failuresAfter ∧
      b'.openedBy = if c.openedNow then some (a, t) else b.openedBy := by
  obtain ⟨failures, opened⟩ := b
  rcases ho with rfl | rfl
  · cases opened with
    | none => exact ⟨rfl, rfl⟩
    | some x => exact ⟨rfl, rfl⟩
  · cases opened with
    | none =>
      by_cases hle : threshold ≤ failures + 1 <;>
        simp [circuitStep, Breaker.State.step, Breaker.State.opener?, Breaker.State.isOpen, hle]
    | some x =>
      simp [circuitStep, Breaker.State.step, Breaker.State.isOpen]

/-- A result of an action of the scope. -/
theorem Tracks.record (h : Tracks scope db fs) {t : Time} {r : ActionRiskAuthorization}
    {outcome : ActionOutcome} {opened : Bool} (hr : r ∈ db.actionRiskAuthorizations)
    (hi : r.installationId = scope.installationId) (ha : r.action = scope.action)
    (ho : outcome = .succeeded ∨ outcome = .failed)
    (hrec : recordResult t r outcome db = some (opened, db'))
    (hauth : db'.actionRiskAuthorizations = db.actionRiskAuthorizations) :
    Tracks scope db' (fs ++ [if outcome = .failed then
      .failed r.actionId r.taskId r.consecutiveFailureThreshold else .succeeded r.actionId]) := by
  have hscope : (⟨r.installationId, r.action⟩ : ActionRiskScope) = scope := by
    cases scope
    cases hi
    cases ha
    rfl
  obtain ⟨hnew, hstored, hkeep, hfail, hopen, -⟩ := recordResult_eq_some hrec
  rw [hscope] at hfail hopen
  have hisOpen := h.isOpen
  have hfresh : r.actionId ∉ fs.filterMap Breaker.Fact.action? := by
    intro hx
    obtain ⟨x, hxm, hid⟩ := h.stored _ hx
    exact Relation.find?_eq_none.1 hnew x hxm (decide_eq_true hid)
  have hstep := circuitStep_eq (Breaker.run fs) r.actionId r.taskId r.consecutiveFailureThreshold ho
  rw [h.failures, h.isOpen] at hfail hopen
  have haction : (if outcome = .failed then Breaker.Fact.failed r.actionId r.taskId
      r.consecutiveFailureThreshold else .succeeded r.actionId : CircuitFact).action? =
        some r.actionId := by split <;> rfl
  constructor
  · rw [Breaker.run_concat, hstep.1, hfail]
  · rw [Breaker.run_concat, hstep.2, hopen, h.opened]
    split <;> rfl
  · intro a t' hopen'
    rw [Breaker.run_concat, hstep.2] at hopen'
    rw [hauth]
    split at hopen'
    · cases hopen'
      exact ⟨r, hr, rfl, rfl, hi, ha⟩
    · exact h.owner a t' hopen'
  · intro a hm
    rw [List.filterMap_append, List.mem_append, List.filterMap_cons_some haction] at hm
    rcases hm with hm | hm
    · obtain ⟨x, hx, hid⟩ := h.stored a hm
      exact ⟨x, hkeep x hx, hid⟩
    · rw [List.mem_singleton.1 hm]
      exact hstored
  · rw [List.filterMap_append, List.filterMap_cons_some haction]
    refine List.nodup_append.2 ⟨h.once, List.nodup_singleton _, ?_⟩
    rintro a hm b hb rfl
    exact hfresh (List.mem_singleton.1 hb ▸ hm)

/-- The breaker's owner is the task whose resume the code lets clear the circuit. -/
theorem Tracks.owner?_iff (h : Tracks scope db fs) (hm : Metered db) {t : TaskId} :
    (Breaker.run fs).owner? = some t ↔
      ∃ c, ownedCircuit? db t scope.installationId = some c ∧ c.action = scope.action := by
  constructor
  · intro ho
    obtain ⟨a, r, d, hopen, hr, ht, hd, hact⟩ := h.owner_defined hm ho
    obtain ⟨c, hc, hca⟩ := Option.bind_eq_some_iff.1 hopen
    have hisOpen : c.circuitOpen = true := by
      rw [circuitOpen_eq (circuit?_eq_some.1 hc).1, hca]
      rfl
    exact ⟨c, ownedCircuit?_eq_some.2 ⟨d, a, r, hd, hact ▸ hc, hisOpen, hca, hr, ht⟩,
      (circuit?_eq_some.1 hc).2.2⟩
  · rintro ⟨c, hown, hact⟩
    obtain ⟨d, a, r, -, hc, -, hca, hr, rfl⟩ := ownedCircuit?_eq_some.1 hown
    have hd : d.action = scope.action := (circuit?_eq_some.1 hc).2.2.symm.trans hact
    have hopen : openedBy scope db = some a := Option.bind_eq_some_iff.2 ⟨c, hd ▸ hc, hca⟩
    rw [h.opened, Option.map_eq_some_iff] at hopen
    obtain ⟨⟨a', t'⟩, hrun, rfl⟩ := hopen
    obtain ⟨r', hr', h1, h2, -⟩ := h.owner _ _ hrun
    have heq : authorization? db a' = some r' := authorization?_eq_some.2 ⟨hr', h1⟩
    rw [heq] at hr
    cases hr
    unfold Breaker.State.owner?
    rw [hrun, ← h2]
    rfl

theorem clearOwnedFailureCircuit_eq_some {p : PendingTaskEvent} (ht : p.type = .taskResumed)
    (h : clearOwnedFailureCircuit p db = some db') :
    (ownedCircuit? db p.message.taskId p.message.installationId = none ∧ db' = db) ∨
      ∃ c circuits, ownedCircuit? db p.message.taskId p.message.installationId = some c ∧
        db.actionFailureCircuits.Replaced circuits c (clearedCircuit c p.receivedAt) ∧
        db' = { db with actionFailureCircuits := circuits } := by
  rw [clearOwnedFailureCircuit, if_pos ht] at h
  split at h
  · cases h
    exact .inl ⟨‹_›, rfl⟩
  · rename_i c hc
    simp only [Option.bind_eq_bind, Option.bind_eq_some_iff, Option.pure_def,
      Option.some.injEq] at h
    obtain ⟨-, -, circuits, hrep, rfl⟩ := h
    obtain ⟨_, _, _, -, hcirc, -⟩ := ownedCircuit?_eq_some.1 hc
    exact .inr ⟨c, circuits, hc, .of_replace? hrep (circuit?_eq_some.1 hcirc).1, rfl⟩

theorem actions_resumed (fs : List CircuitFact) (t : TaskId) :
    (fs ++ [Breaker.Fact.resumed t]).filterMap Breaker.Fact.action? = fs.filterMap Breaker.Fact.action? := by
  rw [List.filterMap_append]
  exact List.append_nil _

/-- A resume of a task that does not own the circuit. -/
theorem Tracks.quiet (h : Tracks scope db fs) {t : TaskId}
    (hr : (Breaker.run fs).step (.resumed t) = Breaker.run fs) :
    Tracks scope db (fs ++ [.resumed t]) where
  failures := by rw [Breaker.run_concat, hr]; exact h.failures
  opened := by rw [Breaker.run_concat, hr]; exact h.opened
  owner := by rw [Breaker.run_concat, hr]; exact h.owner
  stored := by rw [actions_resumed]; exact h.stored
  once := by rw [actions_resumed]; exact h.once

/-- A resume of a task of the scope's installation. -/
theorem Tracks.resume (h : Tracks scope db fs) (hm : Metered db) {p : PendingTaskEvent}
    (ht : p.type = .taskResumed) (hi : p.message.installationId = scope.installationId)
    (hc : clearOwnedFailureCircuit p db = some db') :
    Tracks scope db' (fs ++ [.resumed p.message.taskId]) := by
  have howner := h.owner?_iff hm (t := p.message.taskId)
  rw [← hi] at howner
  by_cases ho : (Breaker.run fs).owner? = some p.message.taskId
  · -- the circuit is the scope's, and is closed
    obtain ⟨c, hown, hact⟩ := howner.1 ho
    rcases clearOwnedFailureCircuit_eq_some ht hc with ⟨hnone, -⟩ | ⟨c', circuits, hown', hrep, rfl⟩
    · rw [hown] at hnone
      cases hnone
    · rw [hown] at hown'
      cases hown'
      obtain ⟨d, a, r, -, hcirc, -⟩ := ownedCircuit?_eq_some.1 hown
      have hd : d.action = scope.action := (circuit?_eq_some.1 hcirc).2.2.symm.trans hact
      rw [hd, hi] at hcirc
      obtain ⟨hnew, -⟩ := clearedCircuit_replaced hcirc hrep
        { db with actionFailureCircuits := circuits } rfl
      have hrun : Breaker.run (fs ++ [.resumed p.message.taskId]) = .closed := by
        rw [Breaker.run_concat]
        simp [Breaker.State.step, ho]
      constructor
      · rw [hrun]
        unfold consecutiveFailures
        rw [hnew]
        rfl
      · rw [hrun]
        unfold openedBy
        rw [hnew]
        rfl
      · rw [hrun]
        intro a t hopen
        cases hopen
      · rw [actions_resumed]
        exact h.stored
      · rw [actions_resumed]
        exact h.once
  · -- a circuit of another action, or none
    have hquiet : (Breaker.run fs).step (.resumed p.message.taskId) = Breaker.run fs := by
      simp [Breaker.State.step, ho]
    rcases clearOwnedFailureCircuit_eq_some ht hc with ⟨-, rfl⟩ | ⟨c, circuits, hown, hrep, rfl⟩
    · exact h.quiet hquiet
    · obtain ⟨d, a, r, -, hcirc, -⟩ := ownedCircuit?_eq_some.1 hown
      have hne : scope.action ≠ d.action := by
        intro heq
        exact ho (howner.2 ⟨c, hown, (circuit?_eq_some.1 hcirc).2.2.trans heq.symm⟩)
      obtain ⟨-, hother⟩ := clearedCircuit_replaced hcirc hrep
        { db with actionFailureCircuits := circuits } rfl
      have hframe : Tracks scope { db with actionFailureCircuits := circuits } fs :=
        h.frame (hother _ _ fun heq => hne (Prod.ext_iff.1 heq).2) (fun _ hr => hr) fun _ hx => hx
      exact hframe.quiet hquiet

/-- A clearing that is not for the scope's installation. -/
theorem clearOwnedFailureCircuit_other {p : PendingTaskEvent}
    (h : clearOwnedFailureCircuit p db = some db')
    (hne : ¬(p.type = .taskResumed ∧ p.message.installationId = scope.installationId)) :
    circuit? db' scope.installationId scope.action =
      circuit? db scope.installationId scope.action := by
  by_cases ht : p.type = .taskResumed
  · rcases clearOwnedFailureCircuit_eq_some ht h with ⟨-, rfl⟩ | ⟨c, circuits, hown, hrep, rfl⟩
    · rfl
    · obtain ⟨d, a, r, -, hcirc, -⟩ := ownedCircuit?_eq_some.1 hown
      refine (clearedCircuit_replaced hcirc hrep _ rfl).2 _ _ fun heq => hne ⟨ht, ?_⟩
      exact (Prod.ext_iff.1 heq).1.symm
  · rw [clearOwnedFailureCircuit, if_neg ht] at h
    cases h
    rfl

/-! ## A list of operations -/

theorem riskOutcome?_eq_some {p : PendingTaskEvent} {a : ActionId} {outcome : ActionOutcome}
    (h : riskOutcome? p = some (a, outcome)) :
    (p.type = .stepCompleted ∨ p.type = .stepFailed) ∧
      (outcome = .succeeded ∨ outcome = .failed) := by
  simp only [riskOutcome?, Option.bind_eq_bind, Option.bind_eq_some_iff, Option.guard_eq_some',
    Option.pure_def, Option.some.injEq, Prod.mk.injEq] at h
  obtain ⟨_, -, o, -, -, hg, -, rfl⟩ := h
  exact hg

/-- What an accepted event does to results and circuits. -/
theorem Tracks.riskStep (h : Tracks scope db fs) (hm : Metered db) {p : PendingTaskEvent}
    {opened : Bool} {results : Relation ActionRiskResult} {circuits : Relation ActionFailureCircuit}
    (hr : RiskStep p db opened results circuits) :
    Tracks scope { db with actionRiskResults := results, actionFailureCircuits := circuits }
      (fs ++ eventFacts scope db p) := by
  obtain ⟨recorded, hrec, hclear⟩ := hr
  unfold recordActionRiskResult at hrec
  unfold eventFacts
  cases hout : riskOutcome? p with
  | none =>
    rw [hout] at hrec
    cases hrec
    dsimp only
    split
    · rename_i hg
      exact h.resume hm hg.1 hg.2 hclear
    · rename_i hg
      obtain ⟨circuits', hdb⟩ := clearOwnedFailureCircuit_frame hclear
      have hres : results = db.actionRiskResults := congrArg Db.actionRiskResults hdb
      rw [List.append_nil]
      exact h.frame (clearOwnedFailureCircuit_other hclear hg) (fun _ hx => hx)
        fun x hx => hres ▸ hx
  | some x =>
    obtain ⟨a, outcome⟩ := x
    obtain ⟨htype, ho⟩ := riskOutcome?_eq_some hout
    rw [hout] at hrec
    -- a step event resumes nothing
    have hdb : recorded =
        { db with actionRiskResults := results, actionFailureCircuits := circuits } := by
      rw [clearOwnedFailureCircuit, if_neg (by rcases htype with ht | ht <;> rw [ht] <;> decide)]
        at hclear
      exact Option.some.inj hclear
    rw [← hdb]
    dsimp only at hrec ⊢
    cases hauth : authorization? db a with
    | none =>
      rw [hauth] at hrec
      cases hrec
      simpa using h
    | some r =>
      rw [hauth] at hrec
      obtain ⟨hrm, rfl⟩ := authorization?_eq_some.1 hauth
      have hsame : recorded.actionRiskAuthorizations = db.actionRiskAuthorizations := by rw [hdb]
      dsimp only
      split
      · rename_i hg
        exact h.record hrm hg.1 hg.2 ho hrec hsame
      · rename_i hg
        obtain ⟨-, -, hkeep, -, -, hother⟩ := recordResult_eq_some hrec
        rw [List.append_nil]
        refine h.frame (hother _ _ fun heq => hg ?_) (fun x hx => hsame ▸ hx) hkeep
        exact ⟨(Prod.ext_iff.1 heq).1.symm, (Prod.ext_iff.1 heq).2.symm⟩

/-- Only an event touches results and circuits. -/
theorem Effect.risk_kept {o : Op} {db db' : Db} (h : Effect o db db') :
    (db'.actionRiskResults = db.actionRiskResults ∧
      db'.actionFailureCircuits = db.actionFailureCircuits) ∨ ∃ m t, o = .receive m t := by
  cases h with
  | converged => exact .inr ⟨_, _, rfl⟩
  | _ => exact .inl ⟨rfl, rfl⟩

/-- One operation. -/
theorem Tracks.step (h : Tracks scope db fs) (hm : Metered db) (o : Op) :
    Tracks scope (exec o db).2 (fs ++ facts scope db o) := by
  have he := exec_effect o db
  cases o with
  | receive m t =>
    show Tracks scope (db.atomic (receive m t db)).2 (fs ++ facts scope db (.receive m t))
    cases hrec : receive m t db with
    | none => simpa [facts, hrec, Db.atomic] using h
    | some x =>
      obtain ⟨r, db'⟩ := x
      obtain ⟨p, task, hp, -, -, -, ⟨hdup, -, hproj⟩ | ⟨rfl, -, rfl⟩⟩ := receive_eq_some hrec
      · have hfacts : facts scope db (.receive m t) = eventFacts scope db p := by
          simp [facts, hrec, hp, hdup]
        obtain ⟨attempt, action, opened, j, results, circuits, attempts, actions, events, tasks,
          -, hr, -, -, -, -, -, rfl⟩ := hproj
        rw [hfacts]
        exact (h.riskStep hm hr).frame rfl (fun _ hx => hx) fun _ hx => hx
      · simpa [facts, hrec, hp, Db.atomic] using h
  | _ =>
    rcases he.risk_kept with ⟨hr, hc⟩ | ⟨_, _, heq⟩
    · show Tracks scope _ (fs ++ [])
      rw [List.append_nil]
      exact h.frame (by unfold circuit?; rw [hc]) (fun _ => he.authorization_kept)
        fun x hx => hr ▸ hx
    · cases heq

theorem Tracks.after (h : Tracks scope db fs) (hm : Metered db) (os : List Op) :
    Tracks scope (after exec db os) (fs ++ history scope db os) := by
  induction os generalizing db fs with
  | nil => simpa [history, AutomationTool.after] using h
  | cons o os ih =>
    rw [history, ← List.append_assoc]
    exact ih (h.step hm o) (hm.step (exec_effect o db))

/-- An operation tells a scope's breaker at most one thing. -/
theorem facts_cases (scope : ActionRiskScope) (db : Db) (o : Op) :
    facts scope db o = [] ∨ ∃ f, facts scope db o = [f] := by
  have hevent : ∀ p, eventFacts scope db p = [] ∨ ∃ f, eventFacts scope db p = [f] := by
    intro p
    unfold eventFacts
    split
    · split
      · split
        · exact .inr ⟨_, rfl⟩
        · exact .inl rfl
      · exact .inl rfl
    · split
      · exact .inr ⟨_, rfl⟩
      · exact .inl rfl
  cases o with
  | receive m t =>
    simp only [facts]
    split
    · split
      · exact .inl rfl
      · exact hevent _
    · exact .inl rfl
  | _ => exact .inl rfl

end AutomationTool.ControlPlane
