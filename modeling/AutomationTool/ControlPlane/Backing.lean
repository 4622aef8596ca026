import AutomationTool.ControlPlane.Authorizations

/-!
# What a grant rests on

Once an executor works on a task, the targets, the exclusions and the confirmation of the
task are frozen (`Effect.selection`), so the rows a grant was checked against stay
(`Backed`, `grants_stand`). The action of a grant has the ordinal of its target, and two
actions of one attempt have two ordinals: a target is granted once (`GrantedOnce`).
-/
namespace AutomationTool.ControlPlane

open Protocol TaskTargetRepository TaskTargetPreviewRepository TaskDiscoveryRepository
  TaskEventConvergence TaskEventConvergenceRepository ActionRiskAuthorizationRepository

/-! ## Attempts at work -/

section Attached

variable {db : Db} {t t' : TaskId} {i i' : InstallationId} {e e' : ExecutionAttemptId}

theorem Attached.attempt_eq (h : Attached db t i e) (h' : Attached db t i' e') : e = e' := by
  obtain ⟨task, hm, rfl, -, x, hx, rfl, -⟩ := h
  obtain ⟨task', hm', hid, -, x', hx', rfl, -⟩ := h'
  have heq : task' = task := task_unique hm' hm hid
  subst heq
  rw [hx.unique hx']

theorem Attached.task_eq (h : Attached db t i e) (h' : Attached db t' i' e) : t = t' ∧ i = i' := by
  obtain ⟨task, -, rfl, rfl, x, hx, rfl, -⟩ := h
  obtain ⟨task', -, rfl, rfl, x', hx', hid, -⟩ := h'
  have heq : x' = x := attempt_unique hx'.mem hx.mem hid
  subst heq
  exact ⟨hx.taskId.symm.trans hx'.taskId, hx.installation.symm.trans hx'.installation⟩

/-- Its task is not in discovery and not being confirmed. -/
theorem Attached.engaged (h : Attached db t i e) {task : Task} (ht : db.task? t i = some task) :
    ∃ s, Engaged task.status s := by
  obtain ⟨task', hm, rfl, rfl, x, -, -, he⟩ := h
  rw [Db.task?_eq_some.2 ⟨hm, rfl, rfl⟩] at ht
  cases ht
  exact ⟨x.status, he⟩

/-- A running attempt is at work. -/
theorem attached_of_runningFor {q : AuthorizationRequest} {task : Task}
    (ht : db.task? q.taskId q.installationId = some task) (h : runningFor db q task) :
    Attached db q.taskId q.installationId q.executionAttemptId := by
  obtain ⟨hs, hcur, -, a, ha, -⟩ := h
  obtain ⟨hm, hid, hi⟩ := Db.task?_eq_some.1 ht
  obtain ⟨ham, ha0, ha1, ha2⟩ := Db.attempt?_eq_some.1 ha
  refine ⟨task, hm, hid, hi, a, ⟨ham, ?_, ha1.trans hid.symm, ha2.trans hi.symm⟩, ha0, ?_⟩
  · rw [hcur, ha0]
  · rw [hs]
    exact trivial

theorem Granted.attached {q : AuthorizationRequest} {target : TaskTarget} {definition : Definition}
    {interval : Nat} (h : Granted q db target definition interval) :
    Attached db q.taskId q.installationId q.executionAttemptId := by
  obtain ⟨task, ht, hr, -⟩ := admitted?_task h.admitted
  exact attached_of_runningFor ht hr

end Attached

/-! ## The selection is frozen -/

/-- The task has the same preview and the same confirmation. -/
structure SameSelection (t : TaskId) (i : InstallationId) (db db' : Db) : Prop where
  targets : ∀ r, r.taskId = t → r.installationId = i → (r ∈ db'.taskTargets ↔ r ∈ db.taskTargets)
  exclusions : ∀ x, x.taskId = t → x.installationId = i →
    (x ∈ db'.taskTargetExclusions ↔ x ∈ db.taskTargetExclusions)
  confirmations : ∀ c, c.taskId = t → c.installationId = i →
    (c ∈ db'.taskTargetConfirmations ↔ c ∈ db.taskTargetConfirmations)

theorem Effect.selection {o : Op} {db db' : Db} {t : TaskId} {i : InstallationId}
    {e : ExecutionAttemptId} (h : Effect o db db') (ha : Attached db t i e) :
    SameSelection t i db db' := by
  -- the writers of the selection need a task no executor works on
  have hother : ∀ {t₀ i₀ task}, db.task? t₀ i₀ = some task → (∀ s, ¬Engaged task.status s) →
      ¬(t = t₀ ∧ i = i₀) := by
    rintro t₀ i₀ task ht hfree ⟨rfl, rfl⟩
    obtain ⟨s, hs⟩ := ha.engaged ht
    exact hfree s hs
  cases h with
  | discoveryReported hreq hv =>
    obtain ⟨ht, -, -, hs, -⟩ := requireActiveAttempt_eq_some hreq
    have hne := hother ht (by rw [hs]; exact fun _ => id)
    constructor
    · rintro r rfl rfl
      exact hv.targets_iff r hne
    · rintro x rfl rfl
      exact hv.exclusions_iff x hne
    · rintro c rfl rfl
      exact hv.confirmations_iff c hne
  | exclusionsReplaced ht hs hv =>
    have hne := hother ht (by rw [hs]; exact fun _ => id)
    refine ⟨fun _ _ _ => Iff.rfl, ?_, fun _ _ _ => Iff.rfl⟩
    rintro x rfl rfl
    exact hv x hne
  | confirmed ht hs hv =>
    have hne := hother ht (by rw [hs]; exact fun _ => id)
    refine ⟨fun _ _ _ => Iff.rfl, fun _ _ _ => Iff.rfl, ?_⟩
    rintro c rfl rfl
    rw [Relation.mem_insert? hv]
    refine ⟨fun hc => hc.resolve_right ?_, .inl⟩
    rintro rfl
    exact hne ⟨rfl, rfl⟩
  | _ => exact ⟨fun _ _ _ => Iff.rfl, fun _ _ _ => Iff.rfl, fun _ _ _ => Iff.rfl⟩

/-! ## Actions -/

/-- Same action; one that was over is as it was. -/
structure SameAction (a a' : TaskAction) : Prop where
  id : a'.id = a.id
  attempt : a'.executionAttemptId = a.executionAttemptId
  taskId : a'.taskId = a.taskId
  installation : a'.installationId = a.installationId
  ordinal : a'.ordinal = a.ordinal
  settled : a.status.isTerminal = true → a' = a

theorem SameAction.refl (a : TaskAction) : SameAction a a := ⟨rfl, rfl, rfl, rfl, rfl, fun _ => rfl⟩

theorem SameAction.trans {a b c : TaskAction} (h : SameAction a b) (h' : SameAction b c) :
    SameAction a c where
  id := h'.id.trans h.id
  attempt := h'.attempt.trans h.attempt
  taskId := h'.taskId.trans h.taskId
  installation := h'.installation.trans h.installation
  ordinal := h'.ordinal.trans h.ordinal
  settled hover := by
    have hb := h.settled hover
    exact (h'.settled (hb ▸ hover)).trans hb

/-- An effect, seen from `task_actions` and `action_risk_authorizations`. -/
inductive ActionStep (o : Op) (db db' : Db) : Prop where
  | unchanged (hx : db'.taskActions = db.taskActions)
      (hr : db'.actionRiskAuthorizations = db.actionRiskAuthorizations)
  | moved {a a' : TaskAction} (hx : db.taskActions.Replaced db'.taskActions a a')
      (hs : SameAction a a') (hr : db'.actionRiskAuthorizations = db.actionRiskAuthorizations)
  | granted {q : AuthorizationRequest} {target : TaskTarget} {definition : Definition}
      {interval : Nat} (ho : o = .authorize q) (hg : Granted q db target definition interval)
      (hx : db.taskActions.insert? (actionRow q target) = some db'.taskActions)
      (hr : db.actionRiskAuthorizations.insert? (authorizationRow q target interval db) =
        some db'.actionRiskAuthorizations)

/-- Only a pending action is moved. -/
theorem validateAction_pending {row : TaskAction} {p : PendingTaskEvent}
    {r : ActionStatus × ActionOutcome} (h : validateAction row p = some r) :
    row.outcome = .pending := by
  by_contra hp
  have hf : (row.outcome == .pending) = false := by simpa using hp
  unfold validateAction at h
  simp only [hf, Bool.and_false, Bool.false_eq_true, if_false] at h
  split at h
  · cases h
  · split at h <;> cases h

theorem TaskAction.Coherent.live {a : TaskAction} (h : a.Coherent) (hp : a.outcome = .pending) :
    a.status.isTerminal = false := by
  unfold TaskAction.Coherent at h
  rw [hp] at h
  cases hs : a.status <;> rw [hs] at h <;> first | rfl | exact h.elim

/-- An event moves an action that is not over. -/
theorem ActionMove.live {db : Db} {p : PendingTaskEvent} {m : ActionMove}
    (h : namedAction db p = some (some m)) :
    m.row ∈ db.taskActions ∧ m.row.status.isTerminal = false := by
  obtain ⟨a, -, hm⟩ := namedAction_eq_some h
  obtain ⟨⟨hmem, -⟩, hv⟩ := actionMove?_eq_some hm
  obtain ⟨-, -, -, -, hc⟩ := Relation.check_of_mem hmem
  exact ⟨hmem, TaskAction.Coherent.live hc (validateAction_pending hv)⟩

theorem projectedAction_same {p : PendingTaskEvent} {m : ActionMove}
    (h : m.row.status.isTerminal = false) : SameAction m.row (projectedAction p m) := by
  have hover : m.row.status.isTerminal = true → projectedAction p m = m.row := by
    rw [h]
    nofun
  unfold projectedAction at hover ⊢
  split <;> rename_i hs
  · exact ⟨rfl, rfl, rfl, rfl, rfl, fun _ => rfl⟩
  · rw [if_neg hs] at hover
    exact ⟨rfl, rfl, rfl, rfl, rfl, hover⟩

theorem Effect.actionStep {o : Op} {db db' : Db} (h : Effect o db db') : ActionStep o db db' := by
  cases h with
  | @converged _ _ p _ _ _ action _ _ _ _ _ _ _ _ hp h hr ha hx =>
    cases action with
    | none => exact .unchanged hx rfl
    | some m => exact .moved hx (projectedAction_same (ActionMove.live h.action_eq).2) rfl
  | authorized hg hx ha => exact .granted rfl hg hx ha
  | _ => exact .unchanged rfl rfl

/-- Every action is found again. -/
theorem ActionStep.action_kept {o : Op} {db db' : Db} (h : ActionStep o db db') {a : TaskAction}
    (ha : a ∈ db.taskActions) : ∃ a' ∈ db'.taskActions, SameAction a a' := by
  cases h with
  | unchanged hx hr => exact ⟨a, hx ▸ ha, .refl _⟩
  | @moved old new hx hs hr =>
    by_cases heq : a = old
    · subst heq
      exact ⟨new, hx.new_mem, hs⟩
    · exact ⟨a, hx.mem_of_ne ha heq, .refl _⟩
  | granted ho hg hx hr => exact ⟨a, (Relation.mem_insert? hx).2 (.inl ha), .refl _⟩

/-- Every action was there before, or is the one a grant adds. -/
theorem ActionStep.action_origin {o : Op} {db db' : Db} (h : ActionStep o db db') {a' : TaskAction}
    (ha : a' ∈ db'.taskActions) : (∃ a ∈ db.taskActions, SameAction a a') ∨
      ∃ q target definition interval, o = .authorize q ∧
        Granted q db target definition interval ∧ a' = actionRow q target := by
  cases h with
  | unchanged hx hr => exact .inl ⟨a', hx ▸ ha, .refl _⟩
  | moved hx hs hr =>
    rcases hx.cases ha with rfl | ⟨ha, -⟩
    · exact .inl ⟨_, hx.old_mem, hs⟩
    · exact .inl ⟨a', ha, .refl _⟩
  | granted ho hg hx hr =>
    rcases (Relation.mem_insert? hx).1 ha with ha | rfl
    · exact .inl ⟨a', ha, .refl _⟩
    · exact .inr ⟨_, _, _, _, ho, hg, rfl⟩

/-! ## Grants -/

/-- The rows a grant rests on. -/
structure BackedBy (db : Db) (r : ActionRiskAuthorization) (action : TaskAction)
    (target : TaskTarget) : Prop where
  attached : Attached db r.taskId r.installationId r.executionAttemptId
  action_mem : action ∈ db.taskActions
  action_id : action.id = r.actionId
  action_attempt : action.executionAttemptId = r.executionAttemptId
  action_task : action.taskId = r.taskId
  action_installation : action.installationId = r.installationId
  target_mem : target ∈ db.taskTargets
  target_id : target.id = r.targetId
  target_task : target.taskId = r.taskId
  target_installation : target.installationId = r.installationId
  ordinal : action.ordinal = target.ordinal
  confirmed : ∃ c ∈ db.taskTargetConfirmations, c.taskId = r.taskId ∧
    c.installationId = r.installationId

def Backed (db : Db) : Prop :=
  ∀ r ∈ db.actionRiskAuthorizations, ∃ action target, BackedBy db r action target

/-- No target of a task is granted twice. -/
def GrantedOnce (db : Db) : Prop :=
  ∀ r ∈ db.actionRiskAuthorizations, ∀ r' ∈ db.actionRiskAuthorizations, r.taskId = r'.taskId →
    r.targetId = r'.targetId → r = r'

theorem BackedBy.step {o : Op} {db db' : Db} {r : ActionRiskAuthorization} {action : TaskAction}
    {target : TaskTarget} (h : BackedBy db r action target) (he : Effect o db db') :
    ∃ action', BackedBy db' r action' target ∧ SameAction action action' := by
  obtain ⟨a, ham, hs⟩ := he.actionStep.action_kept h.action_mem
  have hsel := he.selection h.attached
  obtain ⟨c, hc, hct, hci⟩ := h.confirmed
  refine ⟨a, ⟨h.attached.step he.attemptStep, ham, hs.id.trans h.action_id,
    hs.attempt.trans h.action_attempt, hs.taskId.trans h.action_task,
    hs.installation.trans h.action_installation, ?_, h.target_id, h.target_task, h.target_installation,
    hs.ordinal.trans h.ordinal, c, ?_, hct, hci⟩, hs⟩
  · exact (hsel.targets target h.target_task h.target_installation).2 h.target_mem
  · exact (hsel.confirmations c hct hci).2 hc

/-- The grant of `q` when it is given. -/
theorem Granted.backedBy {q : AuthorizationRequest} {db db' : Db} {target : TaskTarget}
    {definition : Definition} {interval : Nat} (hg : Granted q db target definition interval)
    (he : Effect (.authorize q) db db')
    (hx : db.taskActions.insert? (actionRow q target) = some db'.taskActions) :
    BackedBy db' (authorizationRow q target interval db) (actionRow q target) target := by
  obtain ⟨c, hc⟩ := hg.targetConfirmed
  have hsel := he.selection hg.attached
  refine ⟨hg.attached.step he.attemptStep, (Relation.mem_insert? hx).2 (.inr rfl), rfl, rfl, rfl,
    rfl, ?_, hc.target_id, hc.target_task, hc.target_installation, rfl, c, ?_, hc.confirmation_task,
    hc.confirmation_installation⟩
  · exact (hsel.targets target hc.target_task hc.target_installation).2 hc.target_mem
  · exact (hsel.confirmations c hc.confirmation_task hc.confirmation_installation).2
      hc.confirmation_mem

/-- A target that was granted is not granted again: its ordinal is taken in the attempt. -/
theorem Backed.fresh {q : AuthorizationRequest} {db : Db} {rows : Relation TaskAction}
    {target : TaskTarget} {definition : Definition} {interval : Nat} (h : Backed db)
    (hg : Granted q db target definition interval)
    (hx : db.taskActions.insert? (actionRow q target) = some rows) {r : ActionRiskAuthorization}
    (hr : r ∈ db.actionRiskAuthorizations) (ht : r.taskId = q.taskId) : r.targetId ≠ q.targetId := by
  intro hid
  obtain ⟨action, target', hb⟩ := h r hr
  obtain ⟨hm, htid, -⟩ := admitted?_target hg.admitted
  have htarget : target' = target := Relation.eq_of_not_apart hb.target_mem hm
    fun hab => hab.1 (hb.target_id.trans (hid.trans htid.symm))
  have hattempt : r.executionAttemptId = q.executionAttemptId :=
    (ht ▸ hb.attached).attempt_eq hg.attached
  have hapart := Relation.insert?_fresh hx action hb.action_mem
  refine hapart.2 ⟨hb.action_attempt.trans hattempt, ?_⟩
  rw [hb.ordinal, htarget]
  rfl

theorem backed_empty : Backed Db.empty := fun _ h => absurd h (Relation.not_mem_empty _)

theorem grantedOnce_empty : GrantedOnce Db.empty := fun _ h => absurd h (Relation.not_mem_empty _)

theorem Backed.step {o : Op} {db db' : Db} (hb : Backed db) (hone : GrantedOnce db)
    (he : Effect o db db') : Backed db' ∧ GrantedOnce db' := by
  have hkeep : ∀ r ∈ db.actionRiskAuthorizations, ∃ action target, BackedBy db' r action target := by
    intro r hr
    obtain ⟨action, target, h⟩ := hb r hr
    obtain ⟨action', h', -⟩ := h.step he
    exact ⟨action', target, h'⟩
  have hsame : db'.actionRiskAuthorizations = db.actionRiskAuthorizations →
      Backed db' ∧ GrantedOnce db' := by
    intro hr
    refine ⟨fun r hm => hkeep r (hr ▸ hm), fun r hm r' hm' => ?_⟩
    exact hone r (hr ▸ hm) r' (hr ▸ hm')
  cases he.actionStep with
  | unchanged hx hr => exact hsame hr
  | moved hx hs hr => exact hsame hr
  | @granted q target definition interval ho hg hx hr =>
    subst ho
    constructor
    · intro r hm
      rcases (Relation.mem_insert? hr).1 hm with hm | rfl
      · exact hkeep r hm
      · exact ⟨_, _, hg.backedBy he hx⟩
    · intro r hm r' hm' ht hid
      rcases (Relation.mem_insert? hr).1 hm with hm | rfl <;>
        rcases (Relation.mem_insert? hr).1 hm' with hm' | rfl
      · exact hone r hm r' hm' ht hid
      · exact absurd hid (hb.fresh hg hx hm ht)
      · exact absurd hid.symm (hb.fresh hg hx hm' ht.symm)
      · rfl

/-- Grants are backed, and no target is granted twice. -/
theorem backed_inductive : system.Inductive fun db => Backed db ∧ GrantedOnce db :=
  effect_inductive ⟨backed_empty, grantedOnce_empty⟩ fun _ _ _ h he => h.1.step h.2 he

/-- **A grant stands on what it was checked against**, whatever comes after it: it is kept, its
task's targets, exclusions and confirmation stay as they are, and so does its action once it is
over. -/
theorem grants_stand {db db' : Db} {ls : List (Call Op Op.Ret)} (h : system.Reachable db)
    (hrun : system.Run db ls db') {r : ActionRiskAuthorization}
    (hr : r ∈ db.actionRiskAuthorizations) :
    r ∈ db'.actionRiskAuthorizations ∧ SameSelection r.taskId r.installationId db db' ∧
      ∃ action target action', BackedBy db r action target ∧ BackedBy db' r action' target ∧
        SameAction action action' := by
  obtain ⟨action, target, hb⟩ := (backed_inductive.reachable h).1 r hr
  suffices hkept : r ∈ db'.actionRiskAuthorizations ∧
      SameSelection r.taskId r.installationId db db' ∧
      ∃ action', BackedBy db' r action' target ∧ SameAction action action' by
    obtain ⟨hr', hsel, action', hb', hsame⟩ := hkept
    exact ⟨hr', hsel, action, target, action', hb, hb', hsame⟩
  clear h
  induction hrun generalizing action with
  | nil => exact ⟨hr, ⟨fun _ _ _ => .rfl, fun _ _ _ => .rfl, fun _ _ _ => .rfl⟩, action, hb, .refl _⟩
  | @cons db _ _ c _ hs _ ih =>
    have he := exec_effect c.1 db
    rw [hs.2] at he
    have hsel := he.selection hb.attached
    obtain ⟨a, ha, hsame⟩ := hb.step he
    obtain ⟨hr', hsel', action', hb', hsame'⟩ := ih (he.authorization_kept hr) a ha
    refine ⟨hr', ⟨?_, ?_, ?_⟩, action', hb', hsame.trans hsame'⟩
    · exact fun x ht hi => (hsel'.targets x ht hi).trans (hsel.targets x ht hi)
    · exact fun x ht hi => (hsel'.exclusions x ht hi).trans (hsel.exclusions x ht hi)
    · exact fun x ht hi => (hsel'.confirmations x ht hi).trans (hsel.confirmations x ht hi)

/-- A grant stands when its installation is revoked. -/
theorem revoked_stand :
    let db := after exec Db.empty Walkthrough.granted
    ∃ r ∈ db.actionRiskAuthorizations,
      r ∈ (after exec db [.revoke 1 1 (seconds 9)]).actionRiskAuthorizations := by
  intro db
  have hne : db.actionRiskAuthorizations.rows ≠ [] := by decide
  obtain ⟨r, hr⟩ := List.exists_mem_of_ne_nil _ hne
  exact ⟨r, hr, (grants_stand (reachable_after _)
    (run_replies _ (allOk_of_forall (fun _ _ _ => trivial) _)) hr).1⟩

end AutomationTool.ControlPlane
