import AutomationTool.Core.Quota
import AutomationTool.ControlPlane.Coupling

/-!
# The grants of a run

`grants` reads the risk authorizations off a list of operations, in the order they were
given, and is what the table holds. Every writer counts what is there under the
installation's lock, so the counts a grant records are the true ones and the limits on
the latest grant bound all of them, whatever the limits of the earlier ones were.
-/
namespace AutomationTool.ControlPlane

open Protocol TaskTargetRepository TaskTargetPreviewRepository TaskEventConvergenceRepository
  ActionRiskAuthorizationRepository

/-! ## What a grant found -/

section Granted

variable {q : AuthorizationRequest} {db : Db} {definition : Definition} {target : TaskTarget}

theorem authorization?_eq_some {a : ActionId} {r : ActionRiskAuthorization} :
    authorization? db a = some r ↔ r ∈ db.actionRiskAuthorizations ∧ r.actionId = a :=
  Relation.find?_key_iff fun _ _ ha hb hab => hab.1 (ha.trans hb.symm)

/-- The task runs the attempt, and its definition is the one it has the action of. -/
theorem admitted?_task (h : admitted? q db = some (definition, target)) :
    ∃ task, db.task? q.taskId q.installationId = some task ∧ runningFor db q task ∧
      db.definition? q.taskId q.installationId = some definition ∧
      definition.action = q.policy.scope.action := by
  simp only [admitted?, Option.bind_eq_bind, Option.bind_eq_some_iff, Option.guard_eq_some',
    Option.pure_def, Option.some.injEq, Prod.mk.injEq] at h
  obtain ⟨task, ht, -, hr, d, hd, -, ha, -, -, -, -, -, -, -, -, -, -, rfl, -⟩ := h
  exact ⟨task, ht, hr, hd, ha⟩

/-- The target is selected, as the user confirmed it. -/
theorem admitted?_target (h : admitted? q db = some (definition, target)) :
    target ∈ db.taskTargets ∧ target.id = q.targetId ∧ target.taskId = q.taskId ∧
      target.installationId = q.installationId ∧ target.disposition = .eligible ∧
      ¬isExcluded db q ∧
      ∃ confirmation, db.confirmation? q.taskId q.installationId = some confirmation ∧
        target.pageRevision = confirmation.pageRevision ∧
        confirmation.intentFingerprint.selectedTargetIds =
          selectedTargetIds db q.taskId q.installationId confirmation.pageRevision := by
  simp only [admitted?, Option.bind_eq_bind, Option.bind_eq_some_iff, Option.guard_eq_some',
    Option.pure_def, Option.some.injEq, Prod.mk.injEq] at h
  obtain ⟨task, -, -, -, d, -, -, -, -, -, c, hc, intent, hi, r, hr, -, hg, -, rfl⟩ := h
  obtain ⟨hm, hp⟩ := Relation.mem_of_find? hr
  obtain ⟨h1, h2, h3⟩ := of_decide_eq_true hp
  refine ⟨hm, h1, h2, h3, hg.2.1, hg.2.2.1, c, hc, hg.1, ?_⟩
  rw [hg.2.2.2.1.2.2.1]
  unfold confirmationIntent? at hi
  dsimp only at hi
  split at hi
  · cases hi
    rfl
  · cases hi

theorem mem_selectedTargetIds {t : TaskId} {i : InstallationId} {page : Nat} {r : TaskTarget}
    (h : r ∈ db.taskTargets) (ht : r.taskId = t) (hi : r.installationId = i)
    (hp : r.pageRevision = page) (he : r.disposition = .eligible) (hx : ¬excluded db r) :
    r.id ∈ selectedTargetIds db t i page := by
  refine List.mem_map.2 ⟨r, List.mem_filter.2 ⟨?_, decide_eq_true ⟨he, hx⟩⟩, rfl⟩
  refine (List.mem_insertionSort _).2 (List.mem_filter.2 ⟨?_, decide_eq_true hp⟩)
  exact List.mem_filter.2 ⟨h, decide_eq_true ⟨ht, hi⟩⟩

/-- None of the limits was reached, and the interval has passed since every grant of the
scope. -/
theorem withinLimits_eq_ok {interval : Nat} (h : withinLimits q definition db = .ok interval) :
    interval = max q.policy.minimumIntervalSeconds definition.minimumIntervalSeconds ∧
      db.actionRiskAuthorizations.rows.countP (inTask q) < q.policy.taskActionLimit ∧
      db.actionRiskAuthorizations.rows.countP (onDay q) < q.policy.dailyActionLimit ∧
      ∀ a ∈ db.actionRiskAuthorizations, inScope q a = true →
        a.authorizedAt + seconds interval ≤ q.authorizedAt := by
  unfold withinLimits at h
  split at h
  · cases h
  · rename_i htask
    split at h
    · cases h
    · rename_i hday
      -- nothing of the scope is later than the time looked up
      have hle : ∀ {a}, a ∈ db.actionRiskAuthorizations → inScope q a = true →
          ∃ previous, lastAuthorizedAt db q = some previous ∧ a.authorizedAt ≤ previous := by
        intro a ha hs
        have hany : db.actionRiskAuthorizations.rows.any (inScope q) = true :=
          List.any_eq_true.2 ⟨a, ha, hs⟩
        refine ⟨_, if_pos hany, ?_⟩
        exact Relation.le_maxOf (f := ActionRiskAuthorization.authorizedAt) ha hs
      split at h
      · rename_i hnone
        cases h
        refine ⟨rfl, by omega, by omega, fun a ha hs => ?_⟩
        obtain ⟨_, hsome, -⟩ := hle ha hs
        rw [hnone] at hsome
        cases hsome
      · rename_i previous hprevious
        split at h
        · cases h
        · dsimp only at h
          split at h
          · cases h
          · rename_i hlate
            cases h
            refine ⟨rfl, by omega, by omega, fun a ha hs => ?_⟩
            obtain ⟨x, hsome, hax⟩ := hle ha hs
            rw [hprevious] at hsome
            cases hsome
            exact Nat.le_trans (Nat.add_le_add_right hax _) (Nat.le_of_not_lt hlate)

end Granted

/-- The target of a grant is eligible, not excluded, and one of those the user confirmed. -/
structure TargetConfirmed (db : Db) (a : ActionRiskAuthorization) (target : TaskTarget)
    (confirmation : TaskTargetConfirmation) : Prop where
  target_mem : target ∈ db.taskTargets
  target_id : target.id = a.targetId
  target_task : target.taskId = a.taskId
  target_installation : target.installationId = a.installationId
  eligible : target.disposition = .eligible
  kept : ∀ x ∈ db.taskTargetExclusions, x.taskId = a.taskId →
    x.installationId = a.installationId → x.targetId ≠ a.targetId
  confirmation_mem : confirmation ∈ db.taskTargetConfirmations
  confirmation_task : confirmation.taskId = a.taskId
  confirmation_installation : confirmation.installationId = a.installationId
  intended : a.targetId ∈ confirmation.intentFingerprint.selectedTargetIds

theorem Granted.targetConfirmed {q : AuthorizationRequest} {db : Db} {target : TaskTarget}
    {definition : Definition} {interval : Nat} (h : Granted q db target definition interval) :
    ∃ confirmation, TargetConfirmed db (authorizationRow q target interval db) target
      confirmation := by
  obtain ⟨hm, hid, ht, hi, he, hx, c, hc, hp, hsel⟩ := admitted?_target h.admitted
  obtain ⟨hcm, hct, hci⟩ := Db.confirmation?_eq_some.1 hc
  have hkept : ¬excluded db target := by
    rintro ⟨x, hxm, h1, h2, h3, -⟩
    exact hx ⟨x, hxm, h1.trans hid, h2.trans ht, h3.trans hi⟩
  refine ⟨c, hm, hid, ht, hi, he, fun x hxm h1 h2 h3 => hx ⟨x, hxm, h3, h1, h2⟩, hcm, hct, hci, ?_⟩
  show q.targetId ∈ _
  rw [hsel, ← hid]
  exact mem_selectedTargetIds hm ht hi hp he hkept

/-! ## One step -/

/-- Only `authorize` adds an authorization. -/
theorem Effect.authorizations {o : Op} {db db' : Db} (h : Effect o db db') :
    db'.actionRiskAuthorizations = db.actionRiskAuthorizations ∨
      ∃ q target definition interval, o = .authorize q ∧
        Granted q db target definition interval ∧
        db.actionRiskAuthorizations.insert? (authorizationRow q target interval db) =
          some db'.actionRiskAuthorizations := by
  cases h with
  | authorized hg hx ha => exact .inr ⟨_, _, _, _, rfl, hg, ha⟩
  | _ => exact .inl rfl

/-- Definitions stay. -/
theorem Effect.definition_kept {o : Op} {db db' : Db} (h : Effect o db db') {d : Definition}
    (hd : d ∈ db.definitions) : d ∈ db'.definitions := by
  cases h with
  | created ht hd' => exact (Relation.mem_insert? hd').2 (.inl hd)
  | _ => exact hd

/-- Authorizations stay. -/
theorem Effect.authorization_kept {o : Op} {db db' : Db} (h : Effect o db db')
    {r : ActionRiskAuthorization} (hr : r ∈ db.actionRiskAuthorizations) :
    r ∈ db'.actionRiskAuthorizations := by
  rcases h.authorizations with hsame | ⟨_, _, _, _, -, -, hins⟩
  · exact hsame ▸ hr
  · exact (Relation.mem_insert? hins).2 (.inl hr)

/-- The classes the counts and the interval are about. -/
def sameTask (a b : ActionRiskAuthorization) : Bool := b.taskId = a.taskId

def sameScope (a b : ActionRiskAuthorization) : Bool :=
  b.installationId = a.installationId ∧ b.action = a.action

def sameDay (a b : ActionRiskAuthorization) : Bool :=
  sameScope a b ∧ b.authorizedDay = a.authorizedDay

/-- The action of every grant is the one its task was defined with, the counts are true,
and the intervals were kept. -/
structure Metered (db : Db) : Prop where
  defined : ∀ a ∈ db.actionRiskAuthorizations, ∃ d ∈ db.definitions, d.taskId = a.taskId ∧
    d.installationId = a.installationId ∧ d.action = a.action
  task : Quota.Counted sameTask ActionRiskAuthorization.taskCountAfter
    db.actionRiskAuthorizations.rows
  day : Quota.Counted sameDay ActionRiskAuthorization.dailyCountAfter
    db.actionRiskAuthorizations.rows
  spaced : Quota.Spaced sameScope ActionRiskAuthorization.authorizedAt
    (fun a => seconds a.effectiveMinimumIntervalSeconds) db.actionRiskAuthorizations.rows

theorem metered_empty : Metered Db.empty where
  defined _ h := absurd h (Relation.not_mem_empty _)
  task := .nil
  day := .nil
  spaced := .nil

/-- A task's grants are all of one action. -/
theorem Metered.inTask_eq {db : Db} (h : Metered db) {q : AuthorizationRequest}
    {definition : Definition} (hd : db.definition? q.taskId q.installationId = some definition)
    (ha : definition.action = q.policy.scope.action) {target : TaskTarget} {interval : Nat}
    {b : ActionRiskAuthorization} (hb : b ∈ db.actionRiskAuthorizations) :
    inTask q b = sameTask (authorizationRow q target interval db) b := by
  obtain ⟨d, hdm, h1, -, h3⟩ := h.defined b hb
  obtain ⟨hm, hid, -⟩ := Db.definition?_eq_some.1 hd
  unfold inTask sameTask
  refine decide_eq_decide.2 ⟨fun hbq => hbq.1, fun hbq => ⟨hbq, ?_⟩⟩
  have heq : d = definition :=
    Relation.eq_of_not_apart hdm hm fun hab => hab (h1.trans (hbq.trans hid.symm))
  rw [← h3, heq, ha]

theorem Metered.step {o : Op} {db db' : Db} (h : Metered db) (he : Effect o db db') :
    Metered db' := by
  have hdefs := fun d hd => he.definition_kept (d := d) hd
  rcases he.authorizations with hsame | ⟨q, target, definition, interval, -, hg, hins⟩
  · constructor
    · rw [hsame]
      intro a ha
      obtain ⟨d, hd, hrest⟩ := h.defined a ha
      exact ⟨d, hdefs d hd, hrest⟩
    · rw [hsame]; exact h.task
    · rw [hsame]; exact h.day
    · rw [hsame]; exact h.spaced
  · obtain ⟨task, -, -, hd, hact⟩ := admitted?_task hg.admitted
    obtain ⟨-, -, -, hgap⟩ := withinLimits_eq_ok hg.limited
    have hrows := Relation.insert?_rows hins
    constructor
    · intro a ha
      rcases (Relation.mem_insert? hins).1 ha with ha | rfl
      · obtain ⟨d, hdm, hrest⟩ := h.defined a ha
        exact ⟨d, hdefs d hdm, hrest⟩
      · obtain ⟨hm, h1, h2⟩ := Db.definition?_eq_some.1 hd
        exact ⟨definition, hdefs _ hm, h1, h2, hact⟩
    · rw [hrows]
      refine h.task.concat ?_ (by simp [sameTask])
      exact congrArg (· + 1) (List.countP_congr fun b hb => by rw [h.inTask_eq hd hact hb])
    · rw [hrows]
      refine h.day.concat ?_ (by simp [sameDay, sameScope])
      exact congrArg (· + 1) (List.countP_congr fun b hb => Iff.rfl)
    · rw [hrows]
      exact h.spaced.concat fun a ha hs => hgap a ha hs

theorem metered_inductive : system.Inductive Metered :=
  effect_inductive metered_empty fun _ _ _ h he => h.step he

/-! ## A list of operations -/

/-- What an operation grants: nothing when it only repeats a grant. -/
def grant? (db : Db) : Op → Option ActionRiskAuthorization
  | .authorize q =>
    match authorize q db with
    | .ok (a, _) => if authorization? db q.actionId = none then some a else none
    | .error _ => none
  | _ => none

/-- The grants of a list of operations, in the order they are given. -/
def grants : Db → List Op → List ActionRiskAuthorization
  | _, [] => []
  | db, o :: os => (grant? db o).toList ++ grants (exec o db).2 os

theorem grant?_eq_some {db : Db} {o : Op} {a : ActionRiskAuthorization} (h : grant? db o = some a) :
    ∃ q target definition interval, o = .authorize q ∧ Granted q db target definition interval ∧
      a = authorizationRow q target interval db := by
  cases o with
  | authorize q =>
    simp only [grant?] at h
    split at h
    · rename_i b db' hok
      split at h
      · rename_i hfresh
        cases h
        rcases authorize_eq_ok hok with ⟨hold, -⟩ | ⟨target, definition, interval, _, _, hg, -, -, ha, -⟩
        · rw [hfresh] at hold
          cases hold
        · exact ⟨q, target, definition, interval, rfl, hg, ha⟩
      · cases h
    · cases h
  | _ => cases h

/-- The table is appended with what the operation grants. -/
theorem exec_authorizations (o : Op) (db : Db) :
    (exec o db).2.actionRiskAuthorizations.rows =
      db.actionRiskAuthorizations.rows ++ (grant? db o).toList := by
  have he := (exec_effect o db).authorizations
  cases o with
  | authorize q =>
    show (db.atomicExcept (authorize q db)).2.actionRiskAuthorizations.rows = _
    cases hx : authorize q db with
    | error e => simp [Db.atomicExcept, grant?, hx]
    | ok b =>
      rcases authorize_eq_ok hx with ⟨hold, -, hsame⟩ | ⟨_, _, _, _, _, hg, -, hins, ha, hdb⟩
      · simp [Db.atomicExcept, grant?, hx, hold, hsame]
      · simp [Db.atomicExcept, grant?, hx, hg.fresh, hdb, ha, Relation.insert?_rows hins]
  | _ =>
    rcases he with h | ⟨_, _, _, _, h, -⟩
    · simp [h, grant?]
    · cases h

theorem after_authorizations (db : Db) (os : List Op) :
    (after exec db os).actionRiskAuthorizations.rows =
      db.actionRiskAuthorizations.rows ++ grants db os := by
  induction os generalizing db with
  | nil => simp [after, grants]
  | cons o os ih => rw [after, ih, exec_authorizations, grants, List.append_assoc]

/-- Every grant was given by one of the operations. -/
theorem mem_grants {db : Db} {os : List Op} {a : ActionRiskAuthorization} (h : a ∈ grants db os) :
    ∃ os₁ o os₂, os = os₁ ++ o :: os₂ ∧ grant? (after exec db os₁) o = some a := by
  induction os generalizing db with
  | nil => cases h
  | cons o os ih =>
    rcases List.mem_append.1 h with h | h
    · exact ⟨[], o, os, rfl, Option.mem_toList.1 h⟩
    · obtain ⟨os₁, o', os₂, rfl, hg⟩ := ih h
      exact ⟨o :: os₁, o', os₂, rfl, hg⟩

/-- Only a revocation replaces an installation. -/
theorem Effect.installations {o : Op} {db db' : Db} (h : Effect o db db') :
    (∀ r ∈ db.installations, r ∈ db'.installations) ∨ ∃ i n t, o = .revoke i n t := by
  cases h with
  | registered h => exact .inl fun r hr => (Relation.mem_insert? h).2 (.inl hr)
  | revoked h => exact .inr ⟨_, _, _, rfl⟩
  | _ => exact .inl fun _ hr => hr

/-- An installation that is not revoked stays active. -/
theorem exec_active {o : Op} {db : Db} {i : InstallationId} (h : db.active i)
    (hr : ∀ n t, o ≠ .revoke i n t) : (exec o db).2.active i := by
  have he := (exec_effect o db).installations
  obtain ⟨row, hm, hid, hs⟩ := h
  cases o with
  | revoke j n t =>
    show (db.atomic (revoke j n t db)).2.active i
    cases hx : revoke j n t db with
    | none => exact ⟨row, hm, hid, hs⟩
    | some x =>
      simp only [revoke, Option.bind_eq_bind, Option.bind_eq_some_iff, Option.pure_def,
        Option.guard_eq_some', Option.some.injEq] at hx
      obtain ⟨old, hold, -, -, rows, hrows, rfl⟩ := hx
      obtain ⟨hom, hoid⟩ := Relation.mem_of_find? hold
      have hne : row ≠ old := by
        rintro rfl
        exact hr n t (by rw [← hid, ← of_decide_eq_true hoid])
      exact ⟨row, (Relation.Replaced.of_replace? hrows hom).mem_of_ne hm hne, hid, hs⟩
  | _ =>
    rcases he with h | ⟨_, _, _, h⟩
    · exact ⟨row, h row hm, hid, hs⟩
    · cases h

/-- The installation of a grant is active as long as it is not revoked. -/
theorem active_of_mem_grants {db : Db} {os : List Op} {a : ActionRiskAuthorization}
    (h : a ∈ grants db os) (hr : ∀ n t, .revoke a.installationId n t ∉ os) :
    (after exec db os).active a.installationId := by
  obtain ⟨os₁, o, os₂, rfl, hg⟩ := mem_grants h
  obtain ⟨q, target, definition, interval, -, hgr, rfl⟩ := grant?_eq_some hg
  rw [after_append]
  have hkeep : ∀ o' ∈ o :: os₂, ∀ db, db.active q.installationId →
      (exec o' db).2.active q.installationId := by
    refine fun o' ho' db hact => exec_active hact fun n t heq => hr n t ?_
    exact List.mem_append_right _ (heq ▸ ho')
  exact after_inv hkeep hgr.active

/-- A granted action is answered with its grant again, which is not counted again. -/
theorem exec_authorize_again {db : Db} {a : ActionRiskAuthorization} {q : AuthorizationRequest}
    (ha : a ∈ db.actionRiskAuthorizations) (hs : sameIntent a q)
    (hp : q.policy.scope.installationId = q.installationId) (hact : db.active a.installationId) :
    exec (.authorize q) db = (.ok a, db) := by
  have hfind : authorization? db q.actionId = some a := authorization?_eq_some.2 ⟨ha, hs.1⟩
  have hinst : a.installationId = q.installationId := hs.2.2.2.2.1
  have hok : authorize q db = .ok (a, db) := by
    unfold authorize
    rw [if_pos ⟨hp, hinst ▸ hact⟩, hfind]
    exact if_pos hs
  show db.atomicExcept (authorize q db) = _
  rw [hok]
  rfl

/-- In any list of operations, the grants of a scope keep the interval each records; the
counts they record are the true ones, so that the limits on the last grant of a task or
of a day bound them all; each was for a target the user had confirmed; and granting one
again changes nothing. -/
theorem grants_within_limits (os : List Op) :
    let db := after exec Db.empty os
    let given := grants Db.empty os
    db.actionRiskAuthorizations.rows = given ∧
    (given.Pairwise fun a b => sameScope b a = true →
      a.authorizedAt + seconds b.effectiveMinimumIntervalSeconds ≤ b.authorizedAt) ∧
    (∀ l a r, given = l ++ a :: r →
      a.authorizedDay = utcDay a.authorizedAt ∧
      a.taskCountAfter = (l ++ [a]).countP (sameTask a) ∧
      a.dailyCountAfter = (l ++ [a]).countP (sameDay a) ∧
      ((∀ b ∈ r, sameTask a b = false) → given.countP (sameTask a) ≤ a.taskActionLimit) ∧
      ((∀ b ∈ r, sameDay a b = false) → given.countP (sameDay a) ≤ a.dailyActionLimit)) ∧
    (∀ a ∈ given, ∃ os₁ q os₂ target confirmation, os = os₁ ++ .authorize q :: os₂ ∧
      sameIntent a q ∧ a.taskActionLimit = q.policy.taskActionLimit ∧
      a.dailyActionLimit = q.policy.dailyActionLimit ∧
      q.policy.minimumIntervalSeconds ≤ a.effectiveMinimumIntervalSeconds ∧
      TargetConfirmed (after exec Db.empty os₁) a target confirmation) ∧
    ∀ a ∈ given, ∀ q, sameIntent a q → q.policy.scope.installationId = q.installationId →
      (∀ n t, .revoke a.installationId n t ∉ os) → exec (.authorize q) db = (.ok a, db) := by
  intro db given
  have hrows : db.actionRiskAuthorizations.rows = given := after_authorizations Db.empty os
  have hm : Metered db := metered_inductive.reachable (reachable_after os)
  obtain ⟨-, htask, hday, hspaced⟩ := hm
  rw [hrows] at htask hday hspaced
  refine ⟨hrows, hspaced, fun l a r heq => ?_, fun a ha => ?_, fun a ha q hs hp hr => ?_⟩
  · have ha : a ∈ db.actionRiskAuthorizations := by
      rw [Relation.mem_def, hrows, heq]
      simp
    obtain ⟨-, -, -, -, -, -, -, -, -, h1, -, h2, h3, -⟩ := Relation.check_of_mem ha
    exact ⟨h3, htask l a r heq, hday l a r heq, fun hl => htask.latest heq hl ▸ h1,
      fun hl => hday.latest heq hl ▸ h2⟩
  · obtain ⟨os₁, o, os₂, hos, hg⟩ := mem_grants ha
    obtain ⟨q, target, definition, interval, rfl, hgr, rfl⟩ := grant?_eq_some hg
    obtain ⟨confirmation, hc⟩ := hgr.targetConfirmed
    have hinterval : q.policy.minimumIntervalSeconds ≤ interval := by
      rw [(withinLimits_eq_ok hgr.limited).1]
      exact Nat.le_max_left _ _
    exact ⟨os₁, q, os₂, target, confirmation, hos, ⟨rfl, rfl, rfl, rfl, rfl, rfl⟩, rfl, rfl,
      hinterval, hc⟩
  · exact exec_authorize_again (by rw [Relation.mem_def, hrows]; exact ha) hs hp
      (active_of_mem_grants ha hr)

/-! ## A run with a grant -/

namespace Walkthrough

def claim (now : Time) : TaskCommandRepository.ClaimRequest where
  installationId := 1
  now := now
  leaseExpiresAt := now + seconds 10
  retryDeliveredBefore := 0
  recoverDelivered := false

/-- Two profiles were found on page 1. -/
def report : TaskDiscoveryRepository.DiscoveryReport where
  message :=
    { messageId := 3
      sentAt := seconds 3
      deadlineAt := seconds 33
      installationId := 1
      executorId := 1
      correlationId := 1
      idempotencyKey := .discoveryCompleted 1
      sequence := 2
      taskId := 1
      executionAttemptId := 1
      body := .discoveryCompleted ⟨.completed, .candidatesExtracted, 1, 1, 2⟩ }
  payload := ⟨.completed, .candidatesExtracted, 1, 1, 2⟩
  body_eq := rfl

def found : List DouyinCandidate := [⟨"a", "A", none, 1⟩, ⟨"b", "B", none, 1⟩]

/-- The call of `advance` that offers the task as attempt 2. -/
def offering : PendingActionExecutionAdvance where
  installationId := 1
  executorId := 1
  executionAttemptId := 2
  actionId := 1
  messageId := 5
  correlationId := 5
  limits :=
    { minimumIntervalSeconds := 1
      taskActionLimit := 2
      dailyActionLimit := 2
      consecutiveFailureThreshold := 1
      task_mem := browsing.target_mem }
  requestedAt := seconds 6
  commandDeadlineAt := seconds 66

/-- The executor starts the task. -/
def start : Outbound where
  messageId := 6
  sentAt := seconds 7
  deadlineAt := seconds 37
  installationId := 1
  executorId := 1
  correlationId := 5
  idempotencyKey := .event 1 4
  sequence := 4
  taskId := 1
  executionAttemptId := 2
  body := .taskEvent .taskStarted {}

/-- The discovery is delivered and reported, the user confirms both targets, and the task
is offered. -/
def offered : List Op := discovering ++
  [.claimNext (claim (seconds 2)) fun _ => false,
    .markDelivered 1 2 (seconds 2),
    .acknowledge ⟨2, 1, 1, 1, 1, 1, .taskAccept, .accepted true⟩ (seconds 3),
    .receiveCompleted report (some found) (seconds 4) fun n => n,
    .confirm
      { sourceMessageId := 4
        installationId := 1
        taskId := 1
        pageRevision := 1
        expectedTaskRevision := 3
        idempotencyKey := .other "confirm"
        requestedAt := seconds 5 },
    .prepare offering fun _ => false]

def started : List Op := offered ++ [.receive start (seconds 7)]

/-- The call of `advance` that follows, for action 1. -/
def granting : PendingActionExecutionAdvance :=
  { offering with
    executionAttemptId := 3
    messageId := 7
    correlationId := 7
    requestedAt := seconds 8
    commandDeadlineAt := seconds 68
    deadline_later := by decide
    deadline_le := by decide }

open ActionExecutionOrchestrationRepository in
/-- Target 1 is granted to it. -/
def granted : List Op := started ++
  [.authorize (authorizationRequest granting ⟨1, 2, 1, .browse⟩)]

end Walkthrough

end AutomationTool.ControlPlane
