import AutomationTool.ControlPlane.Backing
import AutomationTool.ControlPlane.CommandSequences

/-!
# Concurrent calls of `advance`

`advance` carries a decision from its first transaction into its second: the next target
of a running attempt. Whatever happens in between, the decision is used up, since another
call granted the same target, or it still names the next one and the attempt has no live
action (`Ready`, `Ready.step`). So the calls of `authorize` that are made are those that
keep at most one live action an attempt, in any interleaving (`advance_safe`).
-/
namespace AutomationTool.ControlPlane

open Protocol TaskCommandRepository TaskTargetRepository TaskTargetPreviewRepository
  TaskEventConvergence TaskEventConvergenceRepository ActionRiskAuthorizationRepository
  ActionExecutionOrchestrationRepository

/-! ## The next target -/

/-- The target waits for its grant: selected on the confirmed page, and not authorized. -/
structure Waiting (db : Db) (t : TaskId) (i : InstallationId) (page : Nat) (r : TaskTarget) :
    Prop where
  taskId : r.taskId = t
  installation : r.installationId = i
  pageRevision : r.pageRevision = page
  eligible : r.disposition = .eligible
  kept : ¬excluded db r
  fresh : ¬isAuthorized db r

def targetOrder (r : TaskTarget) : Nat ×ₗ TargetId := toLex (r.ordinal, r.id)

theorem nextTarget?_eq_some {db : Db} {t : TaskId} {i : InstallationId} {page : Nat}
    {r : TaskTarget} : nextTarget? db t i page = some r ↔
      r ∈ db.taskTargets ∧ Waiting db t i page r ∧
        ∀ r' ∈ db.taskTargets, Waiting db t i page r' → targetOrder r ≤ targetOrder r' := by
  have hw : ∀ r, (r.taskId = t ∧ r.installationId = i ∧ r.pageRevision = page ∧
      r.disposition = .eligible ∧ ¬excluded db r ∧ ¬isAuthorized db r) ↔ Waiting db t i page r :=
    fun r => ⟨fun ⟨a, b, c, d, e, f⟩ => ⟨a, b, c, d, e, f⟩, fun ⟨a, b, c, d, e, f⟩ => ⟨a, b, c, d, e, f⟩⟩
  unfold nextTarget?
  rw [Relation.least?_eq_some_iff]
  · simp only [decide_eq_true_eq, hw]
    exact Iff.rfl
  · intro a ha b hb hab
    have hid : a.id = b.id := (Prod.ext_iff.1 (toLex.injective hab)).2
    exact Relation.eq_of_not_apart ha hb fun h => h.1 hid

/-- The next target is still the next one while the selection is the same and nothing of
the task is granted. -/
theorem nextTarget?_kept {db db' : Db} {t : TaskId} {i : InstallationId} {page : Nat}
    {r : TaskTarget} (hs : SameSelection t i db db')
    (ha : ∀ a, a.taskId = t → (a ∈ db'.actionRiskAuthorizations ↔ a ∈ db.actionRiskAuthorizations))
    (h : nextTarget? db t i page = some r) : nextTarget? db' t i page = some r := by
  have hw : ∀ r, Waiting db' t i page r ↔ Waiting db t i page r := by
    have hx : ∀ r : TaskTarget, r.taskId = t → r.installationId = i →
        (excluded db' r ↔ excluded db r) := by
      rintro r rfl rfl
      constructor
      · rintro ⟨x, hx, h1, h2, h3, h4⟩
        exact ⟨x, (hs.exclusions x h2 h3).1 hx, h1, h2, h3, h4⟩
      · rintro ⟨x, hx, h1, h2, h3, h4⟩
        exact ⟨x, (hs.exclusions x h2 h3).2 hx, h1, h2, h3, h4⟩
    have hg : ∀ r : TaskTarget, r.taskId = t → (isAuthorized db' r ↔ isAuthorized db r) := by
      rintro r rfl
      constructor
      · rintro ⟨a, hm, h1, h2, h3⟩
        exact ⟨a, (ha a h2).1 hm, h1, h2, h3⟩
      · rintro ⟨a, hm, h1, h2, h3⟩
        exact ⟨a, (ha a h2).2 hm, h1, h2, h3⟩
    intro r
    constructor
    · intro h
      exact ⟨h.taskId, h.installation, h.pageRevision, h.eligible,
        fun hk => h.kept ((hx r h.taskId h.installation).2 hk), fun hk => h.fresh ((hg r h.taskId).2 hk)⟩
    · intro h
      exact ⟨h.taskId, h.installation, h.pageRevision, h.eligible,
        fun hk => h.kept ((hx r h.taskId h.installation).1 hk), fun hk => h.fresh ((hg r h.taskId).1 hk)⟩
  rw [nextTarget?_eq_some] at h ⊢
  obtain ⟨hm, hr, hle⟩ := h
  refine ⟨(hs.targets r hr.taskId hr.installation).2 hm, (hw r).2 hr, fun r' hm' hr' => ?_⟩
  exact hle r' ((hs.targets r' hr'.taskId hr'.installation).1 hm') ((hw r').1 hr')

/-! ## Decisions -/

/-- The decision names the next target of an attempt all of whose actions are over. -/
structure Next (db : Db) (i : InstallationId) (n : NextAuthorization) : Prop where
  target : ∃ c r, db.confirmation? n.taskId i = some c ∧
    nextTarget? db n.taskId i c.pageRevision = some r ∧ r.id = n.targetId
  settled : ∀ a ∈ db.taskActions, a.executionAttemptId = n.attemptId → a.status.isTerminal = true

/-- The target of the decision was granted. -/
def UsedUp (db : Db) (n : NextAuthorization) : Prop :=
  ∃ r ∈ db.actionRiskAuthorizations, r.taskId = n.taskId ∧ r.targetId = n.targetId

/-- A decision of `prepare`, at any time after it was made. -/
structure Ready (db : Db) (i : InstallationId) (n : NextAuthorization) : Prop where
  attached : Attached db n.taskId i n.attemptId
  current : UsedUp db n ∨ Next db i n

/-- The call asks for what a decision says. -/
def Requested (db : Db) (q : AuthorizationRequest) : Prop :=
  ∃ n, q.taskId = n.taskId ∧ q.targetId = n.targetId ∧ q.executionAttemptId = n.attemptId ∧
    Ready db q.installationId n

/-- Two decisions on one task that are not used up are one. -/
theorem Next.target_unique {db : Db} {i : InstallationId} {n n' : NextAuthorization}
    (h : Next db i n) (h' : Next db i n') (ht : n.taskId = n'.taskId) : n.targetId = n'.targetId := by
  obtain ⟨c, r, hc, hr, hid⟩ := h.target
  obtain ⟨c', r', hc', hr', hid'⟩ := h'.target
  rw [ht] at hc hr
  rw [hc] at hc'
  cases hc'
  rw [hr] at hr'
  cases hr'
  exact hid.symm.trans hid'

/-- A decision to authorize is ready when it is made. -/
theorem Decided.ready {pending : PendingActionExecutionAdvance} {db : Db} {n : NextAuthorization}
    {task : Task} {attempt : ExecutionAttempt} {definition : Definition}
    {confirmation : TaskTargetConfirmation} {target : TaskTarget}
    (h : Decided pending db n task attempt definition confirmation target) :
    Ready db pending.installationId n := by
  obtain ⟨hm, hi, -⟩ := activeAttempt?_eq_some.1 h.attempt_eq
  obtain ⟨htm, hid, hti⟩ := Db.task?_eq_some.1 h.task_eq
  rw [h.next_eq]
  constructor
  · refine ⟨task, htm, rfl, hti, attempt, ⟨hm, h.current, hid.symm, hi.trans hti.symm⟩, rfl, ?_⟩
    rw [h.status]
    exact trivial
  · exact .inr ⟨⟨confirmation, target, h.confirmation_eq, h.target_eq, rfl⟩, h.settled⟩

/-- What a grant that is asked for by a decision was made on. -/
theorem Granted.next {q : AuthorizationRequest} {db : Db} {target : TaskTarget}
    {definition : Definition} {interval : Nat} {rows : Relation TaskAction} (hb : Backed db)
    (hg : Granted q db target definition interval) (hr : Requested db q)
    (hx : db.taskActions.insert? (actionRow q target) = some rows) :
    ∃ n, q.taskId = n.taskId ∧ q.targetId = n.targetId ∧ q.executionAttemptId = n.attemptId ∧
      Next db q.installationId n := by
  obtain ⟨n, ht, hid, he, hready⟩ := hr
  refine ⟨n, ht, hid, he, hready.current.resolve_left ?_⟩
  rintro ⟨r, hr, hrt, hrid⟩
  exact hb.fresh hg hx hr (hrt.trans ht.symm) (hrid.trans hid.symm)

/-- Whatever happens to a decision in the meantime, it is used up or still good. -/
theorem Ready.step {o : Op} {db db' : Db} {i : InstallationId} {n : NextAuthorization}
    (h : Ready db i n) (hb : Backed db) (he : Effect o db db')
    (hreq : ∀ q, o = .authorize q → Requested db q) : Ready db' i n := by
  have hatt := h.attached.step he.attemptStep
  have hsel := he.selection h.attached
  have hstep := he.actionStep
  refine ⟨hatt, ?_⟩
  -- what was used up stays so
  have hused : UsedUp db n → UsedUp db' n := by
    rintro ⟨r, hr, hrest⟩
    refine ⟨r, ?_, hrest⟩
    cases hstep with
    | unchanged hx hsame => exact hsame ▸ hr
    | moved hx hs hsame => exact hsame ▸ hr
    | granted ho hg hx hins => exact (Relation.mem_insert? hins).2 (.inl hr)
  rcases h.current with hu | hn
  · exact .inl (hused hu)
  -- the next target stays next unless something of the task is granted
  have hkept : (∀ a, a.taskId = n.taskId →
      (a ∈ db'.actionRiskAuthorizations ↔ a ∈ db.actionRiskAuthorizations)) →
      (∀ a' ∈ db'.taskActions, a'.executionAttemptId = n.attemptId →
        ∃ a ∈ db.taskActions, SameAction a a') → UsedUp db' n ∨ Next db' i n := by
    intro hauth horigin
    obtain ⟨c, r, hc, hr, hid⟩ := hn.target
    obtain ⟨hcm, hct, hci⟩ := Db.confirmation?_eq_some.1 hc
    refine .inr ⟨⟨c, r, ?_, nextTarget?_kept hsel hauth hr, hid⟩, fun a' ha' hae => ?_⟩
    · exact Db.confirmation?_eq_some.2 ⟨(hsel.confirmations c hct hci).2 hcm, hct, hci⟩
    · obtain ⟨a, ha, hsame⟩ := horigin a' ha' hae
      have hover := hn.settled a ha (hsame.attempt.symm.trans hae)
      rw [hsame.settled hover]
      exact hover
  have horigin : (∀ q, o ≠ .authorize q) → ∀ a' ∈ db'.taskActions,
      a'.executionAttemptId = n.attemptId → ∃ a ∈ db.taskActions, SameAction a a' := by
    intro hne a' ha' _
    rcases hstep.action_origin ha' with ha | ⟨q, _, _, _, ho, -⟩
    · exact ha
    · exact absurd ho (hne q)
  cases hstep with
  | unchanged hx hsame =>
    refine hkept (fun a _ => by rw [hsame]) fun a' ha' _ => ?_
    exact ⟨a', hx ▸ ha', rfl, rfl, rfl, rfl, rfl, fun _ => rfl⟩
  | moved hx hs hsame =>
    refine hkept (fun a _ => by rw [hsame]) fun a' ha' _ => ?_
    rcases hx.cases ha' with rfl | ⟨ha, -⟩
    · exact ⟨_, hx.old_mem, hs⟩
    · exact ⟨a', ha, rfl, rfl, rfl, rfl, rfl, fun _ => rfl⟩
  | @granted q target definition interval ho hg hx hins =>
    obtain ⟨n', ht', hid', he', hn'⟩ := hg.next hb (hreq q ho) hx
    by_cases hattempt : q.executionAttemptId = n.attemptId
    · -- the same task: the decision that was granted is this one
      obtain ⟨htask, hinst⟩ := (hattempt ▸ hg.attached).task_eq h.attached
      have hsame : n'.targetId = n.targetId :=
        (hinst ▸ hn').target_unique hn (ht'.symm.trans htask)
      exact .inl ⟨_, (Relation.mem_insert? hins).2 (.inr rfl), htask, hid'.trans hsame⟩
    · have htask : q.taskId ≠ n.taskId := fun heq =>
        hattempt ((heq ▸ hg.attached).attempt_eq h.attached)
      refine hkept (fun a ha => ?_) fun a' ha' hae => ?_
      · rw [Relation.mem_insert? hins]
        refine ⟨fun hm => hm.resolve_right ?_, .inl⟩
        rintro rfl
        exact htask ha
      · rcases (Relation.mem_insert? hx).1 ha' with ha | rfl
        · exact ⟨a', ha, rfl, rfl, rfl, rfl, rfl, fun _ => rfl⟩
        · exact absurd hae hattempt

/-! ## Any number of calls at once -/

/-- No attempt has two live actions. -/
def OneLiveAction (db : Db) : Prop :=
  ∀ a ∈ db.taskActions, ∀ b ∈ db.taskActions, a.executionAttemptId = b.executionAttemptId →
    a.status.isTerminal = false → b.status.isTerminal = false → a = b

theorem OneLiveAction.step {o : Op} {db db' : Db} (h : OneLiveAction db) (hb : Backed db)
    (he : Effect o db db') (hreq : ∀ q, o = .authorize q → Requested db q) : OneLiveAction db' := by
  intro a ha b hb' hab hal hbl
  cases he.actionStep with
  | unchanged hx hsame =>
    rw [hx] at ha hb'
    exact h a ha b hb' hab hal hbl
  | @moved old new hx hs hsame =>
    -- the action that moved was live before
    have hlive : new.status.isTerminal = false → old.status.isTerminal = false := by
      intro hl
      by_contra hterm
      rw [hs.settled (by simpa using hterm)] at hl
      exact hterm hl
    rcases hx.cases ha with rfl | ⟨ha, hne⟩ <;> rcases hx.cases hb' with rfl | ⟨hb', hne'⟩
    · rfl
    · exact absurd (h b hb' old hx.old_mem (hab.symm.trans hs.attempt) hbl (hlive hal)) hne'
    · exact absurd (h a ha old hx.old_mem (hab.trans hs.attempt) hal (hlive hbl)) hne
    · exact h a ha b hb' hab hal hbl
  | @granted q target definition interval ho hg hx hins =>
    -- a grant is made where the attempt has no live action
    obtain ⟨n, -, -, hattempt, hnext⟩ := hg.next hb (hreq q ho) hx
    have hover : ∀ x ∈ db.taskActions, x.executionAttemptId = q.executionAttemptId →
        x.status.isTerminal = true := fun x hx hxe => hnext.settled x hx (hxe.trans hattempt)
    rcases (Relation.mem_insert? hx).1 ha with ha | rfl <;>
      rcases (Relation.mem_insert? hx).1 hb' with hb' | rfl
    · exact h a ha b hb' hab hal hbl
    · rw [hover a ha hab] at hal
      cases hal
    · rw [hover b hb' hab.symm] at hbl
      cases hbl
    · rfl

/-- What all the calls together keep. -/
structure Serialized (db : Db) : Prop where
  backed : Backed db
  once : GrantedOnce db
  live : OneLiveAction db
  consecutive : Consecutive db

theorem serialized_empty : Serialized Db.empty :=
  ⟨backed_empty, grantedOnce_empty, fun _ h => absurd h (Relation.not_mem_empty _),
    consecutive_empty⟩

/-- A call that does not name a sequence, and authorizes what a decision says. -/
structure Orderly (o : Op) (db : Db) : Prop where
  numbered : o.numbersItself = true
  requested : ∀ q, o = .authorize q → Requested db q

/-- Decisions survive orderly calls, which keep everything serialized. -/
theorem orderly_guarantee : Prog.Guarantee exec Serialized
    (fun db db' => ∀ i n, Ready db i n → Ready db' i n) Orderly where
  refl _ _ _ h := h
  trans _ _ _ h h' i n hr := h' i n (h i n hr)
  keeps o db hs ho := by
    have he := exec_effect o db
    obtain ⟨hb, hone⟩ := hs.backed.step hs.once he
    exact ⟨hb, hone, hs.live.step hs.backed he ho.requested,
      hs.consecutive.step ho.numbered he.commandStep⟩
  moves o db hs ho i n hr := hr.step hs.backed (exec_effect o db) ho.requested

/-- One round of `advance` makes orderly calls only. -/
theorem advanceOnce_safe (pending : PendingActionExecutionAdvance) (skipped : TaskId → Bool)
    {Q : Option AdvanceResult → Db → Prop} (hQ : ∀ a db, Q a db) (db : Db) :
    (advanceOnce pending skipped).wp exec Serialized
      (fun db db' => ∀ i n, Ready db i n → Ready db' i n) Orderly Q (fun _ => True) db := by
  intro db₁ hs₁ _
  refine ⟨⟨rfl, nofun⟩, ?_⟩
  have hready : ∀ n, (exec (.prepare pending skipped) db₁).1 = .ok (.next n) →
      Ready (exec (.prepare pending skipped) db₁).2 pending.installationId n := by
    intro n hn
    rcases Db.atomicExcept_eq (Prod.ext hn rfl) with ⟨e, he, -⟩ | ⟨b, hb, hp⟩
    · cases he
    · cases hb
      obtain ⟨hsame, task, attempt, definition, confirmation, target, hd⟩ :=
        (prepare_eq_ok hp).2 n rfl
      change (exec (.prepare pending skipped) db₁).2 = db₁ at hsame
      rw [hsame]
      exact hd.ready
  revert hready
  generalize exec (.prepare pending skipped) db₁ = x
  obtain ⟨r, db₂⟩ := x
  intro hready
  match r with
  | .error e => exact hQ _ _
  | .ok (.done kind) => exact hQ _ _
  | .ok (.next n) =>
    -- the decision is ready wherever the authorization is asked for
    intro db₃ hs₃ hrely
    have hn := hrely _ n (hready n rfl)
    refine ⟨⟨rfl, ?_⟩, ?_⟩
    · intro q hq
      cases hq
      exact ⟨n, rfl, rfl, rfl, hn⟩
    · generalize exec (.authorize (authorizationRequest pending n)) db₃ = y
      obtain ⟨a, db₄⟩ := y
      match a with
      | .error (.limited _) => exact hQ _ _
      | .error .rejected => exact hQ _ _
      | .ok granted => exact fun db₅ _ _ => ⟨⟨rfl, nofun⟩, hQ _ _⟩

/-- `advance` makes orderly calls only. -/
theorem advance_safe (pending : PendingActionExecutionAdvance) (skipped skipped' : TaskId → Bool)
    {Q : AdvanceResult → Db → Prop} (hQ : ∀ a db, Q a db) (db : Db) :
    (advance pending skipped skipped').wp exec Serialized
      (fun db db' => ∀ i n, Ready db i n → Ready db' i n) Orderly Q (fun _ => True) db := by
  refine Prog.wp_bind (advanceOnce_safe pending skipped (fun first db => ?_) db)
  cases first with
  | some result => exact hQ _ _
  | none => exact Prog.wp_bind (advanceOnce_safe pending skipped' (fun _ _ => hQ _ _) db)

/-- `enqueue` is called by nothing, `authorize` by `advance` alone. -/
def Op.isRequested : Op → Bool
  | .enqueue _ | .authorize _ => false
  | _ => true

/-- What may run on the control plane: calls of `advance`, and everything else that is
asked for. -/
inductive Request : Prog Op Op.Ret Unit → Prop where
  | advance (pending : PendingActionExecutionAdvance) (skipped skipped' : TaskId → Bool) :
      Request (advance pending skipped skipped' >>= fun _ => .pure ())
  | other {o : Op} (h : o.isRequested = true) : Request (Prog.op o >>= fun _ => .pure ())

theorem Request.safe {p : Prog Op Op.Ret Unit} (h : Request p) (db : Db) :
    p.safe exec Serialized (fun db db' => ∀ i n, Ready db i n → Ready db' i n) Orderly db := by
  cases h with
  | advance pending skipped skipped' =>
    exact Prog.wp_bind (advance_safe pending skipped skipped' (fun _ _ => trivial) db)
  | @other o ho =>
    refine Prog.wp_op fun db' _ _ => ⟨⟨?_, ?_⟩, trivial⟩
    · cases o <;> first | rfl | cases ho
    · rintro q rfl
      cases ho

/-- The service, with any number of requests running on it. -/
def progression : LTS (Pool Db Op Op.Ret) (PoolLabel Op Op.Ret) := pool (· = Db.empty) exec Request

theorem serialized_of_reachable {P : Pool Db Op Op.Ret} (h : progression.Reachable P) :
    Serialized P.state := by
  have hcalls := pool_calls orderly_guarantee (by rintro _ rfl; exact serialized_empty)
    (fun p hp db _ => hp.safe db) (fun _ _ => True)
    (h.restrict fun l P => by cases l <;> exact trivial)
  refine (calls_inductive ?_ ?_).reachable hcalls.of_restrict
  · rintro _ rfl
    exact serialized_empty
  · exact fun o db hs ho => orderly_guarantee.keeps o db hs ho

/-- With any number of calls of `advance`, interleaved with each other, with events,
controls and everything else, and lost in crashes: an installation has at most one attempt
that is not over and an attempt at most one live action, a target of a task has at most one
grant and a grant at most one command, and the commands of an attempt are numbered from 1
without gap. -/
theorem advance_serialized {P : Pool Db Op Op.Ret} (h : progression.Reachable P) :
    let db := P.state
    (∀ a ∈ db.executionAttempts, ∀ b ∈ db.executionAttempts,
      a.installationId = b.installationId → a.status.isTerminal = false →
      b.status.isTerminal = false → a = b) ∧
    (∀ a ∈ db.taskActions, ∀ b ∈ db.taskActions, a.executionAttemptId = b.executionAttemptId →
      a.status.isTerminal = false → b.status.isTerminal = false → a = b) ∧
    (∀ r ∈ db.actionRiskAuthorizations, ∀ r' ∈ db.actionRiskAuthorizations,
      r.taskId = r'.taskId → r.targetId = r'.targetId → r = r') ∧
    (∀ r ∈ db.actionRiskAuthorizations, ∀ c ∈ db.taskCommands, ∀ c' ∈ db.taskCommands,
      c.actionId = some r.actionId → c'.actionId = some r.actionId → c = c') ∧
    ∀ a ∈ db.executionAttempts,
      ((db.taskCommands.rows.filter fun c => c.executionAttemptId = a.id).map
        TaskCommand.sequence).Perm (List.range' 1 (lastSequence db a.id)) := by
  intro db
  have hs : Serialized db := serialized_of_reachable h
  refine ⟨fun a ha b hb hi h1 h2 => ?_, hs.live, hs.once, fun r hr c hc c' hc' h1 h2 => ?_,
    fun a ha => hs.consecutive.sequences a.id⟩
  · exact Relation.eq_of_not_apart ha hb fun hab => hab.2.2 ⟨hi, h1, h2⟩
  · refine Relation.eq_of_not_apart hc hc' fun hab => hab.2.2.2.2 ⟨?_, h1.trans h2.symm⟩
    rw [h1]
    nofun

/-! ## Two calls that decide on the same target -/

theorem reachable_after_requests {os : List Op} (h : ∀ o ∈ os, o.isRequested = true) :
    (progression.restrict (PoolLabel.meets fun _ _ => True)).Reachable
      ⟨after exec Db.empty os, []⟩ := by
  induction os using List.reverseRecOn with
  | nil => exact .of_init ⟨rfl, rfl⟩
  | append_singleton os o ih =>
    have hos := ih fun o' ho' => h o' (List.mem_append_left _ ho')
    rw [after_append]
    exact pool_run hos (.other (h o (by simp))) (Prog.meets_true _ _ _)

namespace Walkthrough

/-- A second call, a moment later. -/
def granting' : PendingActionExecutionAdvance :=
  { granting with
    executionAttemptId := 4
    actionId := 2
    messageId := 8
    correlationId := 8
    requestedAt := seconds 9
    commandDeadlineAt := seconds 69
    deadline_later := by decide
    deadline_le := by decide }

/-- Both calls decide on target 1, the first is granted it and the second refused; the
second, tried once more, sends the command of the first one's action. -/
theorem raced : ∃ P, progression.Reachable P ∧
    P.state.taskActions.rows.map (fun a => (a.id, a.executionAttemptId)) = [(1, 2)] ∧
    P.state.taskCommands.rows.map (fun c => (c.messageId, c.executionAttemptId, c.sequence)) =
      [(1, 1, 1), (5, 2, 1), (8, 2, 2)] := by
  have h₀ := (reachable_after_requests
    (show ∀ o ∈ started, o.isRequested = true by decide)).of_restrict
  have h₁ := h₀.next (PoolStep.spawn _ (.advance granting (fun _ => false) fun _ => false))
  have h₂ := h₁.next (PoolStep.spawn _ (.advance granting' (fun _ => false) fun _ => false))
  -- both prepare, then both ask for the authorization
  have h₃ := h₂.next (PoolStep.turn _ (i := 0) rfl)
  have h₄ := h₃.next (PoolStep.turn _ (i := 1) rfl)
  have h₅ := h₄.next (PoolStep.turn _ (i := 0) rfl)
  have h₆ := h₅.next (PoolStep.turn _ (i := 1) rfl)
  -- the second prepares again, and the first finds the command sent
  have h₇ := h₆.next (PoolStep.turn _ (i := 1) rfl)
  have h₈ := h₇.next (PoolStep.turn _ (i := 0) rfl)
  exact ⟨_, h₈, by decide, by decide⟩

end Walkthrough

/-- After the race every attempt has its commands numbered without gap. -/
theorem raced_numbered : ∃ P, progression.Reachable P ∧
    P.state.taskCommands.rows.map TaskCommand.sequence = [1, 1, 2] ∧
    ∀ a ∈ P.state.executionAttempts,
      ((P.state.taskCommands.rows.filter fun c => c.executionAttemptId = a.id).map
        TaskCommand.sequence).Perm (List.range' 1 (lastSequence P.state a.id)) := by
  obtain ⟨P, h, -, hc⟩ := Walkthrough.raced
  refine ⟨P, h, ?_, (advance_serialized h).2.2.2.2⟩
  have := congrArg (List.map fun x : MessageId × ExecutionAttemptId × Nat => x.2.2) hc
  simpa [Function.comp_def] using this

end AutomationTool.ControlPlane
