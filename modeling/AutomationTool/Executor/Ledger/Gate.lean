import AutomationTool.Executor.Ledger.State

/-!
# The action guard, the hard policy and admissions

The local gate in front of every platform action: one latch
(`engageActionEmergencyStop`, `clearActionEmergencyStop`), one transport flag,
one pair of limits that may only be tightened (`bindActionHardPolicy`), and the
table of admissions that the limits count (`admitAction`).

`admitAction` takes the interval and the cap from its caller: it never reads
`executor_action_policy`.
-/
namespace AutomationTool.Executor.Ledger

open Protocol Dispatch

/-- A returned row, and whether it was there before. -/
structure Reply (α : Type) where
  value : α
  replayed : Bool
  deriving DecidableEq

/-! ## Transport and latch -/

/-- mirrors ledger.py:338-363 -/
def setTransportConnected (s : Ledger) (connected : Bool) : Bool × Ledger :=
  if s.guard.networkConnected = connected then (false, s)
  else (true, { s with guard := { s.guard with networkConnected := connected } })

/-- mirrors ledger.py:1522-1557 -/
def engageActionLatch (s : Ledger) (changedAt : Time) : Option Ledger :=
  if s.guard.engaged then some s
  else require (∀ t, s.guard.changedAt = some t → t < changedAt) <|
    some { s with guard := { s.guard with
      engaged := true
      revision := s.guard.revision + 1
      changedAt := some changedAt
      check := .inr ⟨Nat.le_add_left 1 _, rfl⟩ } }

/-- mirrors ledger.py:1251-1265 -/
def engageActionEmergencyStop (s : Ledger) (changedAt : Time) : Option (ActionGuard × Ledger) :=
  (s.engageActionLatch changedAt).map fun s' => (s'.guard, s')

/-- mirrors ledger.py:1267-1318 -/
def clearActionEmergencyStop (s : Ledger) (expectedRevision : Nat) (changedAt : Time) :
    Option (ActionGuard × Ledger) :=
  require (0 < expectedRevision ∧ s.guard.engaged = true ∧
      s.guard.revision = expectedRevision ∧ (∀ t, s.guard.changedAt = some t → t < changedAt)) <|
    let guard : ActionGuard := { s.guard with
      engaged := false
      revision := s.guard.revision + 1
      changedAt := some changedAt
      check := .inr ⟨Nat.le_add_left 1 _, rfl⟩ }
    some (guard, { s with guard := guard })

theorem engageActionLatch_eq {s s' : Ledger} {t : Time} (h : s.engageActionLatch t = some s') :
    ∃ g, s' = { s with guard := g } ∧ g.engaged = true ∧
      g.networkConnected = s.guard.networkConnected := by
  unfold engageActionLatch at h
  split at h
  · cases h
    exact ⟨s.guard, rfl, ‹_›, rfl⟩
  · obtain ⟨-, h⟩ := require_eq_some.1 h
    cases h
    exact ⟨_, rfl, rfl, rfl⟩

/-! ## Hard policy -/

/-- The tighter of two policies, field by field. -/
def LocalActionHardPolicyBinding.tighten (current proposed : LocalActionHardPolicyBinding) :
    LocalActionHardPolicyBinding where
  minimumIntervalSeconds := max current.minimumIntervalSeconds proposed.minimumIntervalSeconds
  taskActionLimit := min current.taskActionLimit proposed.taskActionLimit
  interval_pos := Nat.le_trans current.interval_pos (Nat.le_max_left _ _)
  interval_le := Nat.max_le.2 ⟨current.interval_le, proposed.interval_le⟩
  limit_pos := Nat.le_min.2 ⟨current.limit_pos, proposed.limit_pos⟩
  limit_le := Nat.le_trans (Nat.min_le_left _ _) current.limit_le

/-- mirrors ledger.py:365-430 -/
def bindActionHardPolicy (s : Ledger) (proposed : LocalActionHardPolicyBinding) :
    LocalActionHardPolicyBinding × Ledger :=
  match s.policy with
  | none => (proposed, { s with policy := some proposed })
  | some current => (current.tighten proposed, { s with policy := some (current.tighten proposed) })

/-- `p` allows nothing that `q` forbids. -/
def LocalActionHardPolicyBinding.TighterThan (p q : LocalActionHardPolicyBinding) : Prop :=
  q.minimumIntervalSeconds ≤ p.minimumIntervalSeconds ∧ p.taskActionLimit ≤ q.taskActionLimit

theorem LocalActionHardPolicyBinding.tighten_tighter (p q : LocalActionHardPolicyBinding) :
    (p.tighten q).TighterThan p := ⟨Nat.le_max_left _ _, Nat.min_le_left _ _⟩

/-- What a bind returns is what is persisted from then on. -/
theorem bindActionHardPolicy_policy (s : Ledger) (p : LocalActionHardPolicyBinding) :
    (s.bindActionHardPolicy p).2 = { s with policy := some (s.bindActionHardPolicy p).1 } := by
  unfold bindActionHardPolicy
  split <;> rfl

/-- A persisted policy is only ever tightened. -/
theorem bindActionHardPolicy_tighter {s : Ledger} {p q : LocalActionHardPolicyBinding}
    (h : s.policy = some q) : (s.bindActionHardPolicy p).1.TighterThan q := by
  unfold bindActionHardPolicy
  rw [h]
  exact q.tighten_tighter p

/-! ## Admissions -/

/-- mirrors ledger.py:78-81 -/
inductive ActionAdmissionLimitReason where
  | emergencyStop | minimumInterval | taskActionLimit
  deriving DecidableEq, Repr

/-- `ExecutorLedgerRejected` and its subclass `ExecutorActionAdmissionLimited`. -/
inductive AdmissionError where
  | rejected
  | limited (reason : ActionAdmissionLimitReason)
  deriving DecidableEq, Repr

/-- `SELECT admitted_at … WHERE installation_id, platform, action ORDER BY admitted_at DESC`. -/
def latestAdmittedAt (s : Ledger) (installationId : InstallationId)
    (action : DouyinSearchExposureAction) : Option Time :=
  ((s.admissions.rows.filter fun r => r.installationId = installationId ∧ r.action = action).map
    (·.admittedAt)).max?

/-- `SELECT COUNT(*) … WHERE task_id, platform, action`. -/
def taskActionCount (s : Ledger) (taskId : TaskId) (action : DouyinSearchExposureAction) : Nat :=
  s.admissions.rows.countP fun r => r.taskId = taskId ∧ r.action = action

/-- mirrors ledger.py:452-597 -/
def admitAction (I : Site) (s : Ledger) (claims : ActionAuthorizationClaims)
    (authorizationFingerprint : Digest) (admittedAt : Time) (minimumIntervalSeconds : Nat)
    (taskActionLimit : Nat) : Except AdmissionError (Reply LocalActionAdmission × Ledger) :=
  if h : claims.installationId = I.installationId ∧ claims.executorId = I.executorId ∧
      claims.authorizedAt ≤ admittedAt + actionAuthorizationClockSkew ∧
      admittedAt < claims.deadlineAt ∧
      1 ≤ minimumIntervalSeconds ∧ minimumIntervalSeconds ≤ maxLocalActionIntervalSeconds ∧
      1 ≤ taskActionLimit ∧ taskActionLimit ≤ maxLocalTaskActions then
    if s.guard.engaged then .error (.limited .emergencyStop)
    else match s.admissions.rows.filter fun r =>
        r.actionId = claims.actionId ∨ r.idempotencyKey = claims.idempotencyKey with
    | r :: rs =>
      -- `_same_action_admission`: an exact replay, or nothing
      if rs = [] ∧ r.toActionAuthorizationClaims = claims ∧
          r.authorizationFingerprint = authorizationFingerprint then .ok (⟨r, true⟩, s)
      else .error .rejected
    | [] =>
      match s.latestAdmittedAt I.installationId claims.action with
      | some latest =>
        if admittedAt < latest then .error .rejected
        else if admittedAt - latest < seconds minimumIntervalSeconds then
          .error (.limited .minimumInterval)
        else insert h.2.2.2.1 h.2.2.2.2.2.2.2
      | none => insert h.2.2.2.1 h.2.2.2.2.2.2.2
  else .error .rejected
where
  /-- The cap and the new row. -/
  insert (hd : admittedAt < claims.deadlineAt) (hl : taskActionLimit ≤ maxLocalTaskActions) :
      Except AdmissionError (Reply LocalActionAdmission × Ledger) :=
    if hc : taskActionLimit ≤ s.taskActionCount claims.taskId claims.action then
      .error (.limited .taskActionLimit)
    else
      let row : LocalActionAdmission := { claims with
        authorizationFingerprint := authorizationFingerprint
        admittedAt := admittedAt
        taskActionOrdinal := s.taskActionCount claims.taskId claims.action + 1
        admitted_lt := hd
        ordinal_pos := Nat.le_add_left 1 _
        ordinal_le := Nat.le_trans (Nat.lt_of_not_le hc) hl }
      match s.admissions.insert? row with
      | some admissions => .ok (⟨row, false⟩, { s with admissions := admissions })
      | none => .error .rejected

/-- The row of an action, as the replay lookup of `admitAction` sees it: the
action's row and nothing else. -/
theorem filter_replay (s : Ledger) (claims : ActionAuthorizationClaims) :
    (s.admissions.rows.filter fun r =>
        r.actionId = claims.actionId ∨ r.idempotencyKey = claims.idempotencyKey) =
      (s.admission claims.actionId).toList := by
  have hkey : ∀ r : LocalActionAdmission,
      (r.actionId = claims.actionId ∨ r.idempotencyKey = claims.idempotencyKey) ↔
        r.actionId = claims.actionId := by
    intro r
    rw [r.key_action, claims.key_action]
    refine ⟨fun h => h.elim id fun h => ?_, Or.inl⟩
    injection h
  simp only [hkey]
  cases ha : s.admission claims.actionId with
  | none =>
    refine List.filter_eq_nil_iff.2 fun r hr he => ?_
    exact Table.find?_eq_none.1 ha r hr he
  | some row =>
    obtain ⟨hrow, hid⟩ := admission_eq_some.1 ha
    refine Table.filter_eq_singleton hrow (decide_eq_true hid) fun x hx hxid => ?_
    exact Table.eq_of_not_apart hx hrow fun hab => hab.1 ((of_decide_eq_true hxid).trans hid.symm)

/-- Everything a successful admission can be: the exact replay of a stored row,
or a new row within the limits the caller named. -/
theorem admitAction_ok {I : Site} {s s' : Ledger} {claims : ActionAuthorizationClaims}
    {fp : Digest} {t : Time} {i n : Nat} {r : Reply LocalActionAdmission}
    (h : s.admitAction I claims fp t i n = .ok (r, s')) :
    s.guard.engaged = false ∧
      ((r.replayed = true ∧ s' = s ∧ s.admission claims.actionId = some r.value ∧
          r.value.toActionAuthorizationClaims = claims ∧
          r.value.authorizationFingerprint = fp) ∨
        (r.replayed = false ∧ s.admission claims.actionId = none ∧
          r.value.toActionAuthorizationClaims = claims ∧ r.value.admittedAt = t ∧
          claims.installationId = I.installationId ∧
          (∀ l, s.latestAdmittedAt I.installationId claims.action = some l →
            l ≤ t ∧ seconds i ≤ t - l) ∧
          s.taskActionCount claims.taskId claims.action < n ∧
          r.value.taskActionOrdinal = s.taskActionCount claims.taskId claims.action + 1 ∧
          ∃ A, s.admissions.insert? r.value = some A ∧ s' = { s with admissions := A })) := by
  unfold admitAction at h
  rw [filter_replay] at h
  split at h
  · rename_i hguard
    split at h
    · cases h
    · rename_i heng
      refine ⟨by simpa using heng, ?_⟩
      -- the shared tail of the two branches that reach the insert
      have hins : ∀ hd hl, admitAction.insert s claims fp t n hd hl = .ok (r, s') →
          s.taskActionCount claims.taskId claims.action < n ∧ r.replayed = false ∧
            r.value.toActionAuthorizationClaims = claims ∧ r.value.admittedAt = t ∧
            r.value.taskActionOrdinal = s.taskActionCount claims.taskId claims.action + 1 ∧
            ∃ A, s.admissions.insert? r.value = some A ∧ s' = { s with admissions := A } := by
        intro hd hl hi
        unfold admitAction.insert at hi
        split at hi
        · cases hi
        · rename_i hc
          dsimp only at hi
          split at hi
          · rename_i A hA
            cases hi
            exact ⟨Nat.lt_of_not_le hc, rfl, rfl, rfl, rfl, A, hA, rfl⟩
          · cases hi
      cases ha : s.admission claims.actionId with
      | some row =>
        rw [ha] at h
        dsimp only [Option.toList] at h
        split at h
        · rename_i hsame
          cases h
          exact .inl ⟨rfl, rfl, rfl, hsame.2.1, hsame.2.2⟩
        · cases h
      | none =>
        rw [ha] at h
        dsimp only [Option.toList] at h
        split at h
        · rename_i latest hl
          split at h
          · cases h
          · split at h
            · cases h
            · rename_i h1 h2
              obtain ⟨hn, hr, hcl, ht, ho, hA⟩ := hins _ _ h
              refine .inr ⟨hr, rfl, hcl, ht, hguard.1, fun l hl' => ?_, hn, ho, hA⟩
              rw [hl] at hl'
              cases hl'
              exact ⟨Nat.le_of_not_lt h1, Nat.le_of_not_lt h2⟩
        · rename_i hl
          obtain ⟨hn, hr, hcl, ht, ho, hA⟩ := hins _ _ h
          refine .inr ⟨hr, rfl, hcl, ht, hguard.1, fun l hl' => ?_, hn, ho, hA⟩
          rw [hl] at hl'
          cases hl'
  · cases h

end AutomationTool.Executor.Ledger
