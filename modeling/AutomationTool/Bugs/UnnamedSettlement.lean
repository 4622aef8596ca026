import AutomationTool.Publishing.SingleAdmission

/-!
# A row settled without the id of its archive

Behaviour (bilibili_archive_reconciliation.py:429-491):
`reconcile_once` takes the archive's id from the row or, where the row has none, from the
attempt. It writes back an id it found by a search, but never one it took from the attempt, and
`settle` does not ask for one. A row that was opened while the creation request was under way
has no id; it is settled as published without one, and then its own constructor refuses it.

Evidence: the check of the record (bilibili_archive_reconciliation.py:207-211), which wants
an id beside a found archive; `_locate_uncertain_archive`, which adopts the id before anybody
settles.

Counterexample: a second submit opens the row while the first one waits for its answer.

`rows_readable`: while no row is settled whose archive stands in the attempt alone, and no
row is stamped before its creation, every row can be read, and a found archive is named.
-/
namespace AutomationTool.Bugs.UnnamedSettlement

open Protocol Publishing
open Editing (UnicodeData)

/-- The archive state an outcome stands for. -/
def foundState : BilibiliReconciliationOutcome → Option Int
  | .published => some archiveStateOpen
  | .rejected => some archiveStateRejected
  | _ => none

/-- The platform reported the archive to be in the state: asked for it, or by itself. -/
def Reported (x : ResourceId) (state : Int) (s : PublishState) : Prop :=
  (∃ snapshot, (⟨.archiveView x, .data snapshot⟩ : Heard) ∈ s.heard ∧ snapshot.resourceId = x ∧
    snapshot.state = state) ∨
  ∃ n, (⟨.notification, n⟩ : Heard) ∈ s.heard ∧ n.resourceId = x ∧ n.state = state

/-- Every row can be read back, and names the archive it was settled with. -/
structure Readable (s : PublishState) : Prop where
  read : ∀ r ∈ s.db.reconciliations, PublishDb.readReconciliation r = .ok r
  named : ∀ r ∈ s.db.reconciliations, ∀ state ∈ foundState r.outcome,
    ∃ x, r.resourceId = some x ∧ r.archiveState = some state ∧ Reported x state s

/-- The job an operation settles with a found archive. -/
def settledFound : Op → Option PublishJobId
  | .settle j outcome .. => (foundState outcome).map fun _ => j
  | _ => none

/-- The job whose row an operation stamps, and the moment. -/
def stamped : Op → Option (PublishJobId × Time)
  | .recordChecked j _ at' | .adoptResourceId j _ at' | .settle j _ _ _ at' => some (j, at')
  | _ => none

/-- The condition: a row without an id is not settled with an archive the attempt names, and
no row is stamped before its creation. -/
structure NamedFirst (o : Op) (s : PublishState) : Prop where
  named : ∀ j ∈ settledFound o, ∀ r ∈ s.db.reconciliation? j, r.outcome = .pending →
    r.resourceId = none → ∀ a ∈ s.db.attempt? j, a.resourceId = none
  stamped : ∀ x ∈ stamped o, ∀ r ∈ s.db.reconciliation? x.1, r.outcome = .pending →
    r.createdAt ≤ x.2

instance (o : Op) (s : PublishState) : Decidable (NamedFirst o s) :=
  decidable_of_iff ((∀ j ∈ settledFound o, ∀ r ∈ s.db.reconciliation? j, r.outcome = .pending →
      r.resourceId = none → ∀ a ∈ s.db.attempt? j, a.resourceId = none) ∧
    ∀ x ∈ stamped o, ∀ r ∈ s.db.reconciliation? x.1, r.outcome = .pending → r.createdAt ≤ x.2)
    ⟨fun h => ⟨h.1, h.2⟩, fun h => ⟨h.1, h.2⟩⟩

/-! ## Where the id of an archive stands -/

/-- The attempt names the archive. -/
def Holds (j : PublishJobId) (x : ResourceId) (s : PublishState) : Prop :=
  ∃ a, s.db.attempt? j = some a ∧ a.resourceId = some x

/-- The row names it. -/
def Carries (j : PublishJobId) (x : ResourceId) (s : PublishState) : Prop :=
  ∃ r, s.db.reconciliation? j = some r ∧ r.resourceId = some x

/-- The outcome of the creation is lost: its archive is searched for. -/
def Sought (j : PublishJobId) (s : PublishState) : Prop :=
  ∃ a, s.db.attempt? j = some a ∧ a.phase = .outcomeUncertain

def Known (j : PublishJobId) (x : ResourceId) (s : PublishState) : Prop :=
  Carries j x s ∨ Holds j x s

structure Inv (s : PublishState) : Prop where
  valid : ∀ j r, s.db.reconciliation? j = some r → r.Valid
  /-- The id in a row is the attempt's, or was found by a search. -/
  named : ∀ j x, Carries j x s → Holds j x s ∨ Sought j s
  found : ∀ j r, s.db.reconciliation? j = some r → ∀ state ∈ foundState r.outcome,
    ∃ x, r.resourceId = some x ∧ r.archiveState = some state ∧ Reported x state s
  submitted : ∀ j a, s.db.attempt? j = some a → a.resourceId ≠ none → a.phase = .submitted

/-- An id that is known stays, and so does a search. -/
structure Rely (s s' : PublishState) : Prop where
  heard : ∀ h ∈ s.heard, h ∈ s'.heard
  holds : ∀ j x, Holds j x s → Holds j x s'
  sought : ∀ j, Sought j s → Sought j s'
  carries : ∀ j x, Carries j x s → Carries j x s'

def conduct : Interference exec where
  inv := Inv
  rely := Rely
  cond := NamedFirst
  refl _ := ⟨fun _ => id, fun _ _ => id, fun _ => id, fun _ _ => id⟩
  trans hab hbc := ⟨fun h hh => hbc.heard h (hab.heard h hh),
    fun j x h => hbc.holds j x (hab.holds j x h), fun j h => hbc.sought j (hab.sought j h),
    fun j x h => hbc.carries j x (hab.carries j x h)⟩

variable {s s' : PublishState} {o : Op} {j : PublishJobId} {x : ResourceId} {state : Int}

theorem Reported.rely (h : Reported x state s) (hr : Rely s s') : Reported x state s' := by
  rcases h with ⟨snapshot, hmem, h⟩ | ⟨n, hmem, h⟩
  · exact .inl ⟨snapshot, hr.heard _ hmem, h⟩
  · exact .inr ⟨n, hr.heard _ hmem, h⟩

theorem Known.rely (h : Known j x s) (hr : Rely s s') : Known j x s' :=
  h.imp (hr.carries j x) (hr.holds j x)

/-- An attempt that is searched for names no archive. -/
theorem not_holds_of_sought (hi : Inv s) (h : Sought j s) : ¬Holds j x s := by
  obtain ⟨a, ha, hp⟩ := h
  rintro ⟨a', ha', hx⟩
  cases ha.symm.trans ha'
  have hsubmitted := hi.submitted j a ha (by rw [hx]; nofun)
  rw [hp] at hsubmitted
  cases hsubmitted

/-- Two known ids are one. -/
theorem known_unique {y : ResourceId} (hi : Inv s) (hx : Known j x s) (hy : Carries j y s) :
    x = y := by
  obtain ⟨r, hr, hry⟩ := hy
  rcases hx with ⟨r', hr', hrx⟩ | hx
  · cases hr.symm.trans hr'
    exact Option.some.inj (hrx.symm.trans hry)
  · rcases hi.named j y ⟨r, hr, hry⟩ with hold | hsought
    · obtain ⟨a, ha, hax⟩ := hx
      obtain ⟨a', ha', hay⟩ := hold
      cases ha.symm.trans ha'
      exact Option.some.inj (hax.symm.trans hay)
    · exact absurd hx (not_holds_of_sought hi hsought)

/-- Where the condition is met, a pending row that is settled with a known archive names it. -/
theorem named_of_known {outcome : BilibiliReconciliationOutcome} {archiveState : Option Int}
    {failureCode : Option PublishFailureCode} {at' : Time} {r : BilibiliReconciliationRecord}
    (hi : Inv s) (hc : NamedFirst (.settle j outcome archiveState failureCode at') s)
    (hstate : state ∈ foundState outcome) (hr : s.db.reconciliation? j = some r)
    (hp : r.outcome = .pending) (hx : Known j x s) : r.resourceId = some x := by
  have hj : j ∈ settledFound (.settle j outcome archiveState failureCode at') :=
    Option.mem_map_of_mem (fun _ => j) hstate
  cases hrow : r.resourceId with
  | some y => rw [known_unique hi hx ⟨r, hr, hrow⟩]
  | none =>
    rcases hx with ⟨r', hr', hrx⟩ | ⟨a, ha, hax⟩
    · cases hr.symm.trans hr'
      exact absurd (hrow.symm.trans hrx) nofun
    · exact absurd ((hc.named j hj r hr hp hrow a ha).symm.trans hax) nofun

/-! ## One operation -/

/-- What has to be known before an operation. -/
def Earned : Op → PublishState → Prop
  | .createPrepared record, _ => record.resourceId = none
  | .ensurePending j (some x) _, s => Holds j x s
  | .adoptResourceId j _ _, s => Sought j s
  | .settle j outcome archiveState _ _, s => ∀ state ∈ foundState outcome,
      archiveState = some state ∧ ∃ x, Known j x s ∧ Reported x state s
  | _, _ => True

theorem earned_of_part (h1 : o.part ≠ .intake) (h2 : o.part ≠ .opening)
    (h3 : o.part ≠ .settlement) : Earned o s := by
  cases o with
  | createPrepared => exact absurd rfl h1
  | ensurePending => exact absurd rfl h2
  | adoptResourceId => exact absurd rfl h3
  | settle j outcome =>
    cases outcome with
    | failed => exact nofun
    | _ => exact absurd rfl h3
  | _ => exact trivial

theorem rely_exec (hi : Inv s) : Rely s (exec o s).2 := by
  refine ⟨fun h hh => heard_mono hh, fun j x h => ?_, fun j h => ?_, fun j x h => ?_⟩
  · obtain ⟨a, ha, hx⟩ := h
    have hp := hi.submitted j a ha (by rw [hx]; nofun)
    rcases attempt?_exec o s j with heq | hmove
    · exact ⟨a, heq.trans ha, hx⟩
    · unfold Holds
      rw [ha] at hmove
      generalize (exec o s).2.db.attempt? j = a' at hmove
      cases hmove with
      | submitted hd => exact absurd (hp.symm.trans hd) nofun
      | _ => exact ⟨_, rfl, hx⟩
  · obtain ⟨a, ha, hp⟩ := h
    rcases attempt?_exec o s j with heq | hmove
    · exact ⟨a, heq.trans ha, hp⟩
    · rw [ha] at hmove
      generalize (exec o s).2.db.attempt? j = a' at hmove
      cases hmove with
      | coverUrl hc =>
        rw [hp] at hc
        exact absurd hc (by decide)
      | uploadToken hq => exact absurd (hp.symm.trans hq) nofun
      | videoUploaded hq => exact absurd (hp.symm.trans hq) nofun
      | dispatched hq => exact absurd (hp.symm.trans hq) nofun
      | submitted hq => exact absurd (hp.symm.trans hq) nofun
      | failed hq => exact absurd (hp.symm.trans hq) nofun
      | outcomeUncertain hq => exact absurd (hp.symm.trans hq) nofun
  · obtain ⟨r, hr, hx⟩ := h
    rcases reconciliation?_exec o s j with heq | hmove
    · exact ⟨r, heq.trans hr, hx⟩
    · unfold Carries
      rw [hr] at hmove
      generalize (exec o s).2.db.reconciliation? j = r' at hmove
      cases hmove with
      | adopted _ hn => exact absurd (hx.symm.trans hn) nofun
      | _ => exact ⟨_, rfl, hx⟩

theorem submitted_exec (hi : Inv s) (he : Earned o s) {a : BilibiliPublishAttemptRecord}
    (ha : (exec o s).2.db.attempt? j = some a) (hx : a.resourceId ≠ none) :
    a.phase = .submitted := by
  rcases attempt?_exec o s j with heq | hmove
  · exact hi.submitted j a (heq.symm.trans ha) hx
  · rw [ha] at hmove
    generalize hb : s.db.attempt? j = b at hmove
    have hbefore : ∀ r, b = some r → r.resourceId ≠ none → r.phase = .submitted :=
      fun r hr => hi.submitted j r (hb.trans hr)
    cases hmove with
    | prepared => exact absurd he hx
    | @uploadToken r => exact hbefore r rfl hx
    | videoUploaded hp => exact absurd (hp.symm.trans (hbefore _ rfl hx)) nofun
    | @coverUrl r => exact hbefore r rfl hx
    | dispatched hp => exact absurd (hp.symm.trans (hbefore _ rfl hx)) nofun
    | submitted => rfl
    | failed hp => exact absurd (hp.symm.trans (hbefore _ rfl hx)) nofun
    | outcomeUncertain hp => exact absurd (hp.symm.trans (hbefore _ rfl hx)) nofun

theorem named_exec (hi : Inv s) (he : Earned o s) (h : Carries j x (exec o s).2) :
    Holds j x (exec o s).2 ∨ Sought j (exec o s).2 := by
  have hr := rely_exec (o := o) hi
  have hkeep : Holds j x s ∨ Sought j s → Holds j x (exec o s).2 ∨ Sought j (exec o s).2 :=
    Or.imp (hr.holds j x) (hr.sought j)
  obtain ⟨r, hrow, hx⟩ := h
  rcases reconciliation?_exec o s j with heq | hmove
  · exact hkeep (hi.named j x ⟨r, heq.symm.trans hrow, hx⟩)
  · rw [hrow] at hmove
    generalize hb : s.db.reconciliation? j = b at hmove
    cases hmove with
    | @pending resourceId at' =>
      cases hx
      exact .inl (hr.holds j x he)
    | checked => exact hkeep (hi.named j x ⟨_, hb, hx⟩)
    | adopted => exact .inr (hr.sought j he)
    | settled => exact hkeep (hi.named j x ⟨_, hb, hx⟩)

theorem row_exec (hi : Inv s) (hc : NamedFirst o s) (he : Earned o s)
    {r : BilibiliReconciliationRecord} (hrow : (exec o s).2.db.reconciliation? j = some r) :
    r.Valid ∧ ∀ state ∈ foundState r.outcome, ∃ x, r.resourceId = some x ∧
      r.archiveState = some state ∧ Reported x state (exec o s).2 := by
  have hrely := rely_exec (o := o) hi
  rcases reconciliation?_exec o s j with heq | hmove
  · have hbefore := heq.symm.trans hrow
    refine ⟨hi.valid j r hbefore, fun state hstate => ?_⟩
    obtain ⟨x, hx, hs, hreported⟩ := hi.found j r hbefore state hstate
    exact ⟨x, hx, hs, hreported.rely hrely⟩
  · rw [hrow] at hmove
    generalize hb : s.db.reconciliation? j = b at hmove
    cases hmove with
    | @pending resourceId at' =>
      refine ⟨?_, nofun⟩
      simp [BilibiliReconciliationRecord.Valid, PublishDb.newReconciliation]
    | @checked b archiveState at' hp =>
      obtain ⟨h1, h2, -, -⟩ := hi.valid j b hb
      refine ⟨⟨h1, h2, ?_, hc.stamped (j, at') rfl b hb hp⟩, ?_⟩
      · simp [hp]
      · simp [hp, foundState]
    | @adopted b y at' hp =>
      obtain ⟨h1, h2, -, -⟩ := hi.valid j b hb
      refine ⟨⟨h1, h2, ?_, hc.stamped (j, at') rfl b hb hp⟩, ?_⟩
      · simp [hp]
      · simp [hp, foundState]
    | @settled b outcome archiveState failureCode at' hp ho hcode =>
      have hfound : ∀ state ∈ foundState outcome, ∃ x, b.resourceId = some x ∧
          archiveState = some state ∧ Reported x state s := by
        intro state hstate
        obtain ⟨harchive, x, hknown, hreported⟩ := he state hstate
        exact ⟨x, named_of_known hi hc hstate hb hp hknown, harchive, hreported⟩
      refine ⟨⟨?_, hcode, fun h => ?_, hc.stamped (j, at') rfl b hb hp⟩, fun state hstate => ?_⟩
      · exact iff_of_true nofun ho
      · obtain ⟨state, hstate⟩ : ∃ state, state ∈ foundState outcome := by
          rcases h with rfl | rfl
          · exact ⟨_, rfl⟩
          · exact ⟨_, rfl⟩
        obtain ⟨x, hx, harchive, -⟩ := hfound state hstate
        exact ⟨by rw [hx]; nofun, by rw [harchive]; nofun⟩
      · obtain ⟨x, hx, harchive, hreported⟩ := hfound state hstate
        exact ⟨x, hx, harchive, hreported.rely hrely⟩

theorem inv_exec (hi : Inv s) (hc : NamedFirst o s) (he : Earned o s) : Inv (exec o s).2 where
  valid _ _ hr := (row_exec hi hc he hr).1
  named _ _ := named_exec hi he
  found _ _ hr := (row_exec hi hc he hr).2
  submitted _ _ := submitted_exec hi he

theorem keeps_of_earned (h : ∀ s, Earned o s) : conduct.keeps o :=
  fun s hi hc => ⟨inv_exec hi hc (h s), rely_exec hi⟩

theorem keeps_part {p : Part} (h1 : p ≠ .intake) (h2 : p ≠ .opening) (h3 : p ≠ .settlement)
    (o : Op) (ho : o.part = p) : conduct.keeps o :=
  keeps_of_earned fun _ => earned_of_part (ho ▸ h1) (ho ▸ h2) (ho ▸ h3)

theorem keeps_read (o : Op) (ho : o.part = .read) : conduct.keeps o :=
  keeps_part (by decide) (by decide) (by decide) o ho

/-! ## What the platform says -/

variable {contract : BilibiliOpenApiContract} {policy : BilibiliReconciliationPolicy}

theorem queried_data {α : Type} {answer : GatewayAnswer α} {a : α}
    (h : queried contract answer = .ok (.ok a)) : answer = .data a := by
  cases answer with
  | data b =>
    cases h
    rfl
  | unreachable => cases h
  | malformed => cases h
  | rejected code =>
    unfold queried at h
    dsimp only at h
    split at h <;> cases h

/-- Asked about an archive, the platform is heard. -/
theorem asked_amid {β : Type} {f : GatewayAnswer ArchiveStatusSnapshot → Service β}
    {Q : β → PublishState → Prop}
    (h : ∀ answer t, Inv t → (⟨.archiveView x, answer⟩ : Heard) ∈ t.heard →
      (f answer).run.amid conduct (Prog.Returned Q) t) :
    (ask (.archiveView x) >>= f).run.amid conduct (Prog.Returned Q) s := by
  refine amid_call fun s₁ hi₁ hr₁ hc₁ => ?_
  obtain ⟨hi₂, hr₂⟩ := keeps_read (.ask (.archiveView x)) rfl s₁ hi₁ hc₁
  exact ⟨hi₂, hr₂, fun answer hanswer => h answer _ hi₂ (heard_of_ask hanswer)⟩

theorem view_amid {archiveBound : Bool} :
    (authorizedQuery contract archiveBound (ask (.archiveView x))).run.amid conduct
      (Prog.Returned fun r s' => ∀ snapshot, r = .ok snapshot →
        (⟨.archiveView x, .data snapshot⟩ : Heard) ∈ s'.heard) s := by
  refine asked_amid fun answer s₁ hi₁ hheard => ?_
  unfold requeried
  cases hq : queried contract answer with
  | error setback => exact nofun
  | ok r =>
    cases r with
    | ok snapshot =>
      cases queried_data hq
      rintro _ ⟨⟩
      exact hheard
    | error rejection =>
      dsimp only
      split
      · refine Prog.amid_usesE (uses_call (keeps_read _ rfl)) hi₁ fun _ s₂ _ _ => ?_
        refine asked_amid fun answer s₃ _ hheard => ?_
        cases hq : queried contract answer with
        | error setback => exact nofun
        | ok r =>
          cases r with
          | ok snapshot =>
            cases queried_data hq
            rintro _ ⟨⟩
            exact hheard
          | error rejection => exact nofun
      · exact nofun

theorem queryView_amid (hi : Inv s) : (queryView contract x).run.amid conduct
    (Prog.Returned fun r s' => ∀ snapshot, r = .ok snapshot → Reported x snapshot.state s') s := by
  refine Prog.amid_usesE (uses_call (keeps_read _ rfl)) hi fun _ s₁ hi₁ _ => ?_
  refine Prog.amid_thenE view_amid hi₁ fun r s₂ _ _ hheard => ?_
  cases r with
  | error setback => exact nofun
  | ok snapshot =>
    dsimp only
    split
    · exact nofun
    · rename_i hsame
      rintro _ ⟨⟩
      exact .inl ⟨snapshot, hheard snapshot rfl, not_not.1 hsame, rfl⟩

/-! ## The methods -/

theorem Earned.rely {outcome : BilibiliReconciliationOutcome} {archiveState : Option Int}
    {failureCode : Option PublishFailureCode} {at' at'' : Time}
    (h : Earned (.settle j outcome archiveState failureCode at') s) (hr : Rely s s') :
    Earned (.settle j outcome archiveState failureCode at'') s' := by
  intro state hstate
  obtain ⟨harchive, x, hknown, hreported⟩ := h state hstate
  exact ⟨harchive, x, hknown.rely hr, hreported.rely hr⟩

theorem settleAs_amid {decision : BilibiliReconciliationDecision}
    {outcome : BilibiliReconciliationOutcome} {archiveState : Option Int}
    {failureCode : Option PublishFailureCode} (hi : Inv s)
    (he : Earned (.settle j outcome archiveState failureCode 0) s) :
    (settleAs policy j decision outcome archiveState failureCode).run.amid conduct
      (Prog.Returned fun _ _ => True) s := by
  refine Prog.amid_usesE (uses_call (keeps_read _ rfl)) hi fun now s₁ _ hr₁ => ?_
  refine amid_call fun s₂ hi₂ hr₂ hc₂ => ?_
  have hi₃ := inv_exec hi₂ hc₂ (he.rely (conduct.trans hr₁ hr₂))
  refine ⟨hi₃, rely_exec hi₂, fun _ _ => ?_⟩
  exact Prog.amid_usesE (loadRecord_uses keeps_read) hi₃ fun _ _ _ _ => trivial

theorem decideOn_amid {snapshot : ArchiveStatusSnapshot} (hi : Inv s) (hknown : Known j x s)
    (hreported : Reported x snapshot.state s) :
    (decideOn policy j snapshot).run.amid conduct (Prog.Returned fun _ _ => True) s := by
  unfold decideOn
  split
  · rename_i hopen
    refine settleAs_amid hi ?_
    rintro _ ⟨⟩
    exact ⟨congrArg some hopen, x, hknown, hopen ▸ hreported⟩
  split
  · rename_i hrejected
    refine settleAs_amid hi ?_
    rintro _ ⟨⟩
    exact ⟨congrArg some hrejected, x, hknown, hrejected ▸ hreported⟩
  · refine Prog.amid_usesE (uses_call (keeps_read _ rfl)) hi fun now s₁ hi₁ _ => ?_
    refine Prog.amid_usesE (uses_call (keeps_of_earned fun _ => trivial)) hi₁ fun _ s₂ hi₂ _ => ?_
    exact Prog.amid_usesE (loadRecord_uses keeps_read) hi₂ fun _ _ _ _ => trivial

theorem lookUp_amid (hi : Inv s) (hknown : Known j x s) :
    (lookUp contract policy j x).run.amid conduct (Prog.Returned fun _ _ => True) s := by
  refine Prog.amid_thenE (queryView_amid hi) hi fun r s₁ hi₁ hr₁ hreported => ?_
  cases r with
  | error setback =>
    exact Prog.amid_usesE (loadRecord_uses keeps_read) hi₁ fun _ _ _ _ => trivial
  | ok snapshot => exact decideOn_amid hi₁ (hknown.rely hr₁) (hreported snapshot rfl)

/-- What is adopted is carried. -/
theorem adopted_carries {at' : Time} (h : (exec (.adoptResourceId j x at') s).1 = .ok ()) :
    Carries j x (exec (.adoptResourceId j x at') s).2 := by
  obtain ⟨r, -, -, -, hr⟩ := PublishDb.pendingUpdate_ok (PublishDb.required_ok h)
  exact ⟨_, hr, rfl⟩

theorem locate_amid {attempt : BilibiliPublishAttemptRecord} (hi : Inv s) (hsought : Sought j s) :
    (locateUncertainArchive contract policy j attempt).run.amid conduct
      (Prog.Returned fun located s' => ∀ x, located = .archive x → Carries j x s') s := by
  refine Prog.amid_usesE (uses_call (keeps_read _ rfl)) hi fun _ s₁ hi₁ hr₁ => ?_
  refine Prog.amid_usesE (walk_uses fun _ => uses_authorizedQuery keeps_read
    (uses_call (keeps_read _ rfl))) hi₁ fun located s₂ hi₂ hr₂ => ?_
  cases located with
  | archive resourceId =>
    refine Prog.amid_usesE (uses_call (keeps_read _ rfl)) hi₂ fun now s₃ _ hr₃ => ?_
    refine amid_call fun s₄ hi₄ hr₄ hc₄ => ?_
    have hr := conduct.trans (conduct.trans hr₁ hr₂) (conduct.trans hr₃ hr₄)
    refine ⟨inv_exec hi₄ hc₄ (hr.sought j hsought), rely_exec hi₄, fun _ hok => ?_⟩
    rintro _ ⟨⟩
    exact adopted_carries hok
  | absent => exact nofun
  | setback decision => exact nofun

theorem search_amid {attempt : BilibiliPublishAttemptRecord} (hi : Inv s) (hsought : Sought j s) :
    (search contract policy j attempt).run.amid conduct (Prog.Returned fun _ _ => True) s := by
  refine Prog.amid_thenE (locate_amid hi hsought) hi fun located s₁ hi₁ _ hcarries => ?_
  cases located with
  | archive resourceId => exact lookUp_amid hi₁ (.inl (hcarries resourceId rfl))
  | absent => exact settleAs_amid hi₁ nofun
  | setback decision =>
    exact Prog.amid_usesE (loadRecord_uses keeps_read) hi₁ fun _ _ _ _ => trivial

theorem fenced_sought {at' : Time} (h : (exec (.recordOutcomeUncertain j at') s).1 = .ok ()) :
    Sought j (exec (.recordOutcomeUncertain j at') s).2 := by
  obtain ⟨r, -, -, hr⟩ := PublishDb.guardedUpdate_ok (PublishDb.required_ok h)
  exact ⟨_, hr, rfl⟩

theorem fence_amid {attempt : BilibiliPublishAttemptRecord} (hi : Inv s)
    (ha : s.db.attempt? j = some attempt) : (fence j attempt).run.amid conduct
      (Prog.Returned fun _ s' => attempt.phase = .submitted ∨ Sought j s') s := by
  unfold fence
  split
  · refine Prog.amid_usesE (uses_call (keeps_read _ rfl)) hi fun now s₁ _ _ => ?_
    refine Prog.amid_call fun s₂ hi₂ hr₂ hc₂ => ?_
    refine ⟨inv_exec hi₂ hc₂ trivial, rely_exec hi₂, ?_⟩
    cases hx : (exec (.recordOutcomeUncertain j now) s₂).1 with
    | ok a => exact .inr (fenced_sought hx)
    | error e => exact trivial
  · rename_i hdispatched
    split
    · rename_i hreconcilable
      cases hp : attempt.phase with
      | submitted => exact .inl rfl
      | outcomeUncertain => exact .inr ⟨attempt, ha, hp⟩
      | dispatched => exact absurd hp hdispatched
      | _ => rw [hp] at hreconcilable; cases hreconcilable
    · exact trivial

theorem loadRecord_amid : (loadRecord j).run.amid conduct
    (Prog.Returned fun record s' => ∀ x, record.resourceId = some x → Carries j x s') s := by
  refine amid_call fun s₁ hi₁ _ _ => ⟨hi₁, conduct.refl _, fun loaded hloaded => ?_⟩
  cases loaded with
  | none => exact trivial
  | some record => exact fun x hx => ⟨record, PublishDb.loadReconciliation_some hloaded, hx⟩

theorem reconcileOnce_amid (hi : Inv s) :
    (reconcileOnce contract policy j).run.amid conduct (Prog.Returned fun _ _ => True) s := by
  refine Prog.amid_thenE loadRecord_amid hi fun record s₁ _ _ hcarries => ?_
  split
  · exact trivial
  refine amid_call fun s₂ hi₂ hr₂ _ => ⟨hi₂, conduct.refl _, fun loaded hloaded => ?_⟩
  cases loaded with
  | none => exact trivial
  | some attempt =>
    obtain ⟨ha, hvalid⟩ := PublishDb.load_some hloaded
    refine Prog.amid_thenE (fence_amid hi₂ ha) hi₂ fun _ s₃ hi₃ hr₃ hfenced => ?_
    split
    · rename_i x hx
      refine lookUp_amid hi₃ ?_
      rcases Option.or_eq_some_iff.1 hx with h | ⟨-, h⟩
      · exact .inl (hr₃.carries j x (hr₂.carries j x (hcarries x h)))
      · exact .inr (hr₃.holds j x ⟨attempt, ha, h⟩)
    · rename_i hx
      refine search_amid hi₃ (hfenced.resolve_left fun hp => ?_)
      exact absurd (Option.or_eq_none_iff.1 hx).2 (hvalid.2.2.2.2.2.1.2 hp)

theorem ensurePending_amid {β : Type} {attempt : BilibiliPublishAttemptRecord} {now : Time}
    {f : BilibiliReconciliationRecord → Service β} {Q : β → PublishState → Prop}
    (ha : ∀ x, attempt.resourceId = some x → Holds j x s)
    (h : ∀ r t, Inv t → Rely s t → (f r).run.amid conduct (Prog.Returned Q) t) :
    (call (.ensurePending j attempt.resourceId now) >>= f).run.amid conduct (Prog.Returned Q) s := by
  refine amid_call fun s₁ hi₁ hr₁ hc₁ => ?_
  have he : Earned (.ensurePending j attempt.resourceId now) s₁ := by
    cases hx : attempt.resourceId with
    | none => exact trivial
    | some x => exact hr₁.holds j x (ha x hx)
  have hr₂ : Rely s₁ (exec (.ensurePending j attempt.resourceId now) s₁).2 := rely_exec hi₁
  exact ⟨inv_exec hi₁ hc₁ he, hr₂, fun r _ => h r _ (inv_exec hi₁ hc₁ he) (conduct.trans hr₁ hr₂)⟩

theorem openReconciliation_amid :
    (openReconciliation j).run.amid conduct (Prog.Returned fun _ _ => True) s := by
  refine amid_call fun s₁ hi₁ _ _ => ?_
  refine ⟨hi₁, conduct.refl _, fun loaded hloaded => ?_⟩
  cases loaded with
  | none => exact trivial
  | some record =>
    obtain ⟨ha, -⟩ := PublishDb.load_some hloaded
    show (ite _ _ _ : Service _).run.amid conduct _ _
    split
    · refine Prog.amid_usesE (uses_call (keeps_read _ rfl)) hi₁ fun now s₂ _ hr₂ => ?_
      exact ensurePending_amid (fun x hx => hr₂.holds j x ⟨record, ha, hx⟩) fun _ _ _ _ => trivial
    · exact trivial

theorem recoverEach_amid {attempts : List BilibiliPublishAttemptRecord} (hi : Inv s)
    (hall : ∀ a ∈ attempts, ∀ x, a.resourceId = some x → Holds a.publishJobId x s) :
    (recoverEach attempts).run.amid conduct (Prog.Returned fun _ _ => True) s := by
  induction attempts generalizing s with
  | nil => exact trivial
  | cons attempt attempts ih =>
    unfold recoverEach
    split
    · exact trivial
    refine Prog.amid_usesE (fence_uses keeps_read (keeps_part (by decide) (by decide) (by decide)))
      hi fun _ s₁ hi₁ hr₁ => ?_
    refine Prog.amid_usesE (uses_call (keeps_read _ rfl)) hi₁ fun now s₂ _ hr₂ => ?_
    have hr : Rely s s₂ := conduct.trans hr₁ hr₂
    refine ensurePending_amid (fun x hx => hr.holds _ x (hall attempt (by simp) x hx))
      fun record s₃ hi₃ hr₃ => ?_
    refine Prog.amid_thenE (ih hi₃ fun a ha x hx => ?_) hi₃ fun _ _ _ _ _ => trivial
    exact hr₃.holds _ x (hr.holds _ x (hall a (List.mem_cons_of_mem _ ha) x hx))

theorem recover_amid : recover.run.amid conduct (Prog.Returned fun _ _ => True) s := by
  refine amid_call fun s₁ hi₁ _ _ => ⟨hi₁, conduct.refl _, fun attempts hlisted => ?_⟩
  exact recoverEach_amid hi₁ fun a ha x hx =>
    ⟨a, PublishDb.listReconcilable_stored hlisted ha, hx⟩

theorem applyNotification_amid : (ask .notification >>= applyNotification policy).run.amid conduct
    (Prog.Returned fun _ _ => True) s := by
  refine amid_call fun s₁ hi₁ _ hc₁ => ?_
  obtain ⟨hi₂, hr₂⟩ := keeps_read (.ask .notification) rfl s₁ hi₁ hc₁
  refine ⟨hi₂, hr₂, fun notification hanswer => ?_⟩
  have hheard := heard_of_ask hanswer
  refine amid_call fun s₃ hi₃ hr₃ _ => ⟨hi₃, conduct.refl _, fun found hfound => ?_⟩
  cases found with
  | none => exact trivial
  | some record =>
    obtain ⟨hrow, hx⟩ := PublishDb.findByResourceId_some hfound
    have hknown : Known record.publishJobId notification.resourceId s₃ := .inl ⟨record, hrow, hx⟩
    have hreported : Reported notification.resourceId notification.state s₃ :=
      .inr ⟨notification, hr₃.heard _ hheard, rfl, rfl⟩
    show (ite _ _ _ : Service _).run.amid conduct _ _
    split
    · exact trivial
    split
    · rename_i hopen
      refine Prog.amid_thenE (settleAs_amid hi₃ ?_) hi₃ fun _ _ _ _ _ => trivial
      rintro _ ⟨⟩
      exact ⟨congrArg some hopen, _, hknown, hopen ▸ hreported⟩
    split
    · rename_i hrejected
      refine Prog.amid_thenE (settleAs_amid hi₃ ?_) hi₃ fun _ _ _ _ _ => trivial
      rintro _ ⟨⟩
      exact ⟨congrArg some hrejected, _, hknown, hrejected ▸ hreported⟩
    · exact trivial

/-! ## Every run -/

theorem inv_fresh (h : s.Fresh) : Inv s := by
  obtain ⟨hdb, -, -⟩ := h
  refine ⟨fun j r hr => ?_, fun j x hx => ?_, fun j r hr => ?_, fun j a ha => ?_⟩
  · rw [hdb] at hr
    cases hr
  · obtain ⟨r, hr, -⟩ := hx
    rw [hdb] at hr
    cases hr
  · rw [hdb] at hr
    cases hr
  · rw [hdb] at ha
    cases ha

theorem amid_done {α : Type} {y : Service α}
    (h : y.run.amid conduct (Prog.Returned fun _ _ => True) s) :
    y.run.amid conduct (fun _ _ => True) s := Prog.amid_mono h fun _ _ _ => trivial

theorem offered_amid [UnicodeData] {p : Prog Op Op.Ret Unit} (h : Offered contract p)
    (hi : Inv s) : p.amid conduct (fun _ _ => True) s := by
  refine amid_offered h (fun o ho => ?_) (fun _ _ _ _ _ => keeps_of_earned fun _ => rfl)
    (fun _ _ hi => ?_) (fun _ _ _ => amid_done openReconciliation_amid)
    (fun _ _ => amid_done recover_amid) (fun _ _ _ hi => amid_done (reconcileOnce_amid hi))
    (fun _ _ _ => amid_done applyNotification_amid) hi
  · refine keeps_of_earned fun _ => earned_of_part ?_ ?_ ?_ <;> intro h <;> rw [h] at ho <;> cases ho
  · exact amid_of_keeps (uploadVideo_uses keeps_read
      (keeps_part (by decide) (by decide) (by decide))) hi

theorem Inv.readable (hi : Inv s) : Readable s where
  read r hr := if_pos (hi.valid _ r (PublishDb.reconciliation?_of_mem hr))
  named r hr := hi.found _ r (PublishDb.reconciliation?_of_mem hr)

open Scene
open scoped Editing.Racing

/-- One submit, and a look at its archive. -/
def lone : List (Turn Op Op.Ret) :=
  prepared ++ alone 1 (uploadVideo Scene.contract 1).ended 10 ++
    alone 2 (submit Scene.contract 1).ended 12 ++ alone 3 (reconcileOnce Scene.contract {} 1).ended 8

def published : Pool PublishState Op Op.Ret :=
  (Pool.play exec lone (start (obliging clip ['a'] 5))).2

/-- The first submit waits for the answer to its request; the second one opens the row. Then
the archive is created, the first one goes on, and the row is reconciled. -/
def hasty : List (Turn Op Op.Ret) :=
  prepared ++ alone 1 (uploadVideo Scene.contract 1).ended 10 ++
    alone 2 (submit Scene.contract 1).ended 5 ++ alone 3 (submit Scene.contract 1).ended 4 ++
    alone 4 (call (.created 1 archive)).ended 1 ++ List.replicate 6 (.next 2) ++
    alone 5 (reconcileOnce Scene.contract {} 1).ended 8

def poisoned : Pool PublishState Op Op.Ret :=
  (Pool.play exec hasty (start (obliging clip ['a'] 5))).2

end AutomationTool.Bugs.UnnamedSettlement
