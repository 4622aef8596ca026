import AutomationTool.Publishing.CreationFlight

/-!
# An absence proved while the request is still on its way

Behaviour (bilibili_archive_reconciliation.py:402-491):
`recover` and `reconcile_once` fence every attempt they find `DISPATCHED`, whether its process
crashed or is still waiting for the answer to its creation request. The search that follows
lists the account's archives at once; when the request has not reached the platform yet, the
list has no candidate, and the job is settled as failed. The archive is created afterwards.

Evidence: the module docstring, "stale `dispatched` admissions left behind by a crash are
fenced"; the comment at the settlement, "Complete enumeration found no candidate: the creation
verifiably never happened".

Counterexample: a second caller recovers and reconciles between the sending of the request
and its arrival.

`absent_for_good`: while no list is read for a job whose request is on its way, a job settled
as failed never gets its archive.
-/
namespace AutomationTool.Bugs.EarlyAbsence

open Protocol Publishing
open Editing (UnicodeData)

/-- The reconciliation of the job is settled as failed: its archive is absent. -/
def SettledAbsent (j : PublishJobId) (s : PublishState) : Prop :=
  ∃ r, s.db.reconciliation? j = some r ∧ r.outcome = .failed

/-- In every continuation of the run, the platform creates no archive for the job. -/
def NeverCreated [UnicodeData] (contract : BilibiliOpenApiContract) (j : PublishJobId)
    (P : Pool PublishState Op Op.Ret) : Prop :=
  ∀ ls P', (publishing contract).Run P ls P' → ∀ archive,
    (exec (.created j archive) P'.state).2.archives = P'.state.archives

/-- The page of the list an operation reads, and the job it is read for. -/
def listed : Op → Option (PublishJobId × Nat)
  | .ask (.archiveViewlist j n) => some (j, n)
  | _ => none

/-- The condition: no page is read for a job whose request is admitted or sent. -/
def QuietListing (o : Op) (s : PublishState) : Prop :=
  ∀ x ∈ listed o, s.flight x.1 ≠ some .admitted ∧ s.flight x.1 ≠ some .sent

instance (o : Op) (s : PublishState) : Decidable (QuietListing o s) :=
  inferInstanceAs (Decidable (∀ x ∈ listed o, _ ∧ _))

/-! ## The rules -/

structure Inv (s : PublishState) : Prop where
  begun : Begun s
  absent : ∀ j, SettledAbsent j s → Over j s

structure Rely (s s' : PublishState) : Prop where
  admitted : ∀ j, Admitted j s → Admitted j s'
  ended : ∀ j, Over j s → Over j s'

def conduct : Interference exec where
  inv := Inv
  rely := Rely
  cond := QuietListing
  refl _ := ⟨fun _ => id, fun _ => id⟩
  trans hab hbc :=
    ⟨fun j h => hbc.admitted j (hab.admitted j h), fun j h => hbc.ended j (hab.ended j h)⟩

variable {s s' : PublishState} {o : Op} {j : PublishJobId}

theorem rely_exec (hi : Inv s) : Rely s (exec o s).2 :=
  ⟨fun _ => admitted_exec o s, fun _ => over_exec o hi.begun⟩

/-- Only a settlement as failed makes a job absent. -/
theorem inv_exec (hi : Inv s)
    (hsettle : ∀ j state code at', o = .settle j .failed state code at' → Over j s) :
    Inv (exec o s).2 := by
  refine ⟨begun_exec o hi.begun, ?_⟩
  rintro j ⟨r, hr, hfailed⟩
  refine over_exec o hi.begun ?_
  rcases reconciliation?_exec o s j with h | h
  · exact hi.absent j ⟨r, h.symm.trans hr, hfailed⟩
  · rw [hr] at h
    generalize s.db.reconciliation? j = a at h
    cases h with
    | pending => cases hfailed
    | checked hp => exact absurd (hp.symm.trans hfailed) nofun
    | adopted hp => exact absurd (hp.symm.trans hfailed) nofun
    | settled =>
      cases hfailed
      exact hsettle _ _ _ _ rfl

theorem keeps_of_part (ho : o.part ≠ .dismissal) : conduct.keeps o := by
  refine fun s hi _ => ⟨inv_exec hi ?_, rely_exec hi⟩
  rintro j state code at' rfl
  exact absurd rfl ho

theorem keeps_part {p : Part} (hp : p ≠ .dismissal) (o : Op) (ho : o.part = p) : conduct.keeps o :=
  keeps_of_part (ho ▸ hp)

/-! ## The search -/

variable {contract : BilibiliOpenApiContract} {policy : BilibiliReconciliationPolicy}
  {attempt : BilibiliPublishAttemptRecord}

/-- A request that is begun, and neither admitted nor sent, is over. -/
theorem over_of_quiet (hi : Inv s) (hadmitted : Admitted j s)
    (hq : s.flight j ≠ some .admitted ∧ s.flight j ≠ some .sent) : Over j s := by
  unfold Over
  cases hf : s.flight j with
  | none => exact absurd hf ((hi.begun j).2 hadmitted)
  | some f =>
    cases f with
    | admitted => exact absurd hf hq.1
    | sent => exact absurd hf hq.2
    | ended => rfl

/-- Where a page was read, the request is over. -/
theorem listPage_amid {n : Nat} (hadmitted : Admitted j s) :
    (authorizedQuery contract false (ask (.archiveViewlist j n))).run.amid conduct
      (Prog.Returned fun _ s' => Over j s') s := by
  refine amid_call fun s₁ hi₁ hr₁ hc₁ => ?_
  have hover := over_of_quiet hi₁ (hr₁.admitted j hadmitted) (hc₁ (j, n) rfl)
  have hi₂ : Inv _ := (keeps_of_part (o := .ask (.archiveViewlist j n)) nofun s₁ hi₁ hc₁).1
  have hr₂ := rely_exec (o := .ask (.archiveViewlist j n)) hi₁
  refine ⟨hi₂, hr₂, fun answer _ => ?_⟩
  have huses : (requeried contract false (ask (.archiveViewlist j n)) answer).run.uses
      conduct.keeps := uses_requeried (keeps_part (by decide)) (uses_call (keeps_of_part nofun))
  refine Prog.amid_mono (Prog.amid_of_uses huses hi₂ (conduct.refl _)) fun r t ht => ?_
  cases r with
  | ok a => exact ht.2.ended j (hr₂.ended j hover)
  | error e => exact trivial

/-- A search that finds nothing read a page. -/
theorem walk_amid {c : ArchiveStatusSnapshot → Bool} {left n seen : Nat} {expected : Option Nat}
    {candidates : List ArchiveStatusSnapshot} (hi : Inv s) (hadmitted : Admitted j s) :
    (walk c (fun n => authorizedQuery contract false (ask (.archiveViewlist j n))) left n expected
      seen candidates : Service Located).run.amid conduct
      (Prog.Returned fun located s' => located = .absent → Over j s') s := by
  induction left generalizing n expected seen candidates s with
  | zero => exact nofun
  | succ left ih =>
    refine Prog.amid_thenE (listPage_amid hadmitted) hi fun answer s₁ hi₁ hr₁ hover => ?_
    cases answer with
    | error setback => exact nofun
    | ok page =>
      dsimp only
      split
      · exact nofun
      split
      · exact fun _ => hover
      · exact ih hi₁ (hr₁.admitted j hadmitted)

theorem locate_amid (hi : Inv s) (hadmitted : Admitted j s) :
    (locateUncertainArchive contract policy j attempt).run.amid conduct
      (Prog.Returned fun located s' => located = .absent → Over j s') s := by
  refine Prog.amid_usesE (uses_call (keeps_of_part nofun)) hi fun _ s₁ hi₁ hr₁ => ?_
  refine Prog.amid_thenE (walk_amid hi₁ (hr₁.admitted j hadmitted)) hi₁
    fun located s₂ hi₂ hr₂ hover => ?_
  cases located with
  | archive resourceId =>
    refine Prog.amid_usesE (uses_call (keeps_of_part nofun)) hi₂ fun now s₃ hi₃ hr₃ => ?_
    exact Prog.amid_usesE (uses_call (keeps_of_part nofun)) hi₃ fun _ _ _ _ => nofun
  | absent => exact hover
  | setback decision => exact nofun

/-- The settlement as failed, of a request that is over. -/
theorem dismiss_amid {decision : BilibiliReconciliationDecision} {state : Option Int}
    {code : Option PublishFailureCode} (hi : Inv s) (hover : Over j s) :
    (settleAs policy j decision .failed state code).run.amid conduct
      (Prog.Returned fun _ _ => True) s := by
  refine Prog.amid_usesE (uses_call (keeps_of_part nofun)) hi fun now s₁ hi₁ hr₁ => ?_
  refine amid_call fun s₂ hi₂ hr₂ _ => ?_
  have hover₂ := hr₂.ended j (hr₁.ended j hover)
  have hi₃ : Inv (exec (.settle j .failed state code now) s₂).2 := by
    refine inv_exec hi₂ fun i state' code' at' ho => ?_
    cases ho
    exact hover₂
  refine ⟨hi₃, rely_exec hi₂, fun _ _ => ?_⟩
  exact Prog.amid_usesE (loadRecord_uses (keeps_part (by decide))) hi₃ fun _ _ _ _ => trivial

theorem search_amid (hi : Inv s) (hadmitted : Admitted j s) :
    (search contract policy j attempt).run.amid conduct (fun _ _ => True) s := by
  refine Prog.amid_mono (Q := Prog.Returned fun _ _ => True) ?_ fun _ _ _ => trivial
  refine Prog.amid_thenE (locate_amid hi hadmitted) hi fun located s₁ hi₁ hr₁ hover => ?_
  have hother : ∀ {x : Service BilibiliReconciliationResult}, x.run.uses conduct.keeps →
      x.run.amid conduct (Prog.Returned fun _ _ => True) s₁ := by
    intro x hx
    refine Prog.amid_mono (amid_of_keeps hx hi₁) fun r _ _ => ?_
    cases r <;> exact trivial
  cases located with
  | archive resourceId => exact hother (lookUp_uses (keeps_part (by decide)) (keeps_part (by decide)))
  | absent => exact dismiss_amid hi₁ (hover rfl)
  | setback decision => exact hother (setBack_uses (keeps_part (by decide)))

theorem fence_amid (hi : Inv s) : (fence j attempt).run.amid conduct
    (Prog.Returned fun _ _ => PublishDb.isReconcilable attempt.phase = true) s := by
  unfold fence
  split
  · rename_i hphase
    have huses : (ask .now >>= fun now => call (.recordOutcomeUncertain j now)).run.uses
        conduct.keeps :=
      Prog.uses_bindE (uses_call (keeps_of_part nofun)) fun _ => uses_call (keeps_of_part nofun)
    refine Prog.amid_mono (Prog.amid_of_uses huses hi (conduct.refl s)) fun r _ _ => ?_
    cases r with
    | ok a => exact hphase ▸ rfl
    | error e => exact trivial
  · split
    · exact ‹_›
    · exact trivial

theorem admitted_of_reconcilable {r : BilibiliPublishAttemptRecord}
    (hr : s.db.attempt? j = some r) (h : PublishDb.isReconcilable r.phase = true) :
    Admitted j s := by
  refine ⟨r, hr, ?_, ?_⟩
  · intro hp
    rw [hp] at h
    cases h
  · intro hp
    rw [hp] at h
    cases h

theorem reconcileOnce_amid (hi : Inv s) :
    (reconcileOnce contract policy j).run.amid conduct (fun _ _ => True) s := by
  refine Prog.amid_mono (Q := Prog.Returned fun _ _ => True) ?_ fun _ _ _ => trivial
  refine Prog.amid_usesE (loadRecord_uses (keeps_part (by decide))) hi fun record s₁ hi₁ hr₁ => ?_
  split
  · exact trivial
  refine amid_call fun s₂ hi₂ hr₂ hc₂ => ?_
  refine ⟨hi₂, conduct.refl _, fun loaded hloaded => ?_⟩
  cases loaded with
  | none => exact trivial
  | some attempt =>
    obtain ⟨hrow, -⟩ := PublishDb.load_some hloaded
    refine Prog.amid_thenE (fence_amid hi₂) hi₂ fun _ s₃ hi₃ hr₃ hphase => ?_
    have hadmitted := hr₃.admitted j (admitted_of_reconcilable hrow hphase)
    split
    · refine Prog.amid_mono (amid_of_keeps (lookUp_uses (keeps_part (by decide))
        (keeps_part (by decide))) hi₃) fun r _ _ => ?_
      cases r <;> exact trivial
    · refine Prog.amid_mono (search_amid hi₃ hadmitted) fun r _ _ => ?_
      cases r <;> exact trivial

/-! ## Every run -/

theorem inv_fresh (h : s.Fresh) : Inv s := by
  refine ⟨begun_fresh h, ?_⟩
  rintro j ⟨r, hr, -⟩
  rw [h.1] at hr
  cases hr

section

variable [UnicodeData] {P : Pool PublishState Op Op.Ret}

theorem offered_amid {p : Prog Op Op.Ret Unit} (h : Offered contract p) (hi : Inv s) :
    p.amid conduct (fun _ _ => True) s := by
  refine amid_offered h (fun o ho => ?_) (fun _ _ _ _ _ => keeps_of_part nofun)
    (fun _ _ hi => ?_) (fun _ _ hi => ?_) (fun _ hi => ?_) (fun _ _ _ hi => reconcileOnce_amid hi)
    (fun _ _ hi => ?_) hi
  · refine keeps_of_part fun hd => ?_
    rw [hd] at ho
    cases ho
  · exact amid_of_keeps (uploadVideo_uses (keeps_part (by decide)) (keeps_part (by decide))) hi
  · exact amid_of_keeps (openReconciliation_uses (keeps_part (by decide))
      (keeps_part (by decide))) hi
  · exact amid_of_keeps (recover_uses (keeps_part (by decide)) (keeps_part (by decide))
      (keeps_part (by decide))) hi
  · exact amid_of_keeps (Prog.uses_bindE (uses_call (keeps_of_part nofun)) fun _ =>
      applyNotification_uses (keeps_part (by decide)) (keeps_part (by decide))) hi

/-- **Absent for good**, in every run in which no list is read too early. -/
theorem absent_for_good (contract : BilibiliOpenApiContract)
    (h : ((publishing contract).restrict (PoolLabel.meets QuietListing)).Reachable P)
    (j : PublishJobId) (hsettled : SettledAbsent j P.state) : NeverCreated contract j P := by
  have hi : Inv P.state := pool_amid conduct (fun _ => inv_fresh)
    (fun _ hp _ hi => offered_amid hp hi) h
  intro ls P' hr archive
  rw [over_creates_nothing (over_run hi.begun hr (hi.absent j hsettled))]

end

open Scene
open scoped Editing.Racing

/-- The process crashes with its request under way, and the request gets lost. -/
theorem positive : 1 ≤ 60 ∧ 1 ≤ 60 ∧ 1 ≤ 300 ∧ 1 ≤ 900 ∧ 1 ≤ 600 ∧ 1 ≤ 100 := by decide

def crashed : List (Turn Op Op.Ret) :=
  prepared ++ alone 1 (uploadVideo Scene.contract 1).ended 10 ++
    alone 2 (createArchive Scene.contract 1).ended 5 ++ [.crash] ++ alone 0 (call (.lost 1)).ended 1 ++
    alone 1 recover.ended 5 ++ alone 2 (reconcileOnce Scene.contract { positive } 1).ended 7

def recovered : Pool PublishState Op Op.Ret :=
  (Pool.play exec crashed (start (obliging clip ['a'] 5))).2

theorem recovered_reachable :
    ((publishing Scene.contract).restrict (PoolLabel.meets QuietListing)).Reachable recovered := by
  refine ⟨_, _, start_init, Pool.run_play ?_ ?_⟩
  · simp only [crashed, offers_append, offers_alone, offers_crash]
    exact ⟨⟨⟨⟨⟨⟨prepared_offers, .uploadVideo _⟩, .createArchive _⟩, trivial⟩, .lost _⟩, .recover⟩,
      .reconcileOnce ..⟩
  · decide +kernel

theorem recovered_absent :
    SettledAbsent 1 recovered.state ∧ NeverCreated Scene.contract 1 recovered := by
  have hrow : (recovered.state.db.reconciliation? 1).map (·.outcome) = some .failed := by
    decide +kernel
  obtain ⟨r, hr, hfailed⟩ := Option.map_eq_some_iff.1 hrow
  exact ⟨⟨r, hr, hfailed⟩, absent_for_good Scene.contract recovered_reachable 1 ⟨r, hr, hfailed⟩⟩

/-! ## An archive that arrives late -/

/-- A page of the list of some archives. -/
def pageOf (archives : List ArchiveStatusSnapshot) (pageSize n : Nat) : ArchiveListPage :=
  ⟨(archives.drop ((n - 1) * pageSize)).take pageSize, pageSize, archives.length⟩

def dataOf {α : Type} : Option (GatewayAnswer α) → Option α
  | some (.data a) => some a
  | _ => none

/-- A page that is read is one of the archives there are. -/
def Honest (o : Op) (s : PublishState) : Prop :=
  ∀ x ∈ listed o, ∀ page ∈ dataOf (s.world (.archiveViewlist x.1 x.2)),
    page = pageOf s.archives page.pageSize x.2

instance (o : Op) (s : PublishState) : Decidable (Honest o s) :=
  inferInstanceAs (Decidable (∀ x ∈ listed o, ∀ page ∈ dataOf _, page = _))

/-- The request is sent; while it is under way, another caller recovers and reconciles. -/
def overtaking : List (Turn Op Op.Ret) :=
  prepared ++ alone 1 (uploadVideo Scene.contract 1).ended 10 ++
    alone 2 (createArchive Scene.contract 1).ended 5 ++ alone 3 recover.ended 5 ++
    alone 4 (reconcileOnce Scene.contract { positive } 1).ended 7

def overtaken : Pool PublishState Op Op.Ret :=
  (Pool.play exec overtaking (start (obliging clip ['a'] 5))).2

/-- **Counterexample**: the list is honest, the job is settled as failed, and its archive may
still be created. -/
theorem created_after_all :
    ((publishing Scene.contract).restrict (PoolLabel.meets Honest)).Reachable overtaken ∧
      SettledAbsent 1 overtaken.state ∧ ¬NeverCreated Scene.contract 1 overtaken := by
  refine ⟨⟨_, _, start_init, Pool.run_play ?_ ?_⟩, ?_, fun h => ?_⟩
  · simp only [overtaking, offers_append, offers_alone]
    exact ⟨⟨⟨⟨prepared_offers, .uploadVideo _⟩, .createArchive _⟩, .recover⟩, .reconcileOnce ..⟩
  · decide +kernel
  · have hrow : (overtaken.state.db.reconciliation? 1).map (·.outcome) = some .failed := by
      decide +kernel
    obtain ⟨r, hr, hfailed⟩ := Option.map_eq_some_iff.1 hrow
    exact ⟨r, hr, hfailed⟩
  · have hsame := h [] overtaken (.nil _) archive
    have hlength : (exec (.created 1 archive) overtaken.state).2.archives.length =
      overtaken.state.archives.length + 1 := by decide +kernel
    rw [hsame] at hlength
    omega

end AutomationTool.Bugs.EarlyAbsence
