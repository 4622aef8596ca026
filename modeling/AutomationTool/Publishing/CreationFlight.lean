import AutomationTool.Publishing.SingleAdmission

/-!
# The way of the creation request

A request is on its way from the admission of its attempt on, and only then (`Begun`). Once
it is over, it is over for good: there is no second admission.

* `over_exec`, `over_run`: no operation, and no run, sets a request on its way again.
* `over_creates_nothing`: the platform creates no archive for it.
-/
namespace AutomationTool.Publishing

open Editing (UnicodeData)

/-- The request of the job is answered, or lost. -/
def Over (j : PublishJobId) (s : PublishState) : Prop := s.flight j = some .ended

/-- A request is known of exactly from the admission on. -/
def Begun (s : PublishState) : Prop := ∀ j, s.flight j ≠ none ↔ Admitted j s

variable {o : Op} {s : PublishState} {j : PublishJobId}

/-- Only the admission makes an attempt one that is past it. -/
theorem admitted_before (ho : o.part ≠ .admission) (h : Admitted j (exec o s).2) :
    Admitted j s := by
  obtain ⟨r', hr', h1, h2⟩ := h
  rcases attempt?_exec o s j with h | h
  · exact ⟨r', h.symm.trans hr', h1, h2⟩
  · rw [hr'] at h
    generalize ha : s.db.attempt? j = a at h
    cases h with
    | prepared _ hp => exact absurd hp h1
    | uploadToken => exact ⟨_, ha, h1, h2⟩
    | videoUploaded => exact absurd rfl h2
    | coverUrl => exact ⟨_, ha, h1, h2⟩
    | dispatched => exact absurd rfl ho
    | submitted hp => exact ⟨_, ha, by rw [hp]; decide, by rw [hp]; decide⟩
    | failed hp => exact ⟨_, ha, by rw [hp]; decide, by rw [hp]; decide⟩
    | outcomeUncertain hp => exact ⟨_, ha, by rw [hp]; decide, by rw [hp]; decide⟩

/-- No request appears or disappears but by an admission. -/
theorem flight_known (ho : o.part ≠ .admission) :
    (exec o s).2.flight j ≠ none ↔ s.flight j ≠ none := by
  rcases flight_exec o s j with h | h
  · rw [h]
  · generalize s.flight j = f at h
    generalize (exec o s).2.flight j = f' at h
    cases h with
    | admitted => exact absurd rfl ho
    | sent => simp
    | ended => simp

/-- An admission that is not granted changes no attempt and no request. -/
theorem begin_refused {i : PublishJobId} {at' : Protocol.Time}
    (h : (s.db.beginArchiveCreation i at').1 ≠ .ok true) :
    (s.begin i at').2.flight = s.flight ∧
      ∀ j, (s.begin i at').2.db.attempt? j = s.db.attempt? j := by
  constructor
  · unfold PublishState.begin
    dsimp only
    split
    · exact absurd ‹_› h
    · rfl
  · intro j
    rw [PublishState.begin_db, begin_attempt?]
    cases hr : s.db.attempt? j with
    | none => rfl
    | some r =>
      rw [Option.map_some, if_neg]
      rintro ⟨rfl, hp⟩
      refine h ?_
      unfold PublishDb.beginArchiveCreation
      dsimp only
      rw [if_pos]
      exact (Option.any_eq_true _ _).2 ⟨r, hr, by simp [hp]⟩

theorem begun_exec (o : Op) (h : Begun s) : Begun (exec o s).2 := by
  intro j
  by_cases ho : o.part = .admission
  · cases o with
    | beginArchiveCreation i at' =>
      rw [show exec (.beginArchiveCreation i at') s = s.begin i at' from rfl]
      by_cases hx : (s.db.beginArchiveCreation i at').1 = .ok true
      · have hflight : (s.begin i at').2.flight j =
            if j = i then some .admitted else s.flight j := by
          unfold PublishState.begin
          dsimp only
          rw [hx]
          rfl
        obtain ⟨r, hr, hp, hafter⟩ := begin_admits hx
        rw [hflight]
        by_cases hj : j = i
        · subst hj
          rw [if_pos rfl]
          exact iff_of_true nofun ⟨_, (congrArg (·.attempt? j) PublishState.begin_db).trans hafter,
            nofun, nofun⟩
        · rw [if_neg hj, h j]
          have hother : (s.begin i at').2.db.attempt? j = s.db.attempt? j := by
            rw [PublishState.begin_db, begin_attempt?]
            cases s.db.attempt? j with
            | none => rfl
            | some r' => rw [Option.map_some, if_neg fun hc => hj hc.1]
          unfold Admitted
          rw [hother]
      · obtain ⟨hf, ha⟩ := begin_refused hx
        rw [hf, h j]
        unfold Admitted
        rw [ha j]
    | settle _ outcome => cases outcome <;> cases ho
    | _ => cases ho
  · rw [flight_known ho, h j]
    exact ⟨admitted_exec o s, admitted_before ho⟩

/-- Over is over. -/
theorem over_exec (o : Op) (h : Begun s) (hover : Over j s) : Over j (exec o s).2 := by
  have hadmitted : Admitted j s := (h j).1 (by rw [show s.flight j = some .ended from hover]; nofun)
  rcases flight_exec o s j with hf | hf
  · exact hf.trans hover
  · rw [show s.flight j = some .ended from hover] at hf
    unfold Over
    generalize (exec o s).2.flight j = f at hf
    cases hf with
    | admitted hr hp =>
      obtain ⟨r, hr', -, h2⟩ := hadmitted
      cases hr.symm.trans hr'
      exact absurd hp h2
    | ended => rfl

theorem begun_fresh (h : s.Fresh) : Begun s := by
  obtain ⟨hdb, -, hflight⟩ := h
  intro j
  rw [hflight]
  refine iff_of_false (fun h => h rfl) ?_
  rintro ⟨r, hr, -⟩
  rw [hdb] at hr
  cases hr

section

variable [UnicodeData] {contract : BilibiliOpenApiContract} {P P' : Pool PublishState Op Op.Ret}
  {ls : List (PoolLabel Op Op.Ret)}

theorem begun_inductive : (publishing contract).Inductive fun P => Begun P.state := by
  constructor
  · exact fun P h => begun_fresh h.1
  · intro P l P' h hs
    cases hs with
    | spawn => exact h
    | turn => exact begun_exec _ h
    | crash => exact h

theorem over_run (h : Begun P.state) (hr : (publishing contract).Run P ls P')
    (hover : Over j P.state) : Over j P'.state := by
  refine hr.rel (R := fun P P' => Over j P.state → Over j P'.state) begun_inductive ?_ ?_ ?_ h hover
  · exact fun _ => id
  · exact fun _ _ _ hab hbc hover => hbc (hab hover)
  · intro P l P' hP hs hover
    cases hs with
    | spawn => exact hover
    | turn => exact over_exec _ hP hover
    | crash => exact hover

end

theorem over_creates_nothing (h : Over j s) (archive : ArchiveStatusSnapshot) :
    (exec (.created j archive) s).2 = s := by
  show s.create j archive = s
  unfold PublishState.create
  rw [if_neg]
  rw [show s.flight j = some .ended from h]
  nofun

end AutomationTool.Publishing
