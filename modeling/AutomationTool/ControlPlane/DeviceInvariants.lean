import AutomationTool.ControlPlane.DeviceRepositories

/-!
# Devices under concurrent requests

Registrations, rotations, revocations and authentications of the same device may run at
once; between the look at what a bearer is bound to and the first lock anything may commit.
What a bearer is bound to never changes, though (`Later`), and every transaction locks the
installation before it decides. So it is enough to look at the requests alone, after a look
at an earlier state.

* `DeviceInv`: an installation's credentials are numbered from 1, the last one alone may be
  active, and a session is bound to a credential that exists.
* `later_run`: what is revoked, rotated or consumed stays so.
* `authenticated_run`: what is true of the database when a session is accepted.
* `devices_safe`: all of it for any number of requests that run at once.
-/
namespace AutomationTool.ControlPlane.Devices

open Protocol

/-! ## Rows that stay -/

/-- Every row is still there, changed as `keep` allows. -/
def Kept {ρ : Type} [Schema ρ] (keep : ρ → ρ → Prop) (t t' : Relation ρ) : Prop :=
  ∀ r ∈ t, ∃ r' ∈ t', keep r r'

namespace Kept

variable {ρ : Type} [Schema ρ] {keep : ρ → ρ → Prop} {t t' t'' : Relation ρ}

theorem refl (hk : ∀ r, keep r r) (t : Relation ρ) : Kept keep t t := fun r hr => ⟨r, hr, hk r⟩

theorem trans (hk : ∀ a b c, keep a b → keep b c → keep a c) (h : Kept keep t t')
    (h' : Kept keep t' t'') : Kept keep t t'' := by
  intro r hr
  obtain ⟨r', hr', h1⟩ := h r hr
  obtain ⟨r'', hr'', h2⟩ := h' r' hr'
  exact ⟨r'', hr'', hk _ _ _ h1 h2⟩

theorem insert? (hk : ∀ r, keep r r) {x : ρ} (h : t.insert? x = some t') : Kept keep t t' :=
  fun r hr => ⟨r, (Relation.mem_insert? h).2 (.inl hr), hk r⟩

theorem update? (hk : ∀ r, keep r r) {p : ρ → Bool} {f : ρ → ρ} (h : t.update? p f = some t')
    (hf : ∀ r ∈ t, p r = true → keep r (f r)) : Kept keep t t' := by
  intro r hr
  refine ⟨_, (Relation.mem_update? h).2 ⟨r, hr, rfl⟩, ?_⟩
  split
  · exact hf r hr ‹_›
  · exact hk r

end Kept

def SameInstallation (a b : DeviceInstallation) : Prop :=
  b.id = a.id ∧ b.devicePublicKey = a.devicePublicKey ∧ (a.status = .revoked → b.status = .revoked)

def SameChallenge (a b : RegistrationChallenge) : Prop :=
  b.id = a.id ∧ (a.consumedAt ≠ none → b = a)

def SameCredential (a b : DeviceCredential) : Prop :=
  b.id = a.id ∧ b.installationId = a.installationId ∧ b.version = a.version ∧
    (a.status ≠ .active → b.status ≠ .active)

def SameSession (a b : DeviceSession) : Prop :=
  b.id = a.id ∧ b.installationId = a.installationId ∧
    b.deviceCredentialId = a.deviceCredentialId ∧ b.credentialVersion = a.credentialVersion ∧
    (a.revokedAt ≠ none → b.revokedAt ≠ none)

theorem SameInstallation.refl (a : DeviceInstallation) : SameInstallation a a := ⟨rfl, rfl, id⟩

theorem SameChallenge.refl (a : RegistrationChallenge) : SameChallenge a a := ⟨rfl, fun _ => rfl⟩

theorem SameCredential.refl (a : DeviceCredential) : SameCredential a a := ⟨rfl, rfl, rfl, id⟩

theorem SameSession.refl (a : DeviceSession) : SameSession a a := ⟨rfl, rfl, rfl, rfl, id⟩

/-- What no request takes back. -/
structure Later (db db' : DeviceDb) : Prop where
  installations : Kept SameInstallation db.installations db'.installations
  challenges : Kept SameChallenge db.challenges db'.challenges
  credentials : Kept SameCredential db.credentials db'.credentials
  sessions : Kept SameSession db.sessions db'.sessions

theorem Later.refl (db : DeviceDb) : Later db db :=
  ⟨.refl SameInstallation.refl _, .refl SameChallenge.refl _, .refl SameCredential.refl _,
    .refl SameSession.refl _⟩

theorem Later.trans {a b c : DeviceDb} (h : Later a b) (h' : Later b c) : Later a c where
  installations := h.installations.trans
    (fun _ _ _ h1 h2 => ⟨h2.1.trans h1.1, h2.2.1.trans h1.2.1, fun hr => h2.2.2 (h1.2.2 hr)⟩)
    h'.installations
  challenges := by
    refine h.challenges.trans (fun x y z h1 h2 => ⟨h2.1.trans h1.1, fun hx => ?_⟩) h'.challenges
    have hy := h1.2 hx
    subst hy
    exact h2.2 hx
  credentials := h.credentials.trans
    (fun _ _ _ h1 h2 => ⟨h2.1.trans h1.1, h2.2.1.trans h1.2.1, h2.2.2.1.trans h1.2.2.1,
      fun hr => h2.2.2.2 (h1.2.2.2 hr)⟩) h'.credentials
  sessions := h.sessions.trans
    (fun _ _ _ h1 h2 => ⟨h2.1.trans h1.1, h2.2.1.trans h1.2.1, h2.2.2.1.trans h1.2.2.1,
      h2.2.2.2.1.trans h1.2.2.2.1, fun hr => h2.2.2.2.2 (h1.2.2.2.2 hr)⟩) h'.sessions

/-! ## What a request finds -/

variable {db db' seen : DeviceDb}

/-- An owner, if there is one, is active. -/
def OwnerActive (db : DeviceDb) (installation : DeviceInstallation) : Prop :=
  ∀ u ∈ installation.ownerUserId, ∃ user ∈ db.users, user.id = u ∧ user.status = .active

theorem run_lockOwner {installation : DeviceInstallation} {rejected : DeviceError}
    {next : DeviceTxn} {x : DeviceAnswer × DeviceDb}
    (h : (lockOwner installation rejected next).run db = .ok x) :
    OwnerActive db installation ∧ next.run db = .ok x := by
  unfold lockOwner at h
  split at h
  · rename_i hnone
    refine ⟨fun u hu => ?_, h⟩
    rw [hnone] at hu
    cases hu
  · rename_i u hsome
    obtain ⟨user, huser, h⟩ := Txn.run_lock.1 h
    obtain ⟨hmem, hid⟩ := DeviceDb.user?_eq_some.1 huser
    split at h
    · simp at h
    · rename_i hactive
      refine ⟨fun v hv => ?_, h⟩
      rw [hsome] at hv
      cases hv
      exact ⟨user, hmem, hid, not_not.1 hactive⟩

/-- A credential that was accepted, with its installation. -/
structure Accepted (db : DeviceDb) (installation : DeviceInstallation)
    (credential : DeviceCredential) : Prop where
  installation_mem : installation ∈ db.installations
  active : installation.status = .active
  owner : OwnerActive db installation
  credential_mem : credential ∈ db.credentials
  current : credential.status = .active
  bound : installation.id = credential.installationId

theorem installation_bound (hl : Later seen db) {bound credential : DeviceCredential}
    (hb : bound ∈ seen.credentials) (hc : credential ∈ db.credentials)
    (hid : bound.id = credential.id) : bound.installationId = credential.installationId := by
  obtain ⟨c', hc', hid', hi', -⟩ := hl.credentials bound hb
  have heq : c' = credential := Relation.eq_of_not_apart hc' hc fun h => h.1 (hid'.trans hid)
  rw [← heq, hi']

theorem run_lockAuthenticated {presented : ParsedDeviceCredential}
    {next : DeviceCredential → DeviceTxn} {x : DeviceAnswer × DeviceDb} (hl : Later seen db)
    (h : (lockAuthenticatedDeviceCredential presented seen next).run db = .ok x) :
    ∃ installation credential, Accepted db installation credential ∧
      credential.id = presented.credentialId ∧ (next credential).run db = .ok x := by
  unfold lockAuthenticatedDeviceCredential at h
  cases hbound : seen.credential? presented.credentialId with
  | none =>
    simp only [hbound] at h
    simp at h
  | some bound =>
  simp only [hbound] at h
  obtain ⟨hseen, hpresented⟩ := DeviceDb.credential?_eq_some.1 hbound
  obtain ⟨installation, hi, h⟩ := Txn.run_lock.1 h
  obtain ⟨himem, hiid⟩ := DeviceDb.installation?_eq_some.1 hi
  split at h
  · simp at h
  rename_i hactive
  obtain ⟨howner, h⟩ := run_lockOwner h
  obtain ⟨credential, hc, h⟩ := Txn.run_lock.1 h
  obtain ⟨hcmem, hcid⟩ := DeviceDb.credential?_eq_some.1 hc
  split at h
  · simp at h
  rename_i haccepted
  have hcurrent : credential.status = .active := by
    apply Decidable.byContradiction
    exact fun hne => haccepted (.inl hne)
  refine ⟨installation, credential, ⟨himem, not_not.1 hactive, howner, hcmem, hcurrent, ?_⟩,
    hcid, h⟩
  rw [hiid]
  exact installation_bound hl hseen hcmem (hpresented.trans hcid.symm)

/-! ## The invariant -/

/-- The versions of an installation's credentials are `1, …, n`, and an active one is the
last. -/
structure Numbered (credentials : Relation DeviceCredential) (i : InstallationId) (n : Nat) :
    Prop where
  pos : 1 ≤ n
  versions : ∀ v, (∃ c ∈ credentials, c.installationId = i ∧ c.version = v) ↔ 1 ≤ v ∧ v ≤ n
  last : ∀ c ∈ credentials, c.installationId = i → c.status = .active → c.version = n

structure DeviceInv (db : DeviceDb) : Prop where
  owned : ∀ c ∈ db.credentials, ∃ i ∈ db.installations, i.id = c.installationId
  numbered : ∀ i ∈ db.installations, ∃ n, Numbered db.credentials i.id n
  standing : ∀ i ∈ db.installations, ∀ c ∈ db.credentials, c.installationId = i.id →
    c.status = .active → i.status = .active
  unreplaced : ∀ c ∈ db.credentials, c.status = .active → c.replacedById = none
  bound : ∀ s ∈ db.sessions, ∃ c ∈ db.credentials, c.id = s.deviceCredentialId ∧
    c.installationId = s.installationId ∧ c.version = s.credentialVersion

theorem deviceInv_empty : DeviceInv DeviceDb.empty where
  owned _ h := absurd h (Relation.not_mem_empty _)
  numbered _ h := absurd h (Relation.not_mem_empty _)
  standing _ h := absurd h (Relation.not_mem_empty _)
  unreplaced _ h := absurd h (Relation.not_mem_empty _)
  bound _ h := absurd h (Relation.not_mem_empty _)

/-! ### Credentials that are withdrawn -/

/-- An update that takes credentials out of use. -/
structure Withdraws (f : DeviceCredential → DeviceCredential) : Prop where
  id : ∀ r, (f r).id = r.id
  installation : ∀ r, (f r).installationId = r.installationId
  version : ∀ r, (f r).version = r.version
  status : ∀ r, (f r).status ≠ .active

section Withdrawn

variable {p : DeviceCredential → Bool} {f : DeviceCredential → DeviceCredential}
  {credentials credentials' : Relation DeviceCredential}

/-- Whatever is there afterwards was there before; what is active has not changed. -/
theorem Withdraws.before (hf : Withdraws f) (hu : credentials.update? p f = some credentials')
    {c : DeviceCredential} (hc : c ∈ credentials') :
    ∃ r ∈ credentials, r.id = c.id ∧ r.installationId = c.installationId ∧
      r.version = c.version ∧ (c.status = .active → c = r ∧ p r = false) := by
  obtain ⟨r, hr, rfl⟩ := (Relation.mem_update? hu).1 hc
  cases hp : p r with
  | true =>
    simp only [if_true]
    exact ⟨r, hr, (hf.id r).symm, (hf.installation r).symm, (hf.version r).symm,
      fun h => absurd h (hf.status r)⟩
  | false =>
    simp only [Bool.false_eq_true, if_false]
    exact ⟨r, hr, rfl, rfl, rfl, fun _ => ⟨rfl, hp⟩⟩

theorem Withdraws.kept (hf : Withdraws f) (hu : credentials.update? p f = some credentials') :
    Kept SameCredential credentials credentials' :=
  .update? SameCredential.refl hu fun r _ _ =>
    ⟨hf.id r, hf.installation r, hf.version r, fun _ => hf.status r⟩

theorem Withdraws.numbered (hf : Withdraws f) (hu : credentials.update? p f = some credentials')
    {i : InstallationId} {n : Nat} (h : Numbered credentials i n) : Numbered credentials' i n where
  pos := h.pos
  versions v := by
    rw [← h.versions v]
    constructor
    · rintro ⟨c, hc, hi, hv⟩
      obtain ⟨r, hr, -, hri, hrv, -⟩ := hf.before hu hc
      exact ⟨r, hr, hri.trans hi, hrv.trans hv⟩
    · rintro ⟨r, hr, hi, hv⟩
      obtain ⟨c, hc, -, hci, hcv, -⟩ := hf.kept hu r hr
      exact ⟨c, hc, hci.trans hi, hcv.trans hv⟩
  last c hc hi hactive := by
    obtain ⟨r, hr, -, -, -, hsame⟩ := hf.before hu hc
    obtain ⟨rfl, -⟩ := hsame hactive
    exact h.last c hr hi hactive

theorem DeviceInv.withdraw (h : DeviceInv db) (hf : Withdraws f)
    (hu : db.credentials.update? p f = some credentials') :
    DeviceInv { db with credentials := credentials' } where
  owned c hc := by
    obtain ⟨r, hr, -, hri, -⟩ := hf.before hu hc
    rw [← hri]
    exact h.owned r hr
  numbered i hi := by
    obtain ⟨n, hn⟩ := h.numbered i hi
    exact ⟨n, hf.numbered hu hn⟩
  standing i hi c hc hci hactive := by
    obtain ⟨r, hr, -, -, -, hsame⟩ := hf.before hu hc
    obtain ⟨rfl, -⟩ := hsame hactive
    exact h.standing i hi c hr hci hactive
  unreplaced c hc hactive := by
    obtain ⟨r, hr, -, -, -, hsame⟩ := hf.before hu hc
    obtain ⟨rfl, -⟩ := hsame hactive
    exact h.unreplaced c hr hactive
  bound s hs := by
    obtain ⟨r, hr, h1, h2, h3⟩ := h.bound s hs
    obtain ⟨c, hc, h4, h5, h6, -⟩ := hf.kept hu r hr
    exact ⟨c, hc, h4.trans h1, h5.trans h2, h6.trans h3⟩

end Withdrawn

/-! ### The other writes -/

/-- Sessions may change as long as they stay bound. -/
theorem DeviceInv.withSessions (h : DeviceInv db) {sessions : Relation DeviceSession}
    (hs : ∀ s ∈ sessions, ∃ c ∈ db.credentials, c.id = s.deviceCredentialId ∧
      c.installationId = s.installationId ∧ c.version = s.credentialVersion) :
    DeviceInv { db with sessions } :=
  ⟨h.owned, h.numbered, h.standing, h.unreplaced, hs⟩

theorem DeviceInv.revokeSessions (h : DeviceInv db) {which : DeviceSession → Bool} {t : Time}
    {sessions : Relation DeviceSession} (hs : revokeSessions which t db = some sessions) :
    DeviceInv { db with sessions } := by
  refine h.withSessions fun s hmem => ?_
  obtain ⟨r, hr, rfl⟩ := (Relation.mem_update? hs).1 hmem
  obtain ⟨c, hc, h1, h2, h3⟩ := h.bound r hr
  refine ⟨c, hc, ?_⟩
  split
  · exact ⟨h1, h2, h3⟩
  · exact ⟨h1, h2, h3⟩

theorem kept_revokeSessions {which : DeviceSession → Bool} {t : Time}
    {sessions : Relation DeviceSession} (hs : revokeSessions which t db = some sessions) :
    Kept SameSession db.sessions sessions :=
  .update? SameSession.refl hs fun _ _ _ => ⟨rfl, rfl, rfl, rfl, fun _ h => nomatch h⟩

/-- The next credential of an installation none of whose credentials is active. -/
theorem DeviceInv.insertCredential (h : DeviceInv db) {new : DeviceCredential}
    {credentials : Relation DeviceCredential} {i : DeviceInstallation}
    (hins : db.credentials.insert? new = some credentials) (hi : i ∈ db.installations)
    (hid : i.id = new.installationId) (hstanding : i.status = .active)
    (hreplaced : new.replacedById = none)
    (hprev : ∃ c ∈ db.credentials, c.installationId = i.id ∧ c.version + 1 = new.version)
    (hlast : ∀ c ∈ db.credentials, c.installationId = i.id → c.version < new.version)
    (hnone : ∀ c ∈ db.credentials, c.installationId = i.id → c.status ≠ .active) :
    DeviceInv { db with credentials } where
  owned c hc := by
    rcases (Relation.mem_insert? hins).1 hc with hc | rfl
    · exact h.owned c hc
    · exact ⟨i, hi, hid⟩
  numbered j hj := by
    obtain ⟨n, hn⟩ := h.numbered j hj
    by_cases hij : j.id = i.id
    · rw [hij] at hn ⊢
      -- the last version is the one before the new one
      have hnew : new.version = n + 1 := by
        obtain ⟨c, hc, hci, hcv⟩ := hprev
        have := (hn.versions c.version).1 ⟨c, hc, hci, rfl⟩
        obtain ⟨d, hd, hdi, hdv⟩ := (hn.versions n).2 ⟨hn.pos, Nat.le_refl n⟩
        have := hlast d hd hdi
        omega
      refine ⟨n + 1, by omega, fun v => ?_, fun c hc hci hactive => ?_⟩
      · constructor
        · rintro ⟨c, hc, hci, hcv⟩
          rcases (Relation.mem_insert? hins).1 hc with hc | rfl
          · have := (hn.versions v).1 ⟨c, hc, hci, hcv⟩
            omega
          · omega
        · intro hv
          by_cases hlt : v ≤ n
          · obtain ⟨c, hc, hci, hcv⟩ := (hn.versions v).2 ⟨hv.1, hlt⟩
            exact ⟨c, (Relation.mem_insert? hins).2 (.inl hc), hci, hcv⟩
          · exact ⟨new, (Relation.mem_insert? hins).2 (.inr rfl), hid.symm, by omega⟩
      · rcases (Relation.mem_insert? hins).1 hc with hc | rfl
        · exact absurd hactive (hnone c hc hci)
        · exact hnew
    · refine ⟨n, hn.pos, fun v => ?_, fun c hc hci hactive => ?_⟩
      · rw [← hn.versions v]
        constructor
        · rintro ⟨c, hc, hci, hcv⟩
          rcases (Relation.mem_insert? hins).1 hc with hc | rfl
          · exact ⟨c, hc, hci, hcv⟩
          · exact absurd (hci.symm.trans hid.symm) hij
        · rintro ⟨c, hc, hci, hcv⟩
          exact ⟨c, (Relation.mem_insert? hins).2 (.inl hc), hci, hcv⟩
      · rcases (Relation.mem_insert? hins).1 hc with hc | rfl
        · exact hn.last c hc hci hactive
        · exact absurd (hci.symm.trans hid.symm) hij
  standing j hj c hc hcj hactive := by
    rcases (Relation.mem_insert? hins).1 hc with hc | rfl
    · exact h.standing j hj c hc hcj hactive
    · have heq : j = i := Relation.eq_of_not_apart hj hi fun ha => ha.1 (hcj.symm.trans hid.symm)
      rw [heq]
      exact hstanding
  unreplaced c hc hactive := by
    rcases (Relation.mem_insert? hins).1 hc with hc | rfl
    · exact h.unreplaced c hc hactive
    · exact hreplaced
  bound s hs := by
    obtain ⟨c, hc, hrest⟩ := h.bound s hs
    exact ⟨c, (Relation.mem_insert? hins).2 (.inl hc), hrest⟩

/-- A new installation with its first credential. -/
theorem DeviceInv.register (h : DeviceInv db) {c : ChallengeCompletion}
    {challenge : RegistrationChallenge} (hr : register c challenge db = some db') :
    DeviceInv db' := by
  simp only [Devices.register, Option.bind_eq_bind, Option.bind_eq_some_iff, Option.pure_def,
    Option.some.injEq] at hr
  obtain ⟨installations, hi, credentials, hc, challenges, -, rfl⟩ := hr
  have hmemi := fun r => Relation.mem_insert? (r := r) hi
  have hmemc := fun r => Relation.mem_insert? (r := r) hc
  -- no credential names an installation that did not exist
  have hfresh : ∀ r ∈ db.credentials, r.installationId ≠ c.installationId := by
    intro r hr hid
    obtain ⟨j, hj, hjid⟩ := h.owned r hr
    exact (Relation.insert?_fresh hi j hj).1 (hjid.trans hid)
  refine ⟨fun r hr => ?_, fun j hj => ?_, fun j hj r hr hrj hactive => ?_, fun r hr hactive => ?_,
    fun s hs => ?_⟩
  · rcases (hmemc r).1 hr with hr | rfl
    · obtain ⟨j, hj, hjid⟩ := h.owned r hr
      exact ⟨j, (hmemi j).2 (.inl hj), hjid⟩
    · exact ⟨_, (hmemi _).2 (.inr rfl), rfl⟩
  · rcases (hmemi j).1 hj with hj | rfl
    · obtain ⟨n, hn⟩ := h.numbered j hj
      have hne : c.installationId ≠ j.id := fun he =>
        (Relation.insert?_fresh hi j hj).1 he.symm
      refine ⟨n, hn.pos, fun v => ?_, fun r hr hrj hactive => ?_⟩
      · rw [← hn.versions v]
        constructor
        · rintro ⟨r, hr, hrj, hrv⟩
          rcases (hmemc r).1 hr with hr | rfl
          · exact ⟨r, hr, hrj, hrv⟩
          · exact absurd hrj hne
        · rintro ⟨r, hr, hrj, hrv⟩
          exact ⟨r, (hmemc r).2 (.inl hr), hrj, hrv⟩
      · rcases (hmemc r).1 hr with hr | rfl
        · exact hn.last r hr hrj hactive
        · exact absurd hrj hne
    · refine ⟨1, Nat.le_refl 1, fun v => ?_, fun r hr hrj _ => ?_⟩
      · constructor
        · rintro ⟨r, hr, hrj, hrv⟩
          rcases (hmemc r).1 hr with hr | rfl
          · exact absurd hrj (hfresh r hr)
          · change 1 = v at hrv
            omega
        · intro hv
          exact ⟨_, (hmemc _).2 (.inr rfl), rfl, show 1 = v by omega⟩
      · rcases (hmemc r).1 hr with hr | rfl
        · exact absurd hrj (hfresh r hr)
        · rfl
  · rcases (hmemc r).1 hr with hr | rfl <;> rcases (hmemi j).1 hj with hj | rfl
    · exact h.standing j hj r hr hrj hactive
    · exact absurd hrj (hfresh r hr)
    · exact absurd hrj.symm (Relation.insert?_fresh hi j hj).1
    · rfl
  · rcases (hmemc r).1 hr with hr | rfl
    · exact h.unreplaced r hr hactive
    · rfl
  · obtain ⟨r, hr, hrest⟩ := h.bound s hs
    exact ⟨r, (hmemc r).2 (.inl hr), hrest⟩

/-- Installations may change, as long as those with an active credential stay active. -/
theorem DeviceInv.withInstallations (h : DeviceInv db) {f : DeviceInstallation → DeviceInstallation}
    {installations : Relation DeviceInstallation}
    (hmem : ∀ r, r ∈ installations ↔ ∃ r₀ ∈ db.installations, f r₀ = r)
    (hid : ∀ r, (f r).id = r.id)
    (hactive : ∀ r ∈ db.installations, ∀ c ∈ db.credentials, c.installationId = r.id →
      c.status = .active → (f r).status = .active) : DeviceInv { db with installations } where
  owned c hc := by
    obtain ⟨i, hi, hic⟩ := h.owned c hc
    exact ⟨f i, (hmem _).2 ⟨i, hi, rfl⟩, (hid i).trans hic⟩
  numbered i hi := by
    obtain ⟨r, hr, rfl⟩ := (hmem i).1 hi
    rw [hid]
    exact h.numbered r hr
  standing i hi c hc hci hstatus := by
    obtain ⟨r, hr, rfl⟩ := (hmem i).1 hi
    exact hactive r hr c hc (hci.trans (hid r)) hstatus
  unreplaced := h.unreplaced
  bound := h.bound

/-! ## One request -/

/-- Nobody but the row a key names is updated. -/
theorem Accepted.only {installation : DeviceInstallation} {credential c : DeviceCredential}
    (ha : Accepted db installation credential) (hc : c ∈ db.credentials)
    (hactive : c.status = .active) (hi : c.installationId = credential.installationId) :
    c = credential :=
  Relation.eq_of_not_apart hc ha.credential_mem fun h => h.2.2.2 ⟨hi, hactive, ha.current⟩

theorem withdraws_rotated (t : Time) (new : CredentialId) : Withdraws fun r =>
    { r with status := .rotated, updatedAt := t, revokedAt := some t, replacedById := some new } :=
  ⟨fun _ => rfl, fun _ => rfl, fun _ => rfl, fun _ h => nomatch h⟩

theorem withdraws_revoked (t : Time) : Withdraws fun r =>
    { r with status := .revoked, updatedAt := t, revokedAt := some t } :=
  ⟨fun _ => rfl, fun _ => rfl, fun _ => rfl, fun _ h => nomatch h⟩

theorem register_later {c : ChallengeCompletion} {challenge : RegistrationChallenge}
    (hmem : challenge ∈ db.challenges) (hid : challenge.id = c.challengeId)
    (hfresh : challenge.consumedAt = none) (hr : register c challenge db = some db') :
    Later db db' := by
  simp only [register, Option.bind_eq_bind, Option.bind_eq_some_iff, Option.pure_def,
    Option.some.injEq] at hr
  obtain ⟨installations, hi, credentials, hc, challenges, hx, rfl⟩ := hr
  refine ⟨.insert? SameInstallation.refl hi, .update? SameChallenge.refl hx fun r hr hp => ?_,
    .insert? SameCredential.refl hc, .refl SameSession.refl _⟩
  have heq : r = challenge :=
    Relation.eq_of_not_apart hr hmem fun h => h ((of_decide_eq_true hp).trans hid.symm)
  subst heq
  exact ⟨rfl, fun hne => absurd hfresh hne⟩

theorem replaceCredential_keeps {installation : DeviceInstallation} {current : DeviceCredential}
    {replacement : PendingDeviceCredential} {t : Time} (h : DeviceInv db)
    (ha : Accepted db installation current)
    (hr : replaceCredential current replacement t db = some db') :
    DeviceInv db' ∧ Later db db' := by
  simp only [replaceCredential, Option.bind_eq_bind, Option.bind_eq_some_iff, Option.pure_def,
    Option.some.injEq] at hr
  obtain ⟨withdrawn, hw, sessions, hs, credentials, hc, rfl⟩ := hr
  have hf := withdraws_rotated t replacement.credentialId
  obtain ⟨n, hn⟩ := h.numbered installation ha.installation_mem
  have hlast := hn.last current ha.credential_mem ha.bound.symm ha.current
  have h1 := h.withdraw hf hw
  have h2 := h1.insertCredential hc ha.installation_mem ha.bound ha.active rfl
    (by
      obtain ⟨c, hc', -, hci, hcv, -⟩ := hf.kept hw current ha.credential_mem
      exact ⟨c, hc', hci.trans ha.bound.symm, congrArg (· + 1) hcv⟩)
    (by
      intro c hc' hci
      obtain ⟨r, hr, -, hri, hrv, -⟩ := hf.before hw hc'
      have := (hn.versions r.version).1 ⟨r, hr, hri.trans hci, rfl⟩
      show c.version < current.version + 1
      omega)
    (by
      intro c hc' hci hactive
      obtain ⟨r, hr, -, -, -, hsame⟩ := hf.before hw hc'
      obtain ⟨rfl, hp⟩ := hsame hactive
      have heq := ha.only hr hactive (hci.trans ha.bound)
      rw [heq] at hp
      simp at hp)
  refine ⟨h2.revokeSessions hs, .refl SameInstallation.refl _, .refl SameChallenge.refl _, ?_,
    kept_revokeSessions hs⟩
  exact (hf.kept hw).trans
    (fun _ _ _ h1 h2 => ⟨h2.1.trans h1.1, h2.2.1.trans h1.2.1, h2.2.2.1.trans h1.2.2.1,
      fun hr => h2.2.2.2 (h1.2.2.2 hr)⟩) (.insert? SameCredential.refl hc)

theorem withdrawCredential_keeps {current : DeviceCredential} {t : Time} (h : DeviceInv db)
    (hr : withdrawCredential current t db = some db') : DeviceInv db' ∧ Later db db' := by
  simp only [withdrawCredential, Option.bind_eq_bind, Option.bind_eq_some_iff, Option.pure_def,
    Option.some.injEq] at hr
  obtain ⟨credentials, hw, sessions, hs, rfl⟩ := hr
  have h1 := h.withdraw (withdraws_revoked t) hw
  exact ⟨h1.revokeSessions hs, .refl SameInstallation.refl _, .refl SameChallenge.refl _,
    (withdraws_revoked t).kept hw, kept_revokeSessions hs⟩

theorem withdrawInstallation_keeps {i : InstallationId} {n : Nat} {t : Time} (h : DeviceInv db)
    (hr : withdrawInstallation i n t db = some db') : DeviceInv db' ∧ Later db db' := by
  simp only [withdrawInstallation, Option.bind_eq_bind, Option.bind_eq_some_iff, Option.pure_def,
    Option.some.injEq] at hr
  obtain ⟨installations, hi, credentials, hw, sessions, hs, rfl⟩ := hr
  have hf := withdraws_revoked t
  have h1 := (h.withdraw hf hw).revokeSessions hs
  have h2 := h1.withInstallations (f := fun r => if r.id = i && r.revision = n && r.status = .active
      then { r with status := .revoked, revision := n + 1, updatedAt := t, revokedAt := some t }
      else r) (fun r => Relation.mem_update? hi) (fun r => by split <;> rfl)
    (by
      intro r hr c hc hci hactive
      obtain ⟨c₀, hc₀, -, -, -, hsame⟩ := hf.before hw hc
      obtain ⟨rfl, hp⟩ := hsame hactive
      split
      · -- the credentials of this installation were withdrawn
        rename_i hwhich
        simp only [Bool.and_eq_true, decide_eq_true_eq] at hwhich
        simp [hactive, hci, hwhich.1.1] at hp
      · exact h.standing r hr c hc₀ hci hactive)
  refine ⟨h2, ?_, .refl SameChallenge.refl _, hf.kept hw, kept_revokeSessions hs⟩
  exact .update? SameInstallation.refl hi fun _ _ _ => ⟨rfl, rfl, fun _ => rfl⟩

theorem openSession_keeps {s : SessionIssue} {credential : DeviceCredential} (h : DeviceInv db)
    (hc : credential ∈ db.credentials) (hr : openSession s credential db = some db') :
    DeviceInv db' ∧ Later db db' := by
  simp only [openSession, Option.bind_eq_bind, Option.bind_eq_some_iff, Option.pure_def,
    Option.some.injEq] at hr
  obtain ⟨sessions, hs, rfl⟩ := hr
  refine ⟨h.withSessions fun x hx => ?_, .refl SameInstallation.refl _,
    .refl SameChallenge.refl _, .refl SameCredential.refl _, .insert? SameSession.refl hs⟩
  rcases (Relation.mem_insert? hs).1 hx with hx | rfl
  · exact h.bound x hx
  · exact ⟨credential, hc, rfl, rfl, rfl⟩

/-- A challenge is completed if it was there and nobody had completed it. -/
theorem run_completeChallenge {P : Primitives} {c : ChallengeCompletion} {r : DeviceAnswer}
    (h : (completeChallenge P c).run db = .ok (r, db')) :
    ∃ challenge ∈ db.challenges, challenge.id = c.challengeId ∧ challenge.consumedAt = none ∧
      register c challenge db = some db' := by
  unfold completeChallenge at h
  obtain ⟨challenge, hc, h⟩ := Txn.run_lock.1 h
  obtain ⟨hmem, hid⟩ := DeviceDb.challenge?_eq_some.1 hc
  split at h
  · simp at h
  split at h
  · simp at h
  rename_i hfresh
  split at h
  · simp at h
  split at h
  · simp at h
  exact ⟨challenge, hmem, hid, not_not.1 hfresh, (Txn.run_commit.1 h).2⟩

/-- What holds of the database in which a session is accepted. -/
structure SessionHolds (requireOwner : Bool) (db : DeviceDb) (a : SessionAuthentication)
    (session : DeviceSession) (credential : DeviceCredential) (installation : DeviceInstallation) :
    Prop where
  session_mem : session ∈ db.sessions
  session_id : session.id = a.sessionId
  credential_mem : credential ∈ db.credentials
  accepted : sessionAccepted a credential session
  unreplaced : credential.replacedById = none
  installation_mem : installation ∈ db.installations
  installation_id : installation.id = session.installationId
  active : installation.status = .active
  owner : OwnerActive db installation
  owned : requireOwner = true → installation.ownerUserId ≠ none

theorem authenticated_run {requireOwner : Bool} {a : SessionAuthentication} {r : DeviceAnswer}
    (hi : DeviceInv db) (hl : Later seen db)
    (h : (authenticate requireOwner a seen).run db = .ok (r, db')) :
    db' = db ∧ ∃ session credential installation,
      SessionHolds requireOwner db a session credential installation ∧
      r = .authenticated ⟨session.id, session.installationId, session.deviceCredentialId,
        session.credentialVersion, a.requiredCapability, session.expiresAt⟩ := by
  unfold authenticate at h
  cases hbinding : seen.session? a.sessionId with
  | none =>
    simp only [hbinding] at h
    simp at h
  | some binding =>
  simp only [hbinding] at h
  obtain ⟨hseen, hsid⟩ := DeviceDb.session?_eq_some.1 hbinding
  obtain ⟨installation, hinst, h⟩ := Txn.run_lock.1 h
  obtain ⟨himem, hiid⟩ := DeviceDb.installation?_eq_some.1 hinst
  split at h
  · simp at h
  rename_i hactive
  split at h
  · simp at h
  rename_i howned
  obtain ⟨howner, h⟩ := run_lockOwner h
  obtain ⟨credential, hc, h⟩ := Txn.run_lock.1 h
  obtain ⟨hcmem, hcid⟩ := DeviceDb.credential?_eq_some.1 hc
  obtain ⟨stored, hs, h⟩ := Txn.run_lock.1 h
  obtain ⟨hsmem, hstored⟩ := DeviceDb.session?_eq_some.1 hs
  split at h
  swap
  · simp at h
  rename_i haccepted
  obtain ⟨rfl, hdb⟩ := Txn.run_commit.1 h
  -- the session is still bound to the installation that was locked
  obtain ⟨later, hlmem, hlid, hlinst, -⟩ := hl.sessions binding hseen
  have heq : later = stored :=
    Relation.eq_of_not_apart hlmem hsmem fun hap => hap.1 (hlid.trans (hsid.trans hstored.symm))
  refine ⟨(Option.some.inj hdb).symm, stored, credential, installation,
    ⟨hsmem, hstored, hcmem, haccepted, ?_, himem, ?_, not_not.1 hactive, howner, ?_⟩, rfl⟩
  · exact hi.unreplaced credential hcmem haccepted.2.2.2.1
  · rw [hiid, ← hlinst, heq]
  · exact fun hreq hnone => howned ⟨hreq, hnone⟩

/-- Every request alone keeps the invariant, and takes nothing back. -/
theorem keeps_program (P : Primitives) (requireOwner : Bool) :
    Keeps (program P requireOwner) Accounts DeviceInv Later where
  refl := Later.refl
  trans := Later.trans
  run {q seen s r s'} h hl hrun := by
    cases q with
    | saveChallenge c =>
      obtain ⟨-, hw⟩ := Txn.run_commit.1 hrun
      simp only [Option.bind_eq_bind, Option.bind_eq_some_iff, Option.pure_def,
        Option.some.injEq] at hw
      obtain ⟨challenges, hc, rfl⟩ := hw
      exact ⟨⟨h.owned, h.numbered, h.standing, h.unreplaced, h.bound⟩,
        .refl SameInstallation.refl _, .insert? SameChallenge.refl hc,
        .refl SameCredential.refl _, .refl SameSession.refl _⟩
    | completeChallenge c =>
      obtain ⟨challenge, hmem, hid, hfresh, hw⟩ := run_completeChallenge hrun
      exact ⟨h.register hw, register_later hmem hid hfresh hw⟩
    | rotate presented replacement t =>
      obtain ⟨installation, current, ha, -, hrun⟩ := run_lockAuthenticated hl hrun
      exact replaceCredential_keeps h ha (Txn.run_commit.1 hrun).2
    | revokeCredential presented t =>
      obtain ⟨installation, current, -, -, hrun⟩ := run_lockAuthenticated hl hrun
      exact withdrawCredential_keeps h (Txn.run_commit.1 hrun).2
    | revokeInstallation i n t =>
      obtain ⟨installation, -, hrun⟩ := Txn.run_lock.1 hrun
      split at hrun
      · simp at hrun
      · exact withdrawInstallation_keeps h (Txn.run_commit.1 hrun).2
    | issue s =>
      obtain ⟨installation, credential, ha, -, hrun⟩ := run_lockAuthenticated hl hrun
      exact openSession_keeps h ha.credential_mem (Txn.run_commit.1 hrun).2
    | authenticate a =>
      obtain ⟨rfl, -⟩ := authenticated_run h hl hrun
      exact ⟨h, .refl _⟩
  outside {s s'} h ho := by
    obtain ⟨hx, hc, hs, f, hf, hrows⟩ := ho
    have hmem : ∀ r, r ∈ s'.installations ↔ ∃ r₀ ∈ s.installations, f r₀ = r := by
      intro r
      rw [Relation.mem_def, hrows]
      exact List.mem_map
    have h1 := h.withInstallations hmem (fun r => (hf r).1) fun r hr c hc hci hactive =>
      (hf r).2.2.trans (h.standing r hr c hc hci hactive)
    obtain ⟨users, installations, challenges, credentials, sessions⟩ := s'
    cases hx
    cases hc
    cases hs
    refine ⟨⟨h1.owned, h1.numbered, h1.standing, h1.unreplaced, h1.bound⟩, ?_,
      .refl SameChallenge.refl _, .refl SameCredential.refl _, .refl SameSession.refl _⟩
    intro r hr
    exact ⟨f r, (hmem _).2 ⟨r, hr, rfl⟩, (hf r).1, (hf r).2.1, fun hrev => (hf r).2.2.trans hrev⟩

/-! ## Any number of requests -/

/-- The session's credential was rotated or revoked, or its installation revoked. -/
def Dead (db : DeviceDb) (sid : SessionId) : Prop :=
  ∃ x ∈ db.sessions, x.id = sid ∧
    ((∃ c ∈ db.credentials, c.id = x.deviceCredentialId ∧ c.status ≠ .active) ∨
      ∃ i ∈ db.installations, i.id = x.installationId ∧ i.status = .revoked)

theorem Dead.later {sid : SessionId} (h : Dead db sid) (hl : Later db db') : Dead db' sid := by
  obtain ⟨x, hx, hid, hdead⟩ := h
  obtain ⟨x', hx', hid', hi', hc', -⟩ := hl.sessions x hx
  refine ⟨x', hx', hid'.trans hid, ?_⟩
  rw [hi', hc']
  rcases hdead with ⟨c, hc, hcid, hstatus⟩ | ⟨i, hi, hiid, hstatus⟩
  · obtain ⟨c', hc', h1, -, -, h2⟩ := hl.credentials c hc
    exact .inl ⟨c', hc', h1.trans hcid, h2 hstatus⟩
  · obtain ⟨i', hi', h1, -, h2⟩ := hl.installations i hi
    exact .inr ⟨i', hi', h1.trans hiid, h2 hstatus⟩

theorem SessionHolds.not_dead {requireOwner : Bool} {a : SessionAuthentication}
    {session : DeviceSession} {credential : DeviceCredential} {installation : DeviceInstallation}
    (h : SessionHolds requireOwner db a session credential installation) :
    ¬Dead db a.sessionId := by
  rintro ⟨x, hx, hid, hdead⟩
  have heq : x = session :=
    Relation.eq_of_not_apart hx h.session_mem fun hap => hap.1 (hid.trans h.session_id.symm)
  subst heq
  rcases hdead with ⟨c, hc, hcid, hstatus⟩ | ⟨i, hi, hiid, hstatus⟩
  · have hsame : c = credential := Relation.eq_of_not_apart hc h.credential_mem fun hap =>
      hap.1 (hcid.trans h.accepted.2.1.symm)
    rw [hsame] at hstatus
    exact hstatus h.accepted.2.2.2.1
  · have hsame : i = installation := Relation.eq_of_not_apart hi h.installation_mem fun hap =>
      hap.1 (hiid.trans h.installation_id.symm)
    rw [hsame, h.active] at hstatus
    cases hstatus

/-- A request that ends a session when it is granted. -/
def DeviceRequest.ends : DeviceRequest → DeviceSession → Bool
  | .rotate presented _ _, x | .revokeCredential presented _, x =>
    x.deviceCredentialId = presented.credentialId
  | .revokeInstallation i _ _, x => x.installationId = i
  | _, _ => false

/-- After an update that hits a row, the row is there as updated. -/
theorem updated_mem {ρ : Type} [Schema ρ] {t t' : Relation ρ} {p : ρ → Bool} {f : ρ → ρ} {r : ρ}
    (h : t.update? p f = some t') (hr : r ∈ t) (hp : p r = true) : f r ∈ t' :=
  (Relation.mem_update? h).2 ⟨r, hr, if_pos hp⟩

theorem ends_dead {P : Primitives} {requireOwner : Bool} {q : DeviceRequest} {r : DeviceAnswer}
    {x : DeviceSession} (h : DeviceInv db) (hl : Later seen db)
    (hrun : (program P requireOwner q seen).run db = .ok (r, db')) (hx : x ∈ db.sessions)
    (hends : q.ends x = true) : Dead db' x.id := by
  obtain ⟨x', hx', hid, hinst, hcred, -⟩ :=
    ((keeps_program P requireOwner).run h hl hrun).2.sessions x hx
  refine ⟨x', hx', hid, ?_⟩
  rw [hinst, hcred]
  cases q with
  | saveChallenge | completeChallenge | issue | authenticate => cases hends
  | rotate presented replacement t =>
    obtain ⟨installation, current, ha, hcid, hrun⟩ := run_lockAuthenticated hl hrun
    have hw := (Txn.run_commit.1 hrun).2
    simp only [replaceCredential, Option.bind_eq_bind, Option.bind_eq_some_iff, Option.pure_def,
      Option.some.injEq] at hw
    obtain ⟨withdrawn, hu, sessions, -, credentials, hc, rfl⟩ := hw
    refine .inl ⟨_, (Relation.mem_insert? hc).2
      (.inl (updated_mem hu ha.credential_mem (by simp))), ?_, fun hs => nomatch hs⟩
    exact hcid.trans (of_decide_eq_true hends).symm
  | revokeCredential presented t =>
    obtain ⟨installation, current, ha, hcid, hrun⟩ := run_lockAuthenticated hl hrun
    have hw := (Txn.run_commit.1 hrun).2
    simp only [withdrawCredential, Option.bind_eq_bind, Option.bind_eq_some_iff, Option.pure_def,
      Option.some.injEq] at hw
    obtain ⟨credentials, hu, sessions, -, rfl⟩ := hw
    refine .inl ⟨_, updated_mem hu ha.credential_mem (by simp), ?_, fun hs => nomatch hs⟩
    exact hcid.trans (of_decide_eq_true hends).symm
  | revokeInstallation i n t =>
    obtain ⟨installation, hi, hrun⟩ := Txn.run_lock.1 hrun
    obtain ⟨himem, hiid⟩ := DeviceDb.installation?_eq_some.1 hi
    split at hrun
    · simp at hrun
    rename_i hok
    obtain ⟨hactive, hrev⟩ := not_or.1 hok
    have hw := (Txn.run_commit.1 hrun).2
    simp only [withdrawInstallation, Option.bind_eq_bind, Option.bind_eq_some_iff, Option.pure_def,
      Option.some.injEq] at hw
    obtain ⟨installations, hu, credentials, -, sessions, -, rfl⟩ := hw
    refine .inr ⟨_, updated_mem hu himem ?_, ?_, rfl⟩
    · simp [hiid, not_not.1 hactive, not_not.1 hrev]
    · exact hiid.trans (of_decide_eq_true hends).symm

abbrev DeviceServer := Server deviceRows DeviceAnswer DeviceError DeviceRequest

abbrev DeviceEvent := ServerEvent DeviceAnswer DeviceError DeviceRequest

def completes (c : ChallengeId) : DeviceEvent → Bool
  | .ended _ (.completeChallenge r) (.ok _) => r.challengeId = c
  | _ => false

def authenticates (sid : SessionId) : DeviceEvent → Bool
  | .ended _ (.authenticate a) (.ok _) => a.sessionId = sid
  | _ => false

section Runs

variable {P : Primitives} {requireOwner : Bool} {S S' : DeviceServer}

/-- A completion uses up the challenge. -/
theorem completes_once (h : S.Ok (program P requireOwner) DeviceInv Later) {e : DeviceEvent}
    {c : ChallengeId} (hs : (devices P requireOwner).step S e S') (he : completes c e = true) :
    (¬∃ x ∈ S.store.challenges, x.id = c ∧ x.consumedAt ≠ none) ∧
      ∃ x ∈ S'.store.challenges, x.id = c ∧ x.consumedAt ≠ none := by
  match e, he with
  | .ended i (.completeChallenge r) (.ok a), he =>
    have hc : r.challengeId = c := of_decide_eq_true he
    obtain ⟨seen, hl, hrun⟩ := commit_atomic h hs
    obtain ⟨challenge, hmem, hid, hfresh, hw⟩ := run_completeChallenge hrun
    refine ⟨?_, ?_⟩
    · rintro ⟨x, hx, hxid, hused⟩
      have heq : x = challenge := Relation.eq_of_not_apart hx hmem fun hne =>
        hne (hxid.trans (hc.symm.trans hid.symm))
      rw [heq] at hused
      exact hused hfresh
    · simp only [register, Option.bind_eq_bind, Option.bind_eq_some_iff, Option.pure_def,
        Option.some.injEq] at hw
      obtain ⟨installations, -, credentials, -, challenges, hu, heq⟩ := hw
      rw [← heq]
      exact ⟨_, updated_mem hu hmem (decide_eq_true hid), hid.trans hc, fun h => nomatch h⟩

theorem consumed_later {c : ChallengeId} (hl : Later db db')
    (h : ∃ x ∈ db.challenges, x.id = c ∧ x.consumedAt ≠ none) :
    ∃ x ∈ db'.challenges, x.id = c ∧ x.consumedAt ≠ none := by
  obtain ⟨x, hx, hid, hused⟩ := h
  obtain ⟨y, hy, -, hsame⟩ := hl.challenges x hx
  have heq := hsame hused
  subst heq
  exact ⟨y, hy, hid, hused⟩

/-- A session that is dead is not accepted again. -/
theorem dead_run {es : List DeviceEvent} {sid : SessionId}
    (h : S.Ok (program P requireOwner) DeviceInv Later)
    (hr : (devices P requireOwner).Run S es S') (hd : Dead S.store sid) :
    ∀ e ∈ es, authenticates sid e = false := by
  induction hr with
  | nil => exact fun _ he => nomatch he
  | @cons S M S' e es hs _ ih =>
    obtain ⟨hok, hl⟩ := serving_ok (keeps_program P requireOwner) h hs
    intro f hf
    rcases List.mem_cons.1 hf with rfl | hf
    · match f, hs with
      | .ended i (.authenticate a) (.ok r), hs =>
        obtain ⟨seen, hlater, hrun⟩ := commit_atomic h hs
        obtain ⟨-, session, credential, installation, hholds, -⟩ :=
          authenticated_run h.inv hlater hrun
        refine decide_eq_false fun heq => ?_
        subst heq
        exact hholds.not_dead hd
      | .begun _, _ | .locked _, _ | .lost _, _ | .outside, _ => rfl
      | .ended _ _ (.error _), _ => cases ‹DeviceRequest› <;> rfl
      | .ended _ (.saveChallenge _) (.ok _), _ | .ended _ (.completeChallenge _) (.ok _), _
      | .ended _ (.rotate ..) (.ok _), _ | .ended _ (.revokeCredential ..) (.ok _), _
      | .ended _ (.revokeInstallation ..) (.ok _), _ | .ended _ (.issue _) (.ok _), _ => rfl
    · exact ih hok (hd.later hl) f hf

end Runs

/-- In every interleaving: a key owns at most one installation, credentials are numbered
from 1 with at most the last one active, a request that is rejected changes nothing, a
session is accepted only while all that it rests on is active, the requests that end a
session end it for good, and a challenge is completed at most once. -/
theorem devices_safe (P : Primitives) (requireOwner : Bool) {S : DeviceServer}
    (hr : (devices P requireOwner).Reachable S) :
    (∀ i ∈ S.store.installations, ∀ j ∈ S.store.installations,
      i.devicePublicKey = j.devicePublicKey → i = j) ∧
    (∀ i ∈ S.store.installations, ∃ n, Numbered S.store.credentials i.id n) ∧
    (∀ c ∈ S.store.credentials, ∀ d ∈ S.store.credentials, c.installationId = d.installationId →
      c.version = d.version ∨ c.status = .active ∧ d.status = .active → c = d) ∧
    (∀ i q e S', (devices P requireOwner).step S (.ended i q (.error e)) S' →
      S'.store = S.store) ∧
    (∀ i a r S', (devices P requireOwner).step S (.ended i (.authenticate a) (.ok r)) S' →
      S'.store = S.store ∧ ∃ session credential installation,
        SessionHolds requireOwner S.store a session credential installation ∧
        r = .authenticated ⟨session.id, session.installationId, session.deviceCredentialId,
          session.credentialVersion, a.requiredCapability, session.expiresAt⟩) ∧
    (∀ i q r S', (devices P requireOwner).step S (.ended i q (.ok r)) S' →
      ∀ x ∈ S.store.sessions, q.ends x = true → Dead S'.store x.id) ∧
    ∀ es S', (devices P requireOwner).Run S es S' →
      (∀ c, es.countP (completes c) ≤ 1) ∧
      ∀ sid, Dead S.store sid → ∀ e ∈ es, authenticates sid e = false := by
  have hK := keeps_program P requireOwner
  have hind := serving_inductive hK deviceInv_empty
  have hok : S.Ok (program P requireOwner) DeviceInv Later := hind.reachable hr
  refine ⟨fun i hi j hj hkey => ?_, hok.inv.numbered, fun c hc d hd hi hsame => ?_,
    fun i q e S' hs => error_unchanged hs, fun i a r S' hs => ?_, fun i q r S' hs x hx hends => ?_,
    fun es S' hrun => ⟨fun c => ?_, fun sid hd => dead_run hok hrun hd⟩⟩
  · exact Relation.eq_of_not_apart hi hj fun hap => hap.2 hkey
  · refine Relation.eq_of_not_apart hc hd fun hap => ?_
    rcases hsame with hv | ⟨hc', hd'⟩
    · exact hap.2.1 ⟨hi, hv⟩
    · exact hap.2.2.2 ⟨hi, hc', hd'⟩
  · obtain ⟨seen, hl, hrun⟩ := commit_atomic hok hs
    exact authenticated_run hok.inv hl hrun
  · obtain ⟨seen, hl, hrun⟩ := commit_atomic hok hs
    exact ends_dead hok.inv hl hrun hx hends
  · refine (hrun.countP_le_one hind
      (fun S => ∃ x ∈ S.store.challenges, x.id = c ∧ x.consumedAt ≠ none) (completes c)
      (fun A e B hA hs hspent => consumed_later (serving_ok hK hA hs).2 hspent)
      (fun A e B hA hs he => completes_once hA hs he) hok).1

namespace Concrete

/-! A device is registered, exchanges its credential for a session and rotates it. -/

def primitives : Primitives := ⟨id, fun _ _ _ => true⟩

/-- The database after a request that nothing runs beside. -/
def after (q : DeviceRequest) (db : DeviceDb) : DeviceDb :=
  match (program primitives false q db).run db with
  | .ok (_, db') => db'
  | .error _ => db

theorem after_reachable {q : DeviceRequest} {db : DeviceDb}
    (h : (devices primitives false).Reachable ⟨db, []⟩) :
    (devices primitives false).Reachable ⟨after q db, []⟩ := by
  unfold after
  split
  · rename_i r db' hrun
    obtain ⟨es, hes⟩ := @serving_alone _ _ _ _ _ _ _ Accounts DeviceDb.empty _ _ _ _ hrun
    exact h.run hes
  · exact h

def challenge : DeviceRequest := .saveChallenge ⟨1, "demo", [1], [2], [3], 0, 100⟩

def completion : DeviceRequest := .completeChallenge ⟨1, "demo", [1], [3], [9], 10, ⟨5, [5]⟩, 7⟩

def exchange : DeviceRequest := .issue ⟨⟨5, [5]⟩, 8, [8], .appControlPlane, 20, 15, 40⟩

def rotation : DeviceRequest := .rotate ⟨5, [5]⟩ ⟨6, [6]⟩ 30

def rotated : DeviceDb :=
  after rotation (after exchange (after completion (after challenge DeviceDb.empty)))

theorem rotated_reachable : (devices primitives false).Reachable ⟨rotated, []⟩ :=
  after_reachable (after_reachable (after_reachable (after_reachable (.of_init rfl))))

theorem rotated_dead : Dead rotated 8 := by
  refine ⟨⟨8, 7, 5, 1, .appControlPlane, [8], 20, 15, 40, some 30⟩, ?_, rfl,
    .inl ⟨⟨5, 7, 1, deviceCredentialScope, [5], .rotated, 10, 30, some 30, some 6⟩, ?_, rfl, ?_⟩⟩
  · show _ ∈ rotated.sessions.rows
    decide +kernel
  · show _ ∈ rotated.credentials.rows
    decide +kernel
  · decide

/-- The session is not accepted any more. -/
theorem rotated_not_authenticated : Dead rotated 8 ∧
    ∀ es S', (devices primitives false).Run ⟨rotated, []⟩ es S' →
      ∀ e ∈ es, authenticates 8 e = false :=
  ⟨rotated_dead, fun es S' hrun =>
    ((devices_safe primitives false rotated_reachable).2.2.2.2.2.2 es S' hrun).2 8 rotated_dead⟩

end Concrete

end AutomationTool.ControlPlane.Devices
