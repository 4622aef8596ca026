import AutomationTool.Publishing.SingleAdmission
import AutomationTool.Publishing.UploadPlan

/-!
# Parts acknowledged under another upload token

Behaviour (bilibili_publish_repository.py:252-265):
`record_upload_token` overwrites the token of a prepared attempt, and the recorded parts carry
no token. Two uploads that both found no token both open an upload session; the one that
stored its token first goes on with it, or leaves recorded parts behind for the other's.
`VIDEO_UPLOADED` then stands beside a token under which the platform has nothing.

Evidence: the module docstring, "the short-term `upload_token` is persisted only to resume
interrupted part uploads"; `adopt_resource_id` of the same module, which writes its value only
where none is stored.

Counterexample: two uploads of one small file; the first one's bytes count for the second
one's token.

`uploaded_under_token`: while no stored token is replaced, what counts as uploaded was
acknowledged under the stored token, and the parts are the whole file.
-/
namespace AutomationTool.Bugs.MixedTokens

open Protocol Publishing
open Editing (UnicodeData)

/-- The gateway acknowledged the part under the token. -/
def AckedPart (s : PublishState) (t : UploadToken) (p : PlannedPart) : Prop :=
  (⟨.uploadPart t p.partNumber p.offset p.size, .data ()⟩ : Heard) ∈ s.heard

/-- It acknowledged all of the material under the token. -/
def AckedAll (s : PublishState) (t : UploadToken) (r : BilibiliPublishAttemptRecord) : Prop :=
  match r.uploadType with
  | .small => (⟨.uploadSmallFile t r.material.sizeBytes, .data ()⟩ : Heard) ∈ s.heard
  | .chunked => ∀ p ∈ plannedParts r, AckedPart s t p

/-- What counts as uploaded for the job. -/
structure Uploaded (j : PublishJobId) (s : PublishState) : Prop where
  /-- From `VIDEO_UPLOADED` on, everything was acknowledged under the stored token. -/
  all : ∀ r, s.db.attempt? j = some r → r.phase ≠ .prepared →
    ∃ t, r.uploadToken = some t ∧ AckedAll s t r
  /-- The planned parts are the parts `1 .. part_count`, lie one behind the other from the first
  byte to the last, and so have every byte once. -/
  plan : ∀ r, s.db.attempt? j = some r → r.uploadType = .chunked →
    (plannedParts r).map (·.partNumber) = List.range' 1 r.partCount ∧
      Tiles 0 (plannedParts r) r.material.sizeBytes ∧ ∀ b < r.material.sizeBytes,
        ((plannedParts r).filter fun p => p.offset ≤ b ∧ b < p.offset + p.size).length = 1
  /-- A recorded part was acknowledged under the stored token. -/
  parts : ∀ n ∈ s.db.partNumbers j, ∃ r t p, s.db.attempt? j = some r ∧ r.uploadToken = some t ∧
    p ∈ plannedParts r ∧ p.partNumber = n ∧ AckedPart s t p

/-- The token an operation stores. -/
def storedToken : Op → Option (PublishJobId × UploadToken)
  | .recordUploadToken j t _ => some (j, t)
  | _ => none

/-- The condition: no token of a prepared attempt is replaced by another. -/
def KeepsToken (o : Op) (s : PublishState) : Prop :=
  ∀ x ∈ storedToken o, ∀ r ∈ s.db.attempt? x.1, r.phase = .prepared → ∀ t ∈ r.uploadToken, t = x.2

instance (o : Op) (s : PublishState) : Decidable (KeepsToken o s) :=
  inferInstanceAs (Decidable (∀ x ∈ storedToken o, ∀ r ∈ s.db.attempt? x.1,
    r.phase = .prepared → ∀ t ∈ r.uploadToken, t = x.2))

/-! ## What the uploads rely on -/

structure Inv (contract : BilibiliOpenApiContract) (s : PublishState) : Prop where
  planned : ∀ j r, s.db.attempt? j = some r → Planned contract r
  all : ∀ j r, s.db.attempt? j = some r → r.phase ≠ .prepared →
    ∃ t, r.uploadToken = some t ∧ AckedAll s t r
  parts : ∀ j, ∀ n ∈ s.db.partNumbers j, ∃ r t p, s.db.attempt? j = some r ∧
    r.uploadToken = some t ∧ p ∈ plannedParts r ∧ p.partNumber = n ∧ AckedPart s t p

/-- Nothing heard or recorded is lost, and a stored token stays. -/
structure Rely (s s' : PublishState) : Prop where
  heard : ∀ h ∈ s.heard, h ∈ s'.heard
  attempt : ∀ j r, s.db.attempt? j = some r → ∃ r', s'.db.attempt? j = some r' ∧ SamePlan r r' ∧
    ∀ t, r.uploadToken = some t → r'.uploadToken = some t
  parts : ∀ j, ∀ n ∈ s.db.partNumbers j, n ∈ s'.db.partNumbers j

theorem Rely.refl (s : PublishState) : Rely s s :=
  ⟨fun _ h => h, fun _ r hr => ⟨r, hr, .refl r, fun _ ht => ht⟩, fun _ _ h => h⟩

theorem Rely.trans {a b c : PublishState} (hab : Rely a b) (hbc : Rely b c) : Rely a c := by
  refine ⟨fun h hh => hbc.heard h (hab.heard h hh), fun j r hr => ?_,
    fun j n hn => hbc.parts j n (hab.parts j n hn)⟩
  obtain ⟨r', hr', hplan, htoken⟩ := hab.attempt j r hr
  obtain ⟨r'', hr'', hplan', htoken'⟩ := hbc.attempt j r' hr'
  exact ⟨r'', hr'', hplan.trans hplan', fun t ht => htoken' t (htoken t ht)⟩

def conduct (contract : BilibiliOpenApiContract) : Interference exec where
  inv := Inv contract
  rely := Rely
  cond := KeepsToken
  refl := .refl
  trans := .trans

variable {s s' : PublishState} {t : UploadToken} {o : Op} {j : PublishJobId}
  {r r' : BilibiliPublishAttemptRecord}

theorem AckedPart.rely {p : PlannedPart} (h : AckedPart s t p) (hr : Rely s s') :
    AckedPart s' t p := hr.heard _ h

theorem AckedAll.rely (h : AckedAll s t r) (hs : SamePlan r r') (hr : Rely s s') :
    AckedAll s' t r' := by
  unfold AckedAll at h ⊢
  rw [hs.uploadType, hs.material, plannedParts_same hs]
  cases hu : r.uploadType with
  | small =>
    rw [hu] at h
    exact hr.heard _ h
  | chunked =>
    rw [hu] at h
    exact fun p hp => (h p hp).rely hr

/-! ## One operation -/

theorem AttemptMove.plan {a : Option BilibiliPublishAttemptRecord}
    (h : AttemptMove j o (some r) a) (hc : KeepsToken o s) (hr : s.db.attempt? j = some r) :
    ∃ r', a = some r' ∧ SamePlan r r' ∧ ∀ t, r.uploadToken = some t → r'.uploadToken = some t := by
  cases h with
  | @uploadToken _ t at' hp =>
    refine ⟨_, rfl, ⟨rfl, rfl, rfl, rfl⟩, fun t' ht' => ?_⟩
    exact congrArg some (hc (j, t) rfl r hr hp t' ht').symm
  | _ => exact ⟨_, rfl, ⟨rfl, rfl, rfl, rfl⟩, fun _ ht => ht⟩

theorem partNumbers_exec (o : Op) (s : PublishState) (j : PublishJobId) :
    (exec o s).2.db.partNumbers j = s.db.partNumbers j ∨
      ∃ n size at' r, o = .recordPartCompleted j n size at' ∧ s.db.attempt? j = some r ∧
        r.phase = .prepared ∧ (exec o s).2.db.partNumbers j = s.db.partNumbers j ++ [n] := by
  unfold PublishDb.partNumbers
  rcases uploadParts_exec o s with h | ⟨i, n, size, at', r, ho, hr, hp, h⟩
  · rw [h]
    exact .inl rfl
  · rw [h, List.filter_append, List.map_append]
    by_cases hj : i = j
    · subst hj
      refine .inr ⟨n, size, at', r, ho, hr, hp, ?_⟩
      simp
    · left
      simp [hj]

theorem rely_exec (hc : KeepsToken o s) : Rely s (exec o s).2 := by
  refine ⟨fun h hh => heard_mono hh, fun j r hr => ?_, fun j n hn => ?_⟩
  · rcases attempt?_exec o s j with h | h
    · exact ⟨r, h.trans hr, .refl r, fun _ ht => ht⟩
    · rw [hr] at h
      exact AttemptMove.plan h hc hr
  · rcases partNumbers_exec o s j with h | ⟨_, _, _, _, _, _, _, h⟩
    · rwa [h]
    · rw [h]
      exact List.mem_append_left _ hn

/-- What the three operations that write an upload need. -/
structure Earned (contract : BilibiliOpenApiContract) (o : Op) (s : PublishState) : Prop where
  prepared : ∀ record, o = .createPrepared record → Planned contract record
  part : ∀ j n size at', o = .recordPartCompleted j n size at' → ∃ r t p,
    s.db.attempt? j = some r ∧ r.uploadToken = some t ∧ p ∈ plannedParts r ∧ p.partNumber = n ∧
      AckedPart s t p
  uploaded : ∀ j at', o = .recordVideoUploaded j at' → ∃ r t,
    s.db.attempt? j = some r ∧ r.uploadToken = some t ∧ AckedAll s t r

variable {contract : BilibiliOpenApiContract}

/-- Any other operation needs nothing. -/
theorem earned_of_part (h1 : o.part ≠ .intake) (h2 : o.part ≠ .upload) : Earned contract o s :=
  ⟨fun _ ho => absurd (ho ▸ rfl) h1, fun _ _ _ _ ho => absurd (ho ▸ rfl) h2,
    fun _ _ ho => absurd (ho ▸ rfl) h2⟩

theorem earned_part (contract : BilibiliOpenApiContract) {p : PlannedPart} (now : Time)
    (hr : s.db.attempt? j = some r) (ht : r.uploadToken = some t) (hp : p ∈ plannedParts r)
    (hacked : AckedPart s t p) :
    Earned contract (.recordPartCompleted j p.partNumber p.size now) s where
  prepared _ ho := nomatch ho
  part _ _ _ _ ho := by
    cases ho
    exact ⟨r, t, p, hr, ht, hp, rfl, hacked⟩
  uploaded _ _ ho := nomatch ho

theorem earned_token (contract : BilibiliOpenApiContract) (now : Time) :
    Earned contract (.recordUploadToken j t now) s where
  prepared _ ho := nomatch ho
  part _ _ _ _ ho := nomatch ho
  uploaded _ _ ho := nomatch ho

theorem earned_uploaded (contract : BilibiliOpenApiContract) (now : Time)
    (hr : s.db.attempt? j = some r) (ht : r.uploadToken = some t) (hall : AckedAll s t r) :
    Earned contract (.recordVideoUploaded j now) s where
  prepared _ ho := nomatch ho
  part _ _ _ _ ho := nomatch ho
  uploaded _ _ ho := by
    cases ho
    exact ⟨r, t, hr, ht, hall⟩

theorem earned_prepared {record : BilibiliPublishAttemptRecord} (h : Planned contract record) :
    Earned contract (.createPrepared record) s where
  prepared _ ho := by
    cases ho
    exact h
  part _ _ _ _ ho := nomatch ho
  uploaded _ _ ho := nomatch ho

theorem inv_exec (hi : Inv contract s) (hc : KeepsToken o s) (he : Earned contract o s) :
    Inv contract (exec o s).2 := by
  have hrely := rely_exec hc
  refine ⟨fun j r' hr' => ?_, fun j r' hr' hp => ?_, fun j n hn => ?_⟩
  · rcases attempt?_exec o s j with h | h
    · exact hi.planned j r' (h.symm.trans hr')
    · rw [hr'] at h
      cases hs : s.db.attempt? j with
      | none =>
        rw [hs] at h
        cases h
        exact he.prepared _ rfl
      | some r =>
        obtain ⟨r'', hr'', hplan, -⟩ := hrely.attempt j r hs
        cases hr'.symm.trans hr''
        exact (hi.planned j r hs).same hplan
  · rcases attempt?_exec o s j with h | h
    · obtain ⟨t, ht, hall⟩ := hi.all j r' (h.symm.trans hr') hp
      exact ⟨t, ht, hall.rely (.refl r') hrely⟩
    · have hold : ∀ r, s.db.attempt? j = some r → r.phase ≠ .prepared →
          ∃ t, r'.uploadToken = some t ∧ AckedAll (exec o s).2 t r' := by
        intro r hs hp
        obtain ⟨t, ht, hall⟩ := hi.all j r hs hp
        obtain ⟨r'', hr'', hplan, htoken⟩ := hrely.attempt j r hs
        cases hr'.symm.trans hr''
        exact ⟨t, htoken t ht, hall.rely hplan hrely⟩
      rw [hr'] at h
      cases hs : s.db.attempt? j with
      | none =>
        rw [hs] at h
        cases h with
        | prepared _ hprepared => exact absurd hprepared hp
      | some r =>
        rw [hs] at h
        by_cases hrp : r.phase = .prepared
        · -- the only operation that leaves `PREPARED`
          cases h with
          | videoUploaded =>
            obtain ⟨r₀, t, hr₀, ht, hall⟩ := he.uploaded _ _ rfl
            cases hs.symm.trans hr₀
            exact ⟨t, ht, hall.rely ⟨rfl, rfl, rfl, rfl⟩ hrely⟩
          | uploadToken => exact absurd hrp hp
          | coverUrl => exact absurd hrp hp
          | dispatched h => exact absurd (hrp.symm.trans h) nofun
          | submitted h => exact absurd (hrp.symm.trans h) nofun
          | failed h => exact absurd (hrp.symm.trans h) nofun
          | outcomeUncertain h => exact absurd (hrp.symm.trans h) nofun
        · exact hold r hs hrp
  · have hkeep : ∀ r t p, s.db.attempt? j = some r → r.uploadToken = some t →
        p ∈ plannedParts r → p.partNumber = n → AckedPart s t p → ∃ r t p,
          (exec o s).2.db.attempt? j = some r ∧ r.uploadToken = some t ∧ p ∈ plannedParts r ∧
            p.partNumber = n ∧ AckedPart (exec o s).2 t p := by
      intro r t p hr ht hp hpn hacked
      obtain ⟨r', hr', hplan, htoken⟩ := hrely.attempt j r hr
      exact ⟨r', t, p, hr', htoken t ht, by rwa [plannedParts_same hplan], hpn, hacked.rely hrely⟩
    rcases partNumbers_exec o s j with h | ⟨m, size, at', r, ho, hr, -, h⟩
    · rw [h] at hn
      obtain ⟨r, t, p, hr, ht, hp, hpn, hacked⟩ := hi.parts j n hn
      exact hkeep r t p hr ht hp hpn hacked
    · rw [h] at hn
      rcases List.mem_append.1 hn with hn | hn
      · obtain ⟨r, t, p, hr, ht, hp, hpn, hacked⟩ := hi.parts j n hn
        exact hkeep r t p hr ht hp hpn hacked
      · obtain rfl := List.mem_singleton.1 hn
        obtain ⟨r, t, p, hr, ht, hp, hpn, hacked⟩ := he.part _ _ _ _ ho
        exact hkeep r t p hr ht hp hpn hacked

theorem keeps_of_earned (h : ∀ s, Earned contract o s) : (conduct contract).keeps o :=
  fun s hi hc => ⟨inv_exec hi hc (h s), rely_exec hc⟩

theorem keeps_of_part {p : Part} (h1 : p ≠ .intake) (h2 : p ≠ .upload) (o : Op) (ho : o.part = p) :
    (conduct contract).keeps o :=
  keeps_of_earned fun _ => earned_of_part (ho ▸ h1) (ho ▸ h2)

/-! ## The upload -/

variable {record : BilibiliPublishAttemptRecord} {completed : List Nat}

/-- The stored attempt is the one that was read, and its token is `t`. -/
def Session (record : BilibiliPublishAttemptRecord) (t : UploadToken) (s : PublishState) : Prop :=
  ∃ r, s.db.attempt? record.publishJobId = some r ∧ SamePlan record r ∧ r.uploadToken = some t

/-- The stored attempt is the one that was read. -/
def Current (record : BilibiliPublishAttemptRecord) (s : PublishState) : Prop :=
  ∃ r, s.db.attempt? record.publishJobId = some r ∧ SamePlan record r ∧
    ∀ t, record.uploadToken = some t → r.uploadToken = some t

/-- The parts the upload leaves out are recorded. -/
def Recorded (record : BilibiliPublishAttemptRecord) (completed : List Nat) (s : PublishState) :
    Prop := ∀ n ∈ completed, n ∈ s.db.partNumbers record.publishJobId

/-- The part was left out, or is acknowledged. -/
def Handled (completed : List Nat) (t : UploadToken) (p : PlannedPart) (s : PublishState) : Prop :=
  p.partNumber ∈ completed ∨ AckedPart s t p

theorem Session.rely (h : Session record t s) (hr : Rely s s') : Session record t s' := by
  obtain ⟨r, hrow, hplan, htoken⟩ := h
  obtain ⟨r', hrow', hplan', htoken'⟩ := hr.attempt _ r hrow
  exact ⟨r', hrow', hplan.trans hplan', htoken' t htoken⟩

theorem Current.rely (h : Current record s) (hr : Rely s s') : Current record s' := by
  obtain ⟨r, hrow, hplan, htoken⟩ := h
  obtain ⟨r', hrow', hplan', htoken'⟩ := hr.attempt _ r hrow
  exact ⟨r', hrow', hplan.trans hplan', fun t ht => htoken' t (htoken t ht)⟩

theorem Recorded.rely (h : Recorded record completed s) (hr : Rely s s') :
    Recorded record completed s' := fun n hn => hr.parts _ n (h n hn)

theorem Handled.rely {p : PlannedPart} (h : Handled completed t p s) (hr : Rely s s') :
    Handled completed t p s' := h.imp_right fun h => h.rely hr

theorem keeps_read (o : Op) (ho : o.part = .read) : (conduct contract).keeps o :=
  keeps_of_part (by decide) (by decide) o ho

/-- The store took the token. -/
theorem token_stored {now : Time}
    (h : (exec (.recordUploadToken j t now) s).1 = .ok ()) :
    ∃ r, s.db.attempt? j = some r ∧ (exec (.recordUploadToken j t now) s).2.db.attempt? j =
      some { r with uploadToken := some t, updatedAt := now } := by
  rw [show exec (.recordUploadToken j t now) s = s.onDb (s.db.recordUploadToken j t now) from rfl]
    at h ⊢
  unfold PublishDb.recordUploadToken at h ⊢
  split at h
  · cases h
  · rw [if_neg ‹_›]
    obtain ⟨r, hr, -, hafter⟩ := PublishDb.guardedUpdate_ok (PublishDb.required_ok h)
    exact ⟨r, hr, hafter⟩

theorem completed_recorded (h : (exec (.completedPartNumbers record.publishJobId) s).1 =
    .ok completed) : Recorded record completed s := by
  rw [show (exec (.completedPartNumbers record.publishJobId) s).1 =
    s.db.completedPartNumbers record.publishJobId from rfl] at h
  unfold PublishDb.completedPartNumbers at h
  split at h
  · cases h
  · cases h
    exact fun _ hn => hn

theorem uploadPart_amid {p : PlannedPart} (hp : p ∈ plannedParts record) (hi : Inv contract s)
    (hsession : Session record t s) :
    (uploadPart contract record.publishJobId completed t p).run.amid (conduct contract)
      (Prog.Returned fun _ s' => Handled completed t p s') s := by
  unfold uploadPart
  split
  · rename_i hdone
    exact .inl hdone
  refine Prog.amid_usesE (uses_call (keeps_read _ rfl)) hi fun _ s₁ hi₁ hr₁ => ?_
  refine amid_call fun s₂ hi₂ hr₂ hc₂ => ?_
  obtain ⟨hi₃, hr₃⟩ := keeps_read (.ask (.uploadPart t p.partNumber p.offset p.size)) rfl s₂ hi₂ hc₂
  refine ⟨hi₃, hr₃, fun answer hanswer => amid_parsed fun b hb => ?_⟩
  subst hb
  have hacked : AckedPart _ t p := heard_of_ask hanswer
  have hsession₃ := ((hsession.rely hr₁).rely hr₂).rely hr₃
  refine Prog.amid_usesE (uses_call (keeps_read _ rfl)) hi₃ fun now s₄ hi₄ hr₄ => ?_
  refine amid_call fun s₅ hi₅ hr₅ hc₅ => ?_
  -- the part is recorded: it is acknowledged under the stored token
  obtain ⟨r, hrow, hplan, htoken⟩ := (hsession₃.rely hr₄).rely hr₅
  have hacked₅ := (hacked.rely hr₄).rely hr₅
  have hearned := earned_part contract now hrow htoken (by rwa [plannedParts_same hplan]) hacked₅
  have hr₆ := rely_exec hc₅
  exact ⟨inv_exec hi₅ hc₅ hearned, hr₆, fun _ _ => .inr (hacked₅.rely hr₆)⟩

theorem uploadParts_amid {ps : List PlannedPart} (hps : ∀ p ∈ ps, p ∈ plannedParts record)
    (hi : Inv contract s) (hsession : Session record t s) :
    (uploadParts contract record.publishJobId completed t ps).run.amid (conduct contract)
      (Prog.Returned fun _ s' => ∀ p ∈ ps, Handled completed t p s') s := by
  induction ps generalizing s with
  | nil => exact nofun
  | cons p ps ih =>
    refine Prog.amid_thenE (uploadPart_amid (hps p List.mem_cons_self) hi hsession) hi
      fun _ s₁ hi₁ hr₁ hp => ?_
    have hrest := ih (fun q hq => hps q (List.mem_cons_of_mem _ hq)) hi₁ (hsession.rely hr₁)
    refine Prog.amid_mono (Prog.amid_since hi₁ ((conduct contract).refl s₁) hrest) fun r s₂ h => ?_
    cases r with
    | error e => exact trivial
    | ok a =>
      intro q hq
      rcases List.mem_cons.1 hq with rfl | hq
      · exact hp.rely h.2.2
      · exact h.1 q hq

/-- All bytes of the record's material are handled. -/
def Transferred (record : BilibiliPublishAttemptRecord) (completed : List Nat) (t : UploadToken)
    (s : PublishState) : Prop :=
  match record.uploadType with
  | .small => (⟨.uploadSmallFile t record.material.sizeBytes, .data ()⟩ : Heard) ∈ s.heard
  | .chunked => ∀ p ∈ plannedParts record, Handled completed t p s

theorem Transferred.rely (h : Transferred record completed t s) (hr : Rely s s') :
    Transferred record completed t s' := by
  unfold Transferred at h ⊢
  cases hu : record.uploadType with
  | small =>
    rw [hu] at h
    exact hr.heard _ h
  | chunked =>
    rw [hu] at h
    exact fun p hp => (h p hp).rely hr

/-- What was left out was recorded under the stored token. -/
theorem Transferred.all (h : Transferred record completed t s) (hi : Inv contract s)
    (hrecorded : Recorded record completed s)
    (hrow : s.db.attempt? record.publishJobId = some r) (hplan : SamePlan record r)
    (htoken : r.uploadToken = some t) : AckedAll s t r := by
  unfold Transferred at h
  unfold AckedAll
  rw [hplan.uploadType, hplan.material, plannedParts_same hplan]
  cases hu : record.uploadType with
  | small =>
    rw [hu] at h
    exact h
  | chunked =>
    rw [hu] at h
    intro p hp
    rcases h p hp with hdone | hacked
    · obtain ⟨r', t', q, hr', ht', hq, hqn, hacked⟩ := hi.parts _ _ (hrecorded _ hdone)
      cases hrow.symm.trans hr'
      cases htoken.symm.trans ht'
      rw [plannedParts_same hplan] at hq
      rwa [plannedParts_unique hp hq hqn.symm]
    · exact hacked

/-- Opening a session stores its token. -/
theorem initializeUpload_amid [UnicodeData] (hi : Inv contract s)
    (hcurrent : Current record s) :
    (initializeUpload contract record).run.amid (conduct contract)
      (Prog.Returned fun t s' => Session record t s') s := by
  unfold initializeUpload
  split
  · exact trivial
  refine Prog.amid_usesE (uses_authorizedCall keeps_read (uses_call (keeps_read _ rfl))) hi
    fun t s₁ hi₁ hr₁ => ?_
  refine Prog.amid_usesE (uses_call (keeps_read _ rfl)) hi₁ fun now s₂ hi₂ hr₂ => ?_
  refine amid_call fun s₃ hi₃ hr₃ hc₃ => ?_
  refine ⟨inv_exec hi₃ hc₃ (earned_token contract now), rely_exec hc₃, fun _ hok => ?_⟩
  obtain ⟨r, hr, hplan, -⟩ := ((hcurrent.rely hr₁).rely hr₂).rely hr₃
  obtain ⟨r', hr', htoken⟩ := token_stored hok
  cases hr.symm.trans hr'
  exact ⟨_, htoken, hplan.trans ⟨rfl, rfl, rfl, rfl⟩, rfl⟩

theorem sessionToken_amid [UnicodeData] (hi : Inv contract s)
    (hcurrent : Current record s) :
    (sessionToken contract record).run.amid (conduct contract)
      (Prog.Returned fun t s' => Session record t s') s := by
  unfold sessionToken
  split
  · rename_i t ht
    obtain ⟨r, hrow, hplan, htoken⟩ := hcurrent
    exact ⟨r, hrow, hplan, htoken t ht⟩
  · exact initializeUpload_amid hi hcurrent

theorem completedParts_amid :
    (completedParts record).run.amid (conduct contract)
      (Prog.Returned fun completed s' => Recorded record completed s') s := by
  unfold completedParts
  split
  · exact nofun
  refine amid_call fun s₁ hi₁ hr₁ hc₁ => ?_
  obtain ⟨hi₂, hr₂⟩ := keeps_read (.completedPartNumbers record.publishJobId) rfl s₁ hi₁ hc₁
  refine ⟨hi₂, hr₂, fun completed hok => ?_⟩
  split
  · exact completed_recorded hok
  · exact trivial

theorem transfer_amid (hi : Inv contract s) (hsession : Session record t s) :
    (transfer contract record completed t).run.amid (conduct contract)
      (Prog.Returned fun _ s' => Transferred record completed t s') s := by
  unfold transfer Transferred
  cases hu : record.uploadType with
  | small =>
    refine Prog.amid_usesE (uses_call (keeps_read _ rfl)) hi fun _ s₁ hi₁ hr₁ => ?_
    refine amid_call fun s₂ hi₂ hr₂ hc₂ => ?_
    obtain ⟨hi₃, hr₃⟩ := keeps_read (.ask (.uploadSmallFile t record.material.sizeBytes)) rfl
      s₂ hi₂ hc₂
    refine ⟨hi₃, hr₃, fun answer hanswer => amid_acked fun b hb => ?_⟩
    subst hb
    exact heard_of_ask hanswer
  | chunked =>
    refine Prog.amid_thenE (uploadParts_amid (fun _ hp => hp) hi hsession) hi
      fun _ s₁ hi₁ hr₁ hparts => ?_
    have hkeep : (ask (.uploadComplete t) >>= fun answer =>
        parsed contract answer >>= stepResult).run.uses (conduct contract).keeps :=
      Prog.uses_bindE (uses_call (keeps_read _ rfl)) fun _ =>
        Prog.uses_bindE uses_parsed fun _ => uses_stepResult
    refine Prog.amid_mono (Prog.amid_of_uses hkeep hi₁ ((conduct contract).refl s₁)) fun r s₂ h => ?_
    cases r with
    | error e => exact trivial
    | ok a => exact fun p hp => (hparts p hp).rely h.2

theorem uploadVideo_amid [UnicodeData] :
    (uploadVideo contract j).run.amid (conduct contract) (fun _ _ => True) s := by
  refine Prog.amid_mono (Q := Prog.Returned fun _ _ => True) ?_ fun _ _ _ => trivial
  refine amid_loadAttempt (keeps_read _ rfl) fun record s₁ hi₁ hr₁ hrow _ => ?_
  have hjob := PublishDb.attempt?_job hrow
  subst hjob
  split
  · exact trivial
  split
  · exact trivial
  have hcurrent : Current record s₁ := ⟨record, hrow, .refl record, fun _ ht => ht⟩
  refine Prog.amid_usesE (verifyReaderMatches_uses keeps_read) hi₁ fun _ s₂ hi₂ hr₂ => ?_
  refine Prog.amid_thenE completedParts_amid hi₂ fun completed s₃ hi₃ hr₃ hrecorded => ?_
  refine Prog.amid_thenE (sessionToken_amid hi₃ ((hcurrent.rely hr₂).rely hr₃)) hi₃
    fun t s₄ hi₄ hr₄ hsession => ?_
  refine Prog.amid_thenE (transfer_amid hi₄ hsession) hi₄ fun _ s₅ hi₅ hr₅ htransferred => ?_
  refine Prog.amid_usesE (uses_call (keeps_read _ rfl)) hi₅ fun now s₆ hi₆ hr₆ => ?_
  refine amid_call fun s₇ hi₇ hr₇ hc₇ => ?_
  have hr : Rely s₄ s₇ := (hr₅.trans hr₆).trans hr₇
  obtain ⟨r, hrow₇, hplan, htoken⟩ := hsession.rely hr
  have hall := (htransferred.rely (hr₆.trans hr₇)).all hi₇ (hrecorded.rely (hr₄.trans hr)) hrow₇
    hplan htoken
  refine ⟨inv_exec hi₇ hc₇ (earned_uploaded contract now hrow₇ htoken hall), rely_exec hc₇,
    fun _ _ => ?_⟩
  exact Prog.amid_mono (Prog.amid_of_uses (uses_loadAttempt keeps_read)
    (inv_exec hi₇ hc₇ (earned_uploaded contract now hrow₇ htoken hall)) ((conduct contract).refl _))
    fun r _ _ => by cases r <;> exact trivial

/-! ## Every run -/

theorem planned_preparedRecord {material : BilibiliPublishMaterial} {fields : BilibiliArchiveFields}
    {withCover : Bool} {now : Time} :
    Planned contract (preparedRecord contract j material fields withCover now) := by
  have htype : (preparedRecord contract j material fields withCover now).uploadType = .chunked →
      ¬material.sizeBytes ≤ contract.smallFileMaxBytes := by
    intro h hle
    have : (if material.sizeBytes ≤ contract.smallFileMaxBytes then BilibiliUploadType.small
      else .chunked) = .chunked := h
    rw [if_pos hle] at this
    cases this
  exact ⟨rfl, fun h => if_neg (htype h), fun h => if_neg (htype h)⟩

theorem offered_amid [UnicodeData] {p : Prog Op Op.Ret Unit} (h : Offered contract p)
    (hi : Inv contract s) : p.amid (conduct contract) (fun _ _ => True) s := by
  have hkeep : ∀ {q : Part}, q ≠ .intake → q ≠ .upload → ∀ o, o.part = q →
      (conduct contract).keeps o := fun h1 h2 o ho => keeps_of_part h1 h2 o ho
  refine amid_offered h (fun o ho => ?_) (fun _ _ _ _ _ => ?_) (fun _ _ _ => uploadVideo_amid)
    (fun _ _ hi => ?_) (fun _ hi => ?_) (fun _ _ _ hi => ?_) (fun _ _ hi => ?_) hi
  · refine keeps_of_earned fun _ => earned_of_part ?_ ?_ <;> intro h <;> rw [h] at ho <;> cases ho
  · exact keeps_of_earned fun _ => earned_prepared planned_preparedRecord
  · exact amid_of_keeps (openReconciliation_uses keeps_read (hkeep (by decide) (by decide))) hi
  · exact amid_of_keeps (recover_uses keeps_read (hkeep (by decide) (by decide))
      (hkeep (by decide) (by decide))) hi
  · exact amid_of_keeps (reconcileOnce_uses keeps_read (hkeep (by decide) (by decide))
      (hkeep (by decide) (by decide)) (hkeep (by decide) (by decide))) hi
  · exact amid_of_keeps (Prog.uses_bindE (uses_call (keeps_read _ rfl)) fun _ =>
      applyNotification_uses keeps_read (hkeep (by decide) (by decide))) hi

theorem inv_fresh (h : s.Fresh) : Inv contract s := by
  obtain ⟨hdb, -, -⟩ := h
  refine ⟨fun j r hr => ?_, fun j r hr => ?_, fun j n hn => ?_⟩
  · rw [hdb] at hr
    cases hr
  · rw [hdb] at hr
    cases hr
  · rw [hdb] at hn
    cases hn

theorem Inv.uploaded (hi : Inv contract s) (j : PublishJobId) : Uploaded j s where
  all := hi.all j
  plan r hr ht :=
    have htiles := plannedParts_tiles (hi.planned j r hr) ht
    ⟨plannedParts_numbers, htiles, fun _ hb => htiles.once (Nat.zero_le _) hb⟩
  parts := hi.parts j

/-- **Uploaded under one token**, in every run in which no stored token is replaced. -/
theorem uploaded_under_token [UnicodeData] (contract : BilibiliOpenApiContract)
    {P : Pool PublishState Op Op.Ret}
    (h : ((publishing contract).restrict (PoolLabel.meets KeepsToken)).Reachable P)
    (j : PublishJobId) : Uploaded j P.state :=
  (pool_amid (conduct contract) (fun _ => inv_fresh) (fun _ hp _ hi => offered_amid hp hi) h).uploaded j

open Scene
open scoped Editing.Racing

/-- One upload after the other. -/
def orderly : Pool PublishState Op Op.Ret :=
  (Pool.play exec (prepared ++ alone 1 (uploadVideo Scene.contract 1).ended 10)
    (start (obliging clip ['a'] 5))).2

theorem orderly_uploaded :
    (orderly.state.db.attempt? 1).map (·.phase) = some .videoUploaded ∧
      Uploaded 1 orderly.state := by
  refine ⟨rfl, uploaded_under_token Scene.contract ⟨_, _, start_init, Pool.run_play ?_ ?_⟩ 1⟩
  · exact ⟨.prepare .., .uploadVideo _, trivial⟩
  · decide

/-! ## Two uploads of one file -/

/-- Both uploads find no token. The first one opens a session, then the second one; then the
first one sends its bytes. -/
def mixed : List (Turn Op Op.Ret) :=
  prepared ++
    [.start (uploadVideo Scene.contract 1).ended, .start (uploadVideo Scene.contract 1).ended,
      .next 1, .next 2] ++
    List.replicate 5 (.next 1) ++ alone 3 (call (.world (obliging clip ['b'] 5))).ended 1 ++
    List.replicate 5 (.next 2) ++ List.replicate 5 (.next 1)

def mixedUp : Pool PublishState Op Op.Ret :=
  (Pool.play exec mixed (start (obliging clip ['a'] 5))).2

/-- **Counterexample**: the video counts as uploaded under a token under which nothing was
sent. -/
theorem nothing_under_token :
    (publishing Scene.contract).Reachable mixedUp ∧ ¬Uploaded 1 mixedUp.state := by
  constructor
  · refine ⟨_, _, start_init, (Pool.run_play (H := fun _ _ => True) ?_
      Pool.meetsAll_true).of_restrict⟩
    exact ⟨.prepare .., .uploadVideo _, .uploadVideo _, .world _, trivial⟩
  · intro h
    have hrow : (mixedUp.state.db.attempt? 1).map (fun r => (r.phase, r.uploadToken, r.uploadType,
        r.material)) = some (.videoUploaded, some ['b'], .small, clip) := by rfl
    obtain ⟨r, hr, hfields⟩ := Option.map_eq_some_iff.1 hrow
    simp only [Prod.mk.injEq] at hfields
    obtain ⟨hp, ht, hu, hm⟩ := hfields
    obtain ⟨t, ht', hall⟩ := h.all r hr (by rw [hp]; decide)
    cases ht.symm.trans ht'
    unfold AckedAll at hall
    rw [hu, hm] at hall
    have hmem := List.mem_map_of_mem (f := Heard.query) hall
    exact absurd hmem (by decide)

end AutomationTool.Bugs.MixedTokens
