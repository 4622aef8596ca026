import AutomationTool.Core.Permit
import AutomationTool.Core.Schedule
import AutomationTool.Editing.TimelineService
import AutomationTool.Publishing.System

/-!
# One creation request per job

`single_admission`: in every interleaving of the publishing services' methods, with crashes
and any answers of the platform, the request that creates the archive of a job is made at
most once; its attempt goes through the phases in their order and keeps the request it was
prepared with; its reconciliation row, once settled, does not change.

The request needs the admission (`licence`), and the one `UPDATE` that grants it moves the
attempt out of the only phase it is granted in.
-/
namespace AutomationTool.Publishing

open Protocol
open Editing (UnicodeData)
open Prog (licensed_bindE licensed_of_uses licensed_mono uses_bindE)

/-! ## What an attempt goes through -/

/-- The phase after a phase. -/
inductive BilibiliPublishPhase.Next : BilibiliPublishPhase → BilibiliPublishPhase → Prop where
  | uploaded : Next .prepared .videoUploaded
  | dispatched : Next .videoUploaded .dispatched
  | submitted : Next .dispatched .submitted
  | failed : Next .dispatched .failed
  | outcomeUncertain : Next .dispatched .outcomeUncertain

/-- The request, and the fingerprint it was prepared with. -/
def SameRequest (r r' : BilibiliPublishAttemptRecord) : Prop :=
  r'.requestDigest = r.requestDigest ∧ r'.material = r.material ∧ r'.fields = r.fields ∧
    r'.hasCover = r.hasCover

/-- An attempt starts prepared, stays in its phase or moves to the next, and never leaves. -/
def Follows : Option BilibiliPublishAttemptRecord → Option BilibiliPublishAttemptRecord → Prop
  | none, none => True
  | none, some r => r.phase = .prepared
  | some r, some r' => r'.phase = r.phase ∨ r.phase.Next r'.phase
  | some _, none => False

/-- What is stored for the job for good: its request, and a settled reconciliation row. -/
def Kept (j : PublishJobId) (s s' : PublishState) : Prop :=
  (∀ r, s.db.attempt? j = some r → ∃ r', s'.db.attempt? j = some r' ∧ SameRequest r r') ∧
  ∀ r, s.db.reconciliation? j = some r → r.outcome ≠ .pending → s'.db.reconciliation? j = some r

variable {j : PublishJobId} {o : Op}

theorem AttemptMove.follows {a a' : Option BilibiliPublishAttemptRecord}
    (h : AttemptMove j o a a') : Follows a a' := by
  cases h with
  | prepared _ hp => exact hp
  | uploadToken => exact .inl rfl
  | videoUploaded hp => exact .inr (hp ▸ .uploaded)
  | coverUrl => exact .inl rfl
  | dispatched hp => exact .inr (hp ▸ .dispatched)
  | submitted hp => exact .inr (hp ▸ .submitted)
  | failed hp => exact .inr (hp ▸ .failed)
  | outcomeUncertain hp => exact .inr (hp ▸ .outcomeUncertain)

theorem AttemptMove.same {a a' : Option BilibiliPublishAttemptRecord} (h : AttemptMove j o a a')
    {r : BilibiliPublishAttemptRecord} (hr : a = some r) :
    ∃ r', a' = some r' ∧ SameRequest r r' := by
  cases h <;> cases hr <;> exact ⟨_, rfl, rfl, rfl, rfl, rfl⟩

theorem Follows.refl (a : Option BilibiliPublishAttemptRecord) : Follows a a := by
  cases a with
  | none => exact trivial
  | some r => exact .inl rfl

theorem follows_exec (o : Op) (s : PublishState) (j : PublishJobId) :
    Follows (s.db.attempt? j) ((exec o s).2.db.attempt? j) := by
  rcases attempt?_exec o s j with h | h
  · rw [h]
    exact .refl _
  · exact h.follows

/-- A settled row is left alone. -/
theorem reconciliation?_settled (o : Op) (s : PublishState) {r : BilibiliReconciliationRecord}
    (hr : s.db.reconciliation? j = some r) (hsettled : r.outcome ≠ .pending) :
    (exec o s).2.db.reconciliation? j = some r := by
  rcases reconciliation?_exec o s j with h | h
  · rw [h, hr]
  · rw [hr] at h
    generalize (exec o s).2.db.reconciliation? j = r' at h
    cases h <;> exact absurd ‹_› hsettled

theorem Kept.refl (s : PublishState) : Kept j s s :=
  ⟨fun r hr => ⟨r, hr, rfl, rfl, rfl, rfl⟩, fun _ hr _ => hr⟩

theorem Kept.trans {a b c : PublishState} (hab : Kept j a b) (hbc : Kept j b c) : Kept j a c := by
  constructor
  · intro r hr
    obtain ⟨r', hr', h1, h2, h3, h4⟩ := hab.1 r hr
    obtain ⟨r'', hr'', k1, k2, k3, k4⟩ := hbc.1 r' hr'
    exact ⟨r'', hr'', k1.trans h1, k2.trans h2, k3.trans h3, k4.trans h4⟩
  · intro r hr hsettled
    exact hbc.2 r (hab.2 r hr hsettled) hsettled

theorem kept_exec (o : Op) (s : PublishState) : Kept j s (exec o s).2 := by
  refine ⟨fun r hr => ?_, fun r hr hsettled => reconciliation?_settled o s hr hsettled⟩
  rcases attempt?_exec o s j with h | h
  · exact ⟨r, h.trans hr, rfl, rfl, rfl, rfl⟩
  · exact h.same hr

/-! ## The admission -/

def admits (j : PublishJobId) : (o : Op) → o.Ret → Bool
  | .beginArchiveCreation i _, .ok true => i = j
  | _, _ => false

def requests (j : PublishJobId) : Op → Bool
  | .archiveAdd i .. => i = j
  | _ => false

/-- The creation request of the job needs its admission. -/
def licence (j : PublishJobId) : Licence Op Op.Ret := ⟨admits j, requests j⟩

/-- The attempt is past the phase the admission is granted in. -/
def Admitted (j : PublishJobId) (s : PublishState) : Prop :=
  ∃ r, s.db.attempt? j = some r ∧ r.phase ≠ .prepared ∧ r.phase ≠ .videoUploaded

theorem admitted_exec (o : Op) (s : PublishState) (h : Admitted j s) : Admitted j (exec o s).2 := by
  obtain ⟨r, hr, h1, h2⟩ := h
  have hf := follows_exec o s j
  rw [hr] at hf
  cases hr' : (exec o s).2.db.attempt? j with
  | none => rw [hr'] at hf; exact hf.elim
  | some r' =>
    rw [hr'] at hf
    refine ⟨r', hr', ?_⟩
    rcases hf with hf | hf
    · rw [hf]
      exact ⟨h1, h2⟩
    · revert h1 h2 hf
      generalize r.phase = p
      generalize r'.phase = p'
      rintro h1 h2 (_ | _ | _ | _ | _) <;> simp_all

theorem admitted_begin (o : Op) (s : PublishState) (h : (licence j).grants o (exec o s).1 = true) :
    ¬Admitted j s ∧ Admitted j (exec o s).2 := by
  cases o with
  | beginArchiveCreation i at' =>
    rw [show exec (.beginArchiveCreation i at') s = s.begin i at' from rfl] at h ⊢
    have hok : (s.db.beginArchiveCreation i at').1 = .ok true ∧ i = j := by
      revert h
      unfold PublishState.begin
      cases hx : (s.db.beginArchiveCreation i at').1 with
      | error e => simp [licence, admits, hx]
      | ok b => cases b <;> simp [licence, admits, hx]
    obtain ⟨hok, rfl⟩ := hok
    obtain ⟨r, hr, hp, hafter⟩ := begin_admits hok
    constructor
    · rintro ⟨r', hr', -, h2⟩
      rw [hr] at hr'
      cases hr'
      exact h2 hp
    · refine ⟨_, (congrArg (·.attempt? i) PublishState.begin_db).trans hafter, ?_, ?_⟩
      · exact nofun
      · exact nofun
  | _ => cases h

/-! ## Who makes the request -/

theorem requests_part {o : Op} (h : o.part ≠ .request) : (licence j).uses o = false := by
  cases o with
  | archiveAdd => exact absurd rfl h
  | _ => rfl

/-- A method that makes no creation request. -/
theorem licensed_other {α : Type} {x : Service α}
    (h : x.run.uses fun o => o.part ≠ .request) : x.run.licensed (licence j) false :=
  licensed_of_uses (Prog.uses_mono (fun _ ho => requests_part ho) h)

theorem not_request {p : Part} (hp : p ≠ .request) (o : Op) (h : o.part = p) :
    o.part ≠ .request := h ▸ hp

theorem dispatch_licensed {contract : BilibiliOpenApiContract}
    {record : BilibiliPublishAttemptRecord} {t : UploadToken} :
    (dispatch contract record t).run.licensed (licence j) (record.publishJobId = j) := by
  have hrest : (creationOutcome contract record).run.licensed (licence j) false :=
    licensed_other (creationOutcome_uses (not_request (by decide)) (not_request (by decide))
      (not_request (by decide)))
  exact ⟨id, fun r => by cases r <;> first | exact licensed_mono hrest _ | exact trivial⟩

theorem ended_licensed {α : Type} {x : Service α} (h : x.run.licensed (licence j) false) :
    x.ended.licensed (licence j) false := Prog.licensed_bind h fun _ => trivial

section

variable [UnicodeData] {contract : BilibiliOpenApiContract}

theorem admit_licensed {record : BilibiliPublishAttemptRecord} :
    (admitted contract record).run.licensed (licence j) false := by
  unfold admitted
  split
  · exact trivial
  split
  · exact trivial
  split
  · exact trivial
  refine licensed_bindE (licensed_other (uses_call nofun)) fun _ => ?_
  refine licensed_bindE (licensed_other (uses_call nofun)) fun now => ?_
  refine ⟨fun h => Bool.noConfusion h, fun r => ?_⟩
  cases r with
  | error e => exact trivial
  | ok admitted =>
    cases admitted with
    | true => exact dispatch_licensed
    | false => exact licensed_other (refreshedReceipt_uses (not_request (by decide)))

theorem createArchive_licensed {i : PublishJobId} :
    (createArchive contract i).run.licensed (licence j) false := by
  refine licensed_bindE (licensed_other (uses_loadAttempt (not_request (by decide))))
    fun record => ?_
  split
  · split <;> exact trivial
  · exact trivial
  · exact admit_licensed
  · exact trivial

theorem offered_licensed {p : Prog Op Op.Ret Unit} (h : Offered contract p) :
    p.licensed (licence j) false := by
  cases h with
  | prepare => exact ended_licensed (licensed_other (prepare_uses (not_request (by decide))
      fun _ => nofun))
  | uploadVideo => exact ended_licensed (licensed_other (uploadVideo_uses
      (not_request (by decide)) (not_request (by decide))))
  | uploadCover => exact ended_licensed (licensed_other (uploadCover_uses
      (not_request (by decide)) (not_request (by decide))))
  | createArchive => exact ended_licensed createArchive_licensed
  | submit i =>
    refine ended_licensed (licensed_bindE ?_ fun _ => ?_)
    · refine licensed_bindE (x := caught (createArchive contract i)) ?_ fun r => ?_
      · exact Prog.licensed_bind createArchive_licensed fun _ => trivial
      · split <;> exact trivial
    · refine licensed_bindE (licensed_other (openReconciliation_uses (not_request (by decide))
        (not_request (by decide)))) fun _ => trivial
  | recover => exact ended_licensed (licensed_other (recover_uses (not_request (by decide))
      (not_request (by decide)) (not_request (by decide))))
  | reconcileOnce => exact ended_licensed (licensed_other (reconcileOnce_uses
      (not_request (by decide)) (not_request (by decide)) (not_request (by decide))
      (not_request (by decide))))
  | applyNotification => exact ended_licensed (licensed_other (uses_bindE (uses_call nofun)
      fun _ => applyNotification_uses (not_request (by decide)) (not_request (by decide))))
  | world => exact ended_licensed (licensed_other (uses_call nofun))
  | created => exact ended_licensed (licensed_other (uses_call nofun))
  | lost => exact ended_licensed (licensed_other (uses_call nofun))

/-- **The job's archive is asked for once.** The request goes out at most once, the attempt
follows its phases, and what is kept for the job stays. -/
theorem single_admission (contract : BilibiliOpenApiContract) (j : PublishJobId) :
    (∀ P₀ ls P, (publishing contract).init P₀ → (publishing contract).Run P₀ ls P →
      ls.countP (PoolLabel.usesPermit (licence j)) ≤ 1) ∧
    (∀ P l P', (publishing contract).Reachable P → (publishing contract).step P l P' →
      Follows (P.state.db.attempt? j) (P'.state.db.attempt? j)) ∧
    ∀ P ls P', (publishing contract).Reachable P → (publishing contract).Run P ls P' →
      Kept j P.state P'.state := by
  refine ⟨fun P₀ ls P h0 hr => ?_, fun P l P' _ hs => ?_, fun P ls P' hP hr => ?_⟩
  · exact pool_uses_once (Admitted j) admitted_exec admitted_begin
      (fun p hp => offered_licensed hp) h0 hr
  · cases hs with
    | spawn => exact .refl _
    | turn => exact follows_exec _ _ _
    | crash => exact .refl _
  · have hT : (publishing contract).Inductive fun _ => True := ⟨fun _ _ => trivial, fun _ _ _ _ _ => trivial⟩
    refine hr.rel (R := fun P P' => Kept j P.state P'.state) hT (fun P => .refl P.state)
      (fun _ _ _ => .trans) ?_ trivial
    intro P l P' _ hs
    cases hs with
    | spawn => exact .refl _
    | turn => exact kept_exec _ _
    | crash => exact .refl _

end

/-! ## Two callers create one archive -/

namespace Scene

open scoped Editing.Racing

def contract : BilibiliOpenApiContract where
  partSizeBytes := 4
  maxPartCount := 10
  smallFileMaxBytes := 8
  videoMaxBytes := 40
  videoMaxDurationSeconds := 60
  coverMaxBytes := 10
  titleMaxChars := 10
  descriptionMaxChars := 10
  tagTotalMaxChars := 10
  pageSizeMax := 10
  errorCategories _ := none
  partSize_pos := Nat.succ_pos _
  parts_fit := by decide

def material (size : Nat) (h : 1 ≤ size) : BilibiliPublishMaterial :=
  { fileName := ['v', '.', 'm', 'p', '4'], sizeBytes := size, durationSeconds := 1, sha256 := 1,
    size_pos := h, duration_pos := Nat.one_pos }

def fields : BilibiliArchiveFields := ⟨['t'], 1, ['t'], 1, none, none, 0⟩

/-- The archive of the job. -/
def archive : ArchiveStatusSnapshot := ⟨⟨['B', 'V'] ++ List.replicate 10 '1', rfl⟩, ['t'], 0, 0⟩

/-- At time `t` the platform does what it is asked for. -/
def obliging (m : BilibiliPublishMaterial) (token : UploadToken) (t : Time) : World
  | .now => some t
  | .currentAccessToken => some ()
  | .refreshAccessToken => some ()
  | .validateMaterial => some (some m)
  | .readRange .. => some ()
  | .uploadInit .. => some (.data token)
  | .uploadPart .. => some (.data ())
  | .uploadComplete _ => some (.data ())
  | .uploadSmallFile .. => some (.data ())
  | .archiveAddAnswer _ => some (.data archive.resourceId)
  | .archiveView _ => some (.data archive)
  | .archiveViewlist .. => some (.data ⟨[], 1, 0⟩)
  | _ => none

def start (w : World) : Pool PublishState Op Op.Ret := ⟨⟨.empty, w, [], fun _ => none, []⟩, []⟩

theorem start_init {w : World} : (publishing contract).init (start w) := ⟨⟨rfl, rfl, rfl⟩, rfl⟩

/-- A small file, and the job that publishes it. -/
def clip : BilibiliPublishMaterial := material 1 Nat.one_pos

def prepared : List (Turn Op Op.Ret) := alone 0 (prepare contract 1 clip fields false).ended 2

theorem prepared_offers : Offers (Offered contract) prepared := offers_alone.2 (.prepare ..)

/-- The video is uploaded; then two callers race for the admission. -/
def racing : List (Turn Op Op.Ret) :=
  prepared ++ alone 1 (uploadVideo contract 1).ended 10 ++
    [.start (createArchive contract 1).ended, .start (createArchive contract 1).ended] ++
    (List.replicate 8 [.next 2, .next 3]).flatten

theorem racing_run : (publishing contract).Run (start (obliging clip ['a'] 5))
    (Pool.play exec racing (start (obliging clip ['a'] 5))).1
    (Pool.play exec racing (start (obliging clip ['a'] 5))).2 := by
  refine (Pool.run_play (H := fun _ _ => True) ?_ Pool.meetsAll_true).of_restrict
  simp only [racing, offers_append, offers_alone, offers_start]
  exact ⟨⟨⟨prepared_offers, .uploadVideo _⟩, .createArchive _, .createArchive _, trivial⟩, trivial⟩

/-- One of the two asks for the archive. -/
theorem racing_once :
    (Pool.play exec racing (start (obliging clip ['a'] 5))).1.countP
        (PoolLabel.usesPermit (licence 1)) = 1 ∧
      (Pool.play exec racing (start (obliging clip ['a'] 5))).1.countP
        (PoolLabel.usesPermit (licence 1)) ≤ 1 :=
  ⟨by rfl, (single_admission contract 1).1 _ _ _ start_init racing_run⟩

end Scene

end AutomationTool.Publishing
