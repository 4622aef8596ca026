import AutomationTool.Executor.PublishOperation

/-!
# An approval spent on another job

Behaviour (platform_commands.py:654-793): a preflight asks
for the publish job it fills the form for and then forgets it. A dispatch names a job again,
and only its approval is compared with what the page is held for. The click is made, and the
ledger records it, for whatever job the dispatch names.

Evidence: the comment of `PlatformCommand`, "it must carry the job and the approval and nothing
that could contradict what was filled and confirmed"; the docstring of `DouyinPublishRelease`,
"Press publish once for one confirmed job"; `_confirmation_still_holds`, which holds against
the receipt everything a confirmation carries but its job.

Counterexample: a ready preflight for one job, and a dispatch of another job with its approval.

`publish_guarded`: in every history in which each dispatch names the job of the last preflight
before it, an approval leads to one click at most, a click finds the page held since a ready
preflight for the same job, content and approval, and a command that takes the surface or
gives it back voids the approval. All but the job holds of every history.
-/
namespace AutomationTool.Bugs.OtherJob

open Executor Executor.PublishOperation
open Executor.Ledger (PublishJobId)

/-- The command clicked with the approval. -/
def clicks (c : ConfirmationId) (e : Event) : Bool :=
  e.2.clicked.any fun k => k.confirmationId = c

/-- What guards the publish button. -/
structure Guarded (history : List Event) : Prop where
  /-- Each approval leads to at most one click. -/
  once : ∀ c, history.countP (clicks c) ≤ 1
  /-- A click finds the page held since a ready preflight for the same job, content and
  approval. -/
  held : ∀ later e earlier k, history = later ++ e :: earlier → k ∈ e.2.clicked →
    ∃ account, Held earlier k.publishJobId ⟨k.confirmationId, k.contentHash, account, k.window⟩
  /-- Once a command took the surface or gave it back, an approval presented before it is not
  clicked with. -/
  voided : ∀ later e between p before x, history = later ++ e :: (between ++ p :: before) →
    x ∈ p.2.presented → e.1.surface = true → Unclicked later x.confirmationId

/-- The job of the last preflight. -/
def lastJob : List Input → Option PublishJobId
  | [] => none
  | .preflight m _ :: _ => some m.publishJobId
  | _ :: inputs => lastJob inputs

/-- The condition: each dispatch names the job of the last preflight before it. -/
def NamesJob : List Input → Prop :=
  Chronicle fun earlier i => ∀ m p, i = .dispatch m p → ∀ j ∈ lastJob earlier, m.publishJobId = j

theorem countP_clicks {history : List Event} {c : ConfirmationId} (h : Unclicked history c) :
    history.countP (clicks c) = 0 := by
  rw [List.countP_eq_zero]
  intro e he hc
  simp only [clicks, Option.any_eq_true, decide_eq_true_eq] at hc
  obtain ⟨k, hk, hid⟩ := hc
  exact h e he k hk hid

/-- **At most one click.** -/
theorem clicked_once {history : List Event} (h : Chronicle Follows history) (c : ConfirmationId) :
    history.countP (clicks c) ≤ 1 := by
  induction history with
  | nil => exact Nat.zero_le _
  | cons e history ih =>
    rw [List.countP_cons]
    by_cases he : clicks c e = true
    · have hk := he
      simp only [clicks, Option.any_eq_true, decide_eq_true_eq] at hk
      obtain ⟨k, hk, rfl⟩ := hk
      have hnone := countP_clicks (h.1.unclicked k hk)
      rw [if_pos he]
      omega
    · rw [if_neg he]
      exact ih h.2

/-- The page a click finds was held since a ready preflight, whatever its job. -/
theorem clicked_held {later earlier : List Event} {e : Event} {k : Click}
    (h : Chronicle Follows (later ++ e :: earlier)) (hk : k ∈ e.2.clicked) :
    ∃ m p job x, e.1 = .dispatch m p ∧ Held earlier job x ∧
      k = ⟨x.window, m.publishJobId, x.contentHash, x.confirmationId⟩ :=
  h.of_split.1.held k hk

/-- Where the page is still held, nothing took the surface since its approval was presented. -/
theorem undisturbed_of_held {history between before : List Event} {e p : Event} {job : PublishJobId}
    {x y : Presented} (hheld : Held (history ++ e :: (between ++ p :: before)) job x)
    (h : Chronicle Follows (history ++ e :: (between ++ p :: before))) (hy : y ∈ p.2.presented)
    (hid : y.confirmationId = x.confirmationId) : e.1.surface = false := by
  obtain ⟨since, m, c, out, rest, heq, -, -, hx, -, hsince⟩ := hheld
  -- an approval is presented once, so the preflight is no later than `e`
  have hnew : ∀ earlier, p ∈ earlier → ∀ later,
      history ++ e :: (between ++ p :: before) = later ++ (.preflight m c, out) :: earlier →
      False := by
    intro earlier hp later heq
    rw [heq] at h
    exact h.of_split.1.presented x (Option.mem_def.2 hx) p hp y hy hid
  have hp : p ∈ between ++ p :: before := List.mem_append_right _ List.mem_cons_self
  obtain ⟨as, rfl, has⟩ | ⟨cs, rfl, hcs⟩ := List.append_eq_append_iff.1 heq
  · cases as with
    | nil =>
      obtain ⟨rfl, rfl⟩ := List.cons.inj has
      exact (hnew _ hp _ rfl).elim
    | cons a as =>
      obtain ⟨rfl, -⟩ := List.cons.inj has
      exact (hsince e (List.mem_append_right _ List.mem_cons_self)).1
  · cases cs with
    | nil =>
      obtain ⟨rfl, rfl⟩ := List.cons.inj hcs
      exact (hnew _ hp _ heq).elim
    | cons a cs =>
      obtain ⟨rfl, rfl⟩ := List.cons.inj hcs
      exact (hnew _ (List.mem_append_right _ (List.mem_cons_of_mem _ hp)) _ heq).elim

/-- **A surface command voids the approval.** -/
theorem voided_unclicked {later between before : List Event} {e p : Event} {x : Presented}
    (h : Chronicle Follows (later ++ e :: (between ++ p :: before))) (hx : x ∈ p.2.presented)
    (he : e.1.surface = true) : Unclicked later x.confirmationId := by
  intro d hd k hk hid
  obtain ⟨l₁, l₂, rfl⟩ := List.append_of_mem hd
  rw [List.append_assoc, List.cons_append] at h
  obtain ⟨m, q, job, y, -, hheld, rfl⟩ := clicked_held h hk
  have hfree := undisturbed_of_held hheld h.of_split.2 hx hid.symm
  exact Bool.false_ne_true (hfree.symm.trans he)

/-- The last preflight before a held page is the one it is held since. -/
theorem lastJob_of_held {history : List Event} {job : PublishJobId} {x : Presented}
    (h : Held history job x) : lastJob (history.map Prod.fst) = some job := by
  obtain ⟨between, m, c, out, before, rfl, rfl, -, -, -, hb⟩ := h
  induction between with
  | nil => rfl
  | cons e between ih =>
    obtain ⟨i, o⟩ := e
    have hfree := (hb (i, o) List.mem_cons_self).1
    cases i with
    | preflight m' c' => exact absurd hfree.symm Bool.false_ne_true
    | session _ | dispatch _ _ | release | close | ledger _ =>
      exact ih fun e' he' => hb e' (List.mem_cons_of_mem _ he')

/-- **The publish button.** In every history whose dispatches name the job of the last preflight
before them, the button is guarded. -/
theorem publish_guarded {R : Rules} {history : List Event} {s : State}
    (h : Reaches R history s) (hn : NamesJob (history.map Prod.fst)) : Guarded history := by
  obtain ⟨hc, -⟩ := h.inv
  refine ⟨clicked_once hc, ?_, ?_⟩
  · rintro later ⟨i, out⟩ earlier k rfl hk
    obtain ⟨m, p, job, x, hi, hheld, rfl⟩ := clicked_held hc hk
    rw [List.map_append, List.map_cons] at hn
    have hjob := hn.of_split.1 m p hi job (Option.mem_def.2 (lastJob_of_held hheld))
    subst hjob
    exact ⟨x.targetAccount, hheld⟩
  · rintro later e between p before x rfl hx he
    exact voided_unclicked hc hx he

namespace Concrete

def intentHash (_ : DouyinPublishPreflightIntent) : Ledger.Digest := .bytes 7

def rules : Rules where
  site := ⟨0, 0, fun _ => 0⟩
  publishPolicy := ⟨60, 100, by decide, by decide, Nat.succ_pos _,
    (by decide : Ledger.maxLocalTaskActions ≥ 100)⟩
  unsafeField := fun _ _ => false
  contentHash := intentHash
  verificationFingerprint := id

def ready : PreflightConduct where
  opened := .artifact ⟨.bytes 1, "video/mp4".toList, 1000⟩
  launch := .started
  page :=
    { ownedAtEntry := true, entry := some ⟨.awaitingArtifact, .artifactInputVisible⟩
      ownedAtUpload := true, unchanged := true, uploaded := true, stillUnchanged := true
      form := some ⟨.formReady, .formAnchorsVisible⟩, ownedAtFill := true, filledIn := true
      filled := some ⟨.formReady, .formAnchorsVisible⟩, armed := some true
      account := some "shop".toList }

def listed : ReleasePage where
  policyBound := true
  owned := true
  preparedAt := some 10
  form := some ⟨.formReady, .formAnchorsVisible⟩
  armed := some true
  controlFound := true
  stillOwned := true
  meanwhile := []
  dispatchedAt := some 20
  click := .done
  works := some ⟨.worksListReady, .workListVisible⟩
  listed := some 1
  later := []
  verifiedAt := some 30
  uncertainAt := some 40

/-- The preflight of job 1. -/
def filled : Input := .preflight ⟨1, "title".toList, "text".toList⟩ ready

/-- The dispatch of a job with the first approval. -/
def pressed (job : PublishJobId) : Input := .dispatch ⟨job, 0⟩ listed

def held : State := (handle rules filled (.start .empty)).2

/-- Job 1 is filled, then the job is dispatched. -/
def history (job : PublishJobId) : List Event :=
  [(pressed job, (handle rules (pressed job) held).1),
    (filled, (handle rules filled (.start .empty)).1)]

theorem history_reaches (job : PublishJobId) :
    Reaches rules (history job) (handle rules (pressed job) held).2 :=
  (Reaches.start .empty).next filled |>.next (pressed job)

theorem pressed_clicks : (handle rules (pressed 2) held).1.clicked = some ⟨0, 2, .bytes 7, 0⟩ := by
  decide +kernel

end Concrete

open Concrete in
/-- **Counterexample**: the page filled for job 1 is published as job 2. -/
theorem other_job_published : ¬∀ (R : Rules) (history : List Event) (s : State),
    Reaches R history s → Guarded history := by
  intro h
  obtain ⟨account, hheld⟩ := (h rules _ _ (history_reaches 2)).held [] _ _ _ rfl pressed_clicks
  have hjob := lastJob_of_held hheld
  cases hjob

open Concrete in
/-- The page filled for job 1 is published as job 1. -/
theorem own_job_published : Guarded (history 1) := by
  refine publish_guarded (history_reaches 1) ⟨?_, ?_, trivial⟩
  · intro m p hi j hj
    cases hi
    cases hj
    rfl
  · intro m p hi
    cases hi

end AutomationTool.Bugs.OtherJob
