import AutomationTool.Executor.PublishOperation

/-!
# An older work of the same title

Behaviour (publish_release.py:401-466,
publish_page.py:489-515): after the click the works list is opened, and the rows with the
title that was filled in are counted. One row settles the dispatch as verified. Nothing
compares the list with what it was before the click.

Evidence: the module's docstring, "only a list that names this work exactly once settles the
dispatch as verified", "then prove it independently"; the row that is counted may be another
work of this title.

Counterexample: an older work has the title, the click creates nothing, and the list shows the
older work.

* `accepted`: the table of `__post_init__`.
* `runRelease_ends`: how a run may end, whatever the page shows and whichever step of the
  ledger fails.
* `verified_own_iff`: every receipt is accepted and none after a click says that nothing was
  dispatched; and on a platform a verified run has created its work, unless the click created
  none and the list shows one work of the title.
-/
namespace AutomationTool.Bugs.SameTitle

open Executor Executor.PublishOperation
open Executor.Ledger (Digest EffectRecord PublishJobId Reply)

/-! ## The works list -/

/-- The works list when it is read, by the titles of its rows after `strip`; `none` where it
cannot be read. -/
abbrev Listing := Option (List (List Char))

/-- `MAX_DOUYIN_PUBLISH_WORKS_READ`. -/
def maxWorksRead : Nat := 50

/-- mirrors publish_page.py:489-515 -/
def worksTitled (listing : Listing) (title : List Char) : Option Nat :=
  listing.bind fun rows =>
    if maxWorksRead < rows.length then none else some (rows.countP fun row => row = title)

/-- The page of a run whose works list is read as `listing`. -/
def shows (p : ReleasePage) (listing : Listing) (title : List Char) : ReleasePage :=
  { p with listed := worksTitled listing title }

/-! ## Receipts -/

/-- mirrors publish_release.py:95-101 -/
def noEffectEvidence : List DouyinPublishReleaseEvidence :=
  [.staleConfirmation, .surfaceLost, .ledgerUnavailable]

/-- mirrors publish_release.py:102-113 -/
def preparedEvidence : List DouyinPublishReleaseEvidence :=
  [.staleConfirmation, .formNotReady, .submitControlDisabled, .prepareUnavailable, .surfaceLost,
    .dispatchPermissionRejected]

/-- mirrors publish_release.py:114-126 -/
def postDispatchEvidence : List DouyinPublishReleaseEvidence :=
  [.dispatchTimedOut, .dispatchUnavailable, .worksListLoginRequired, .worksListRiskChallenge,
    .worksListUnavailable, .workNotListed, .workListedAmbiguously, .verificationUnavailable,
    .replayUncertain]

/-- What the constructor of a receipt lets through.
mirrors publish_release.py:180-226 -/
def accepted (r : DouyinPublishReleaseReceipt) : Bool :=
  let noEffect := r.state = .notDispatched && noEffectEvidence.contains r.evidence &&
    r.dispatchState = none && r.dispatchRevision = none && !r.replayed
  let prepared := r.state = .notDispatched && preparedEvidence.contains r.evidence &&
    r.dispatchState = some .prepared && r.dispatchRevision = some 1 && !r.replayed
  let verified := r.state = .verified && [.workListed, .replayVerified].contains r.evidence &&
    r.dispatchState = some .verified && r.dispatchRevision = some 3 &&
    r.replayed = (r.evidence = .replayVerified)
  let uncertain := r.state = .outcomeUncertain && postDispatchEvidence.contains r.evidence &&
    (r.dispatchState = some .dispatched && r.dispatchRevision = some 2 ||
      r.dispatchState = some .uncertain && r.dispatchRevision = some 3) &&
    r.replayed = (r.evidence = .replayUncertain)
  noEffect || prepared || verified || uncertain

/-- What holds of every run: the constructor accepts its receipt, and after a click there is
one, which does not say that nothing was dispatched. -/
structure Orderly (run : ReleaseRun) : Prop where
  accepted : ∀ r ∈ run.receipt, accepted r = true
  undispatched : ∀ r ∈ run.receipt, r.state = .notDispatched → run.clicked = false
  answered : run.clicked = true → ∃ r, run.receipt = some r ∧ r.state ≠ .notDispatched

/-- A run that says its work is listed has clicked, and the click created the work. -/
def Own (created : Bool) (run : ReleaseRun) : Prop :=
  ∀ r ∈ run.receipt, r.state = .verified → r.replayed = false →
    run.clicked = true ∧ created = true

/-! ## How a run ends -/

/-- How a run ends on a page. -/
inductive Ends (p : ReleasePage) : ReleaseRun → Prop where
  | raised {run : ReleaseRun} (hreceipt : run.receipt = none) (hclicked : run.clicked = false) :
      Ends p run
  | unpressed {run : ReleaseRun} {r : DouyinPublishReleaseReceipt}
      (hreceipt : run.receipt = some r) (hclicked : run.clicked = false)
      (haccepted : accepted r = true) (hreplayed : r.state = .verified → r.replayed = true) :
      Ends p run
  | pressed {run : ReleaseRun} {r : DouyinPublishReleaseReceipt}
      (hreceipt : run.receipt = some r) (hclicked : run.clicked = true)
      (haccepted : accepted r = true) (hstate : r.state ≠ .notDispatched)
      (hlisted : r.state = .verified → p.listed = some 1) : Ends p run

theorem Ends.orderly {p : ReleasePage} {run : ReleaseRun} (h : Ends p run) : Orderly run := by
  cases h with
  | raised hreceipt hclicked =>
    refine ⟨?_, ?_, ?_⟩ <;> simp [hreceipt, hclicked]
  | unpressed hreceipt hclicked haccepted =>
    refine ⟨?_, ?_, ?_⟩ <;> simp [hreceipt, hclicked, haccepted]
  | pressed hreceipt hclicked haccepted hstate =>
    refine ⟨?_, ?_, ?_⟩ <;> simp [hreceipt, hclicked, haccepted, hstate]

/-- A verified run that is no replay has read the title once. -/
theorem Ends.own {p : ReleasePage} {run : ReleaseRun} {created : Bool} (h : Ends p run)
    (hp : created = true ∨ p.listed ≠ some 1) : Own created run := by
  intro r hr hstate hreplayed
  cases h with
  | raised hreceipt => simp [hreceipt] at hr
  | unpressed hreceipt hclicked haccepted hreplay =>
    cases hreceipt.symm.trans hr
    rw [hreplay hstate] at hreplayed
    cases hreplayed
  | pressed hreceipt hclicked haccepted hno hlisted =>
    cases hreceipt.symm.trans hr
    refine ⟨hclicked, ?_⟩
    cases hp with
    | inl hcreated => exact hcreated
    | inr hne => exact absurd (hlisted hstate) hne

variable {R : Rules} {c : DouyinPublishConfirmation} {p : ReleasePage} {job : PublishJobId}

/-- A dispatch that is found spent is reported, not repeated. -/
theorem receiptForExisting_accepted {reply : Reply EffectRecord} {r : DouyinPublishReleaseReceipt}
    (h : receiptForExisting job reply = some r) :
    accepted r = true ∧ (r.state = .verified → r.replayed = true) := by
  have hrevision := reply.value.revision_eq
  simp only [receiptForExisting] at h
  split at h
  · cases h
  · rename_i hspent
    split at h
    · rename_i hs
      cases h
      rw [hs] at hrevision
      simp [accepted, dispatchReceipt, hs, hrevision]
    · rename_i hs
      cases h
      cases hstate : reply.value.state <;> rw [hstate] at hrevision <;>
        simp_all [accepted, dispatchReceipt, postDispatchEvidence]

/-- A settlement answers with the state it asks for. -/
theorem settlePublishDispatch_state {s s' : Ledger} {j : PublishJobId} {h₀ : Digest}
    {v : Option Digest} {t : Protocol.Time} {reply : Reply EffectRecord}
    (h : s.settlePublishDispatch j h₀ v t = some (reply, s')) :
    reply.value.state = Dispatch.State.outcome v := by
  obtain ⟨x, hx, h⟩ := Option.bind_eq_some_iff.1 h
  obtain ⟨-, h⟩ := Ledger.require_eq_some.1 h
  split at h
  · rename_i hs
    obtain ⟨-, h⟩ := Ledger.require_eq_some.1 h
    cases h
    exact hs
  · obtain ⟨⟨hs, hle⟩, h⟩ := Ledger.require_eq_some.1 h
    cases h
    obtain ⟨d, hd, -⟩ := x.dispatchedAt_of_dispatched hs
    exact (Dispatch.Record.settle_of_dispatched hs hd (hle d hd)).1

/-- A permission is given out of a prepared dispatch; else the dispatch was spent before. -/
theorem beginPublishDispatch_state {s s' : Ledger} {j : PublishJobId} {h₀ : Digest}
    {t : Protocol.Time} {i : Nat} {reply : Reply EffectRecord}
    (h : s.beginPublishDispatch j h₀ t i = some (reply, s'))
    (hnone : receiptForExisting job reply = none) : reply.value.state = .dispatched := by
  obtain ⟨x, hx, h⟩ := Option.bind_eq_some_iff.1 h
  obtain ⟨-, h⟩ := Ledger.require_eq_some.1 h
  split at h
  · rename_i hs
    cases h
    simp only [receiptForExisting, hs, Bool.true_eq_false, or_self, if_false] at hnone
    split at hnone <;> cases hnone
  · rename_i hs
    obtain ⟨⟨-, hle, -⟩, h⟩ := Ledger.require_eq_some.1 h
    cases h
    exact (Dispatch.Record.grant_of_prepared (not_not.1 hs) hle).1

/-- A receipt of a run that clicked. -/
structure Settled (p : ReleasePage) (r : DouyinPublishReleaseReceipt) : Prop where
  accepted : accepted r = true
  dispatched : r.state ≠ .notDispatched
  listed : r.state = .verified → p.listed = some 1

theorem Settled.ends {r : DouyinPublishReleaseReceipt} (h : Settled p r)
    (gate : SideEffectConfirmationGate) (ledger : Ledger) : Ends p ⟨some r, gate, ledger, true⟩ :=
  .pressed rfl rfl h.accepted h.dispatched h.listed

theorem worksListEvidence_mem (works : DouyinPublishPageObservation) :
    worksListEvidence works ∈ postDispatchEvidence.erase .replayUncertain := by
  obtain ⟨state, evidence⟩ := works
  cases state <;> simp only [worksListEvidence] <;> decide

/-- The outcome of a click that nothing proves. -/
theorem uncertain_settled {dispatched : EffectRecord} {ledger : Ledger}
    (hd : dispatched.state = .dispatched) {evidence : DouyinPublishReleaseEvidence}
    (he : evidence ∈ postDispatchEvidence.erase .replayUncertain) :
    Settled p (uncertain R c p evidence dispatched ledger).1 := by
  have hevidence : evidence ∈ postDispatchEvidence ∧ evidence ≠ .replayUncertain := by
    cases evidence <;> revert he <;> decide
  have hrecord : ∀ x : EffectRecord, x.state = .dispatched ∨ x.state = .uncertain →
      accepted (dispatchReceipt c.publishJobId .outcomeUncertain evidence x false) = true := by
    intro x hx
    have hrevision := x.revision_eq
    obtain hx | hx := hx <;> rw [hx] at hrevision <;>
      simp [accepted, dispatchReceipt, hx, hrevision, hevidence]
  refine ⟨hrecord _ ?_, nofun, nofun⟩
  cases p.uncertainAt with
  | none => exact .inl hd
  | some t =>
    simp only [Ledger.exec]
    cases hm : ledger.settlePublishDispatch c.publishJobId c.contentHash none t with
    | none => exact .inl hd
    | some settled => exact .inr (settlePublishDispatch_state (v := none) hm)

/-- What the works list leads to. -/
theorem settleAgainstWorksList_settled {dispatched : EffectRecord} {ledger : Ledger}
    (hd : dispatched.state = .dispatched) :
    Settled p (settleAgainstWorksList R c p dispatched ledger).1 := by
  simp only [settleAgainstWorksList]
  split
  · exact uncertain_settled hd (by decide)
  · rename_i works _
    split
    · exact uncertain_settled hd (worksListEvidence_mem works)
    · split
      · exact uncertain_settled hd (by decide)
      · exact uncertain_settled hd (by decide)
      · rename_i hlisted
        split
        · exact uncertain_settled hd (by decide)
        · rename_i t _
          simp only [Ledger.exec]
          cases hv : ledger.settlePublishDispatch c.publishJobId c.contentHash
            (some (R.verificationFingerprint c.contentHash)) t with
          | none => exact uncertain_settled hd (by decide)
          | some settled =>
            obtain ⟨reply, next⟩ := settled
            have hstate : reply.value.state = .verified := settlePublishDispatch_state hv
            have hrevision := reply.value.revision_eq
            rw [hstate] at hrevision
            refine ⟨?_, nofun, fun _ => hlisted⟩
            simp [accepted, dispatchReceipt, hstate, hrevision]
      · exact uncertain_settled hd (by decide)

/-! ## The stages of a run -/

theorem press_ends {dispatched : EffectRecord} {gate : SideEffectConfirmationGate} {ledger : Ledger}
    (hd : dispatched.state = .dispatched) : Ends p (press R c p dispatched gate ledger) := by
  simp only [press]
  cases p.click with
  | timedOut => exact (uncertain_settled hd (by decide)).ends gate _
  | failed => exact (uncertain_settled hd (by decide)).ends gate _
  | done => exact (settleAgainstWorksList_settled hd).ends gate _

theorem prepared_ends {evidence : DouyinPublishReleaseEvidence} {gate : SideEffectConfirmationGate}
    {ledger : Ledger} (he : evidence ∈ preparedEvidence) :
    Ends p ⟨some (preparedReceipt job evidence), gate, ledger, false⟩ := by
  refine .unpressed rfl rfl ?_ nofun
  simp [accepted, preparedReceipt, he]

theorem empty_ends {evidence : DouyinPublishReleaseEvidence} {gate : SideEffectConfirmationGate}
    {ledger : Ledger} (he : evidence ∈ noEffectEvidence) :
    Ends p ⟨some (emptyReceipt job evidence), gate, ledger, false⟩ := by
  refine .unpressed rfl rfl ?_ nofun
  simp [accepted, emptyReceipt, he]

theorem spend_ends {interval : Nat} {gate : SideEffectConfirmationGate} {ledger : Ledger} :
    Ends p (spend R c p interval gate ledger) := by
  simp only [spend]
  cases gate.consumeDispatch c.dispatchToken c.contentHash with
  | none => exact prepared_ends (by decide)
  | some gate =>
    cases p.dispatchedAt with
    | none => exact prepared_ends (by decide)
    | some t =>
      simp only [Ledger.exec]
      cases hb : (after (Ledger.exec R.site) ledger p.meanwhile).beginPublishDispatch
        c.publishJobId c.contentHash t interval with
      | none => exact prepared_ends (by decide)
      | some begun =>
        obtain ⟨reply, next⟩ := begun
        cases hreplay : receiptForExisting c.publishJobId reply with
        | some replay =>
          obtain ⟨haccepted, hreplayed⟩ := receiptForExisting_accepted hreplay
          simp only [Ledger.atomic_some, hreplay]
          exact .unpressed rfl rfl haccepted hreplayed
        | none =>
          simp only [Ledger.atomic_some, hreplay]
          exact press_ends (beginPublishDispatch_state hb hreplay)

theorem approach_ends {interval : Nat} {gate : SideEffectConfirmationGate} {ledger : Ledger} :
    Ends p (approach R c p interval gate ledger) := by
  simp only [approach]
  split
  · exact .raised rfl rfl
  · split
    · exact prepared_ends (by decide)
    · split
      · exact prepared_ends (by decide)
      · exact prepared_ends (by decide)
      · split
        · exact prepared_ends (by decide)
        · split
          · exact prepared_ends (by decide)
          · exact spend_ends

/-- **How a run ends**, whatever it meets. -/
theorem runRelease_ends (R : Rules) (hash : Digest) (account : Account)
    (intent : DouyinPublishPreflightIntent) (c : DouyinPublishConfirmation) (p : ReleasePage)
    (gate : SideEffectConfirmationGate) (ledger : Ledger) :
    Ends p (runRelease R hash account intent c p gate ledger) := by
  simp only [runRelease]
  split
  · exact .raised rfl rfl
  · split
    · exact empty_ends (by decide)
    · split
      · exact empty_ends (by decide)
      · split
        · exact empty_ends (by decide)
        · split
          · exact empty_ends (by decide)
          · split
            · rename_i hreplay
              obtain ⟨haccepted, hreplayed⟩ := receiptForExisting_accepted hreplay
              exact .unpressed rfl rfl haccepted hreplayed
            · exact approach_ends

/-! ## The listing -/

namespace Concrete

def rules : Rules where
  site := ⟨0, 0, fun _ => 0⟩
  publishPolicy := ⟨60, 100, Nat.succ_pos _, Nat.le_add_left _ _, (by decide : 0 < 100),
    (by decide : 99 < Ledger.maxLocalTaskActions)⟩
  unsafeField := fun _ _ => false
  contentHash := fun _ => .bytes 7
  verificationFingerprint := id

def shop : Account := "shop".toList

def filled (title : List Char) : DouyinPublishPreflightIntent where
  artifact := ⟨.bytes 1, "video/mp4".toList, 1000⟩
  title := title
  description := []

def confirmed : DouyinPublishConfirmation := ⟨1, .bytes 7, shop, 0⟩

/-- A page on which nothing fails. -/
def readyPage : ReleasePage where
  policyBound := true
  owned := true
  preparedAt := some 10
  form := some ⟨.formReady, .formAnchorsVisible⟩
  armed := some true
  controlFound := true
  stillOwned := true
  meanwhile := []
  dispatchedAt := some 20
  click := .done
  works := some ⟨.worksListReady, .workListVisible⟩
  listed := some 1
  later := []
  verifiedAt := some 30
  uncertainAt := some 40

/-- The gate after the approval was presented and authorized. -/
def gate : SideEffectConfirmationGate where
  pending := [(0, ⟨shop, .bytes 7, some 0, false⟩)]
  minted := 1
  tokens := 1

def listedReceipt : DouyinPublishReleaseReceipt :=
  ⟨1, .verified, .workListed, some .verified, some 3, false⟩

theorem readyPage_verified (title : List Char) :
    (runRelease rules (.bytes 7) shop (filled title) confirmed readyPage gate .empty).receipt =
      some listedReceipt := by
  have h : (runRelease rules (.bytes 7) shop (filled []) confirmed readyPage gate .empty).receipt =
      some listedReceipt := by decide +kernel
  exact h

end Concrete

/-- **Whose work is listed**: every run is orderly, whichever step fails; and the runs on a
platform say that their work is listed only if their click created it, if and only if the click
created a work or the list does not show exactly one work of the title. -/
theorem verified_own_iff (title : List Char) (created : Bool) (listing : Listing) :
    (∀ (R : Rules) (hash : Digest) (account : Account) (intent : DouyinPublishPreflightIntent)
      (c : DouyinPublishConfirmation) (p : ReleasePage) (gate : SideEffectConfirmationGate)
      (ledger : Ledger), Orderly (runRelease R hash account intent c p gate ledger)) ∧
    ((∀ (R : Rules) (hash : Digest) (account : Account) (intent : DouyinPublishPreflightIntent)
        (c : DouyinPublishConfirmation) (p : ReleasePage) (gate : SideEffectConfirmationGate)
        (ledger : Ledger), Own created (runRelease R hash account { intent with title := title } c
          (shows p listing title) gate ledger)) ↔
      (created = true ∨ worksTitled listing title ≠ some 1)) := by
  refine ⟨fun R hash account intent c p gate ledger => (runRelease_ends ..).orderly, ?_⟩
  constructor
  · intro h
    by_contra hno
    obtain ⟨hcreated, hlisted⟩ := not_or.1 hno
    have hpage : shows Concrete.readyPage listing title = Concrete.readyPage := by
      rw [shows, not_not.1 hlisted]
      rfl
    have hown := h Concrete.rules (.bytes 7) Concrete.shop (Concrete.filled title)
      Concrete.confirmed Concrete.readyPage Concrete.gate .empty
    rw [hpage] at hown
    exact hcreated (hown _ (Concrete.readyPage_verified title) rfl rfl).2
  · intro h R hash account intent c p gate ledger
    exact (runRelease_ends ..).own h

open Concrete in
/-- **Counterexample**: the list shows one older work of the title, the click creates nothing, and
the run says that its work is listed. -/
theorem older_work_verified :
    ¬∀ (title : List Char) (created : Bool) (listing : Listing) (R : Rules) (hash : Digest)
      (account : Account) (intent : DouyinPublishPreflightIntent) (c : DouyinPublishConfirmation)
      (p : ReleasePage) (gate : SideEffectConfirmationGate) (ledger : Ledger),
      Own created (runRelease R hash account { intent with title := title } c
        (shows p listing title) gate ledger) := by
  intro h
  have hown := h "title".toList false (some ["title".toList]) rules (.bytes 7) shop
    (filled []) confirmed readyPage gate .empty
  exact Bool.false_ne_true (hown _ (readyPage_verified "title".toList) rfl rfl).2

end AutomationTool.Bugs.SameTitle
