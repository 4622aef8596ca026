import AutomationTool.Core.Chronicle
import AutomationTool.Executor.Ledger.Service

/-!
# The publish operation of the executor

One operation owns the browser window a publish form is filled in. A preflight opens the
window, fills the form and presents an approval; a dispatch spends the approval on one click
of the page's publish button; the other commands give the window back.

* `preflight`, `dispatch`, `releaseSurface`, `close`: the commands, with every early return.
  `PlatformCommandRouter` calls `releaseSurface` before a login or a logout.
* `SideEffectConfirmationGate`: the approvals that were presented, with their tokens.
* `DouyinPublishRelease`: what comes between a token and the click, over the ledger of
  `Executor/Ledger/Service.lean`; other threads may use the ledger in between.
* `Effect`: what one command can do, said once (`handle_effect`).
* `Reaches`: every history of commands from a new operation, latest first.

What the page, the disk, the browser and the clock answer comes with the command. A new UUID,
a new token and a new window differ from all earlier ones, so they are counted. The digest of
the content and the check of a text are parameters.
-/
namespace AutomationTool.Executor.PublishOperation

open Protocol
open Ledger (Digest PublishJobId Reply EffectRecord LocalActionHardPolicyBinding)

abbrev ConfirmationId := Nat
abbrev DispatchToken := Nat
abbrev WindowId := Nat
abbrev Account := List Char

/-! ## The page -/

/-- mirrors publish_page.py:107-114 -/
inductive DouyinPublishPageState where
  | awaitingArtifact | formReady | worksListReady | loginRequired | riskChallenge
  | dialogBlocked | unknown
  deriving DecidableEq

/-- mirrors publish_page.py:117-127 -/
inductive DouyinPublishPageEvidence where
  | artifactInputVisible | formAnchorsVisible | workListVisible | loginPanel | riskChallenge
  | blockingDialog | requiredAnchorMissing | conflictingAnchors | routeUnknown | pageUnavailable
  deriving DecidableEq

structure DouyinPublishPageObservation where
  state : DouyinPublishPageState
  evidence : DouyinPublishPageEvidence
  deriving DecidableEq

/-! ## The preflight -/

/-- mirrors publish_preflight.py:62-65 -/
inductive DouyinPublishPreflightState where
  | preSubmitReady | handoffRequired | blocked
  deriving DecidableEq

/-- mirrors publish_preflight.py:68-84 -/
inductive DouyinPublishPreflightEvidence where
  | preSubmitConfirmed | loginRequired | riskChallenge | surfaceNotOwned | browserBusy
  | browserUnavailable | contentRejected | surfaceLost | entryUnavailable | pageDrift
  | dialogBlocked | artifactRejected | uploadUnavailable | formUnavailable | fillUnavailable
  | submitControlDisabled
  deriving DecidableEq

structure DouyinPublishArtifact where
  sha256 : Digest
  mediaType : List Char
  sizeBytes : Nat
  deriving DecidableEq

structure DouyinPublishPreflightIntent where
  artifact : DouyinPublishArtifact
  title : List Char
  description : List Char
  deriving DecidableEq

/-- mirrors publish_preflight.py:45-47 -/
def maxTitleCharacters : Nat := 30
def maxDescriptionCharacters : Nat := 1000
def maxAccountCharacters : Nat := 64

/-- What the operation does not compute itself. -/
structure Rules where
  site : Site
  publishPolicy : LocalActionHardPolicyBinding
  /-- `_unsafe_field(value, maximum_characters)`. -/
  unsafeField : List Char → Nat → Bool
  /-- `DouyinPublishPreflightIntent.content_hash`. -/
  contentHash : DouyinPublishPreflightIntent → Digest
  /-- `publish_verification_fingerprint`. -/
  verificationFingerprint : Digest → Digest

/-- mirrors publish_preflight.py:133-187 -/
structure DouyinPublishPreflightReceipt where
  state : DouyinPublishPreflightState
  evidence : DouyinPublishPreflightEvidence
  contentHash : Option Digest
  targetAccount : Option Account
  hashed : state = .preSubmitReady ↔ contentHash.isSome = true
  deriving DecidableEq

def DouyinPublishPreflightReceipt.ready (r : DouyinPublishPreflightReceipt) : Bool :=
  r.state = .preSubmitReady

/-- mirrors publish_preflight.py:310-324 -/
def receipt (evidence : DouyinPublishPreflightEvidence) : DouyinPublishPreflightReceipt where
  state := if evidence = .loginRequired ∨ evidence = .riskChallenge then .handoffRequired
    else .blocked
  evidence := evidence
  contentHash := none
  targetAccount := none
  hashed := by split <;> simp

/-- mirrors publish_preflight.py:327-344 -/
def observedReceipt (observation : DouyinPublishPageObservation)
    (fallback : DouyinPublishPreflightEvidence)
    (missing : Option DouyinPublishPreflightEvidence) : DouyinPublishPreflightReceipt :=
  match observation.state with
  | .loginRequired => receipt .loginRequired
  | .riskChallenge => receipt .riskChallenge
  | .dialogBlocked => receipt .dialogBlocked
  | _ =>
    if observation.evidence = .conflictingAnchors then receipt .pageDrift
    else if observation.evidence = .requiredAnchorMissing then receipt (missing.getD fallback)
    else receipt fallback

/-- What a preflight meets on the page, in the order it asks; `none` is an exception. -/
structure PreflightPage where
  ownedAtEntry : Bool
  entry : Option DouyinPublishPageObservation
  ownedAtUpload : Bool
  unchanged : Bool
  uploaded : Bool
  stillUnchanged : Bool
  form : Option DouyinPublishPageObservation
  ownedAtFill : Bool
  filledIn : Bool
  filled : Option DouyinPublishPageObservation
  armed : Option Bool
  /-- The account's name after redaction and `strip`. -/
  account : Option Account
  deriving DecidableEq

/-- `DouyinPublishPreflight.run`; `none` when it raises.
mirrors publish_preflight.py:216-298 -/
def runPreflight (R : Rules) (intent : DouyinPublishPreflightIntent) (p : PreflightPage) :
    Option DouyinPublishPreflightReceipt :=
  if !p.ownedAtEntry then some (receipt .surfaceNotOwned)
  else p.entry.bind fun entry =>
    if entry.state ≠ .awaitingArtifact then
      some (observedReceipt entry .entryUnavailable (some .pageDrift))
    else if !p.ownedAtUpload then some (receipt .surfaceLost)
    else if !p.unchanged then some (receipt .artifactRejected)
    else if !p.uploaded then some (receipt .uploadUnavailable)
    else if !p.stillUnchanged then some (receipt .artifactRejected)
    else p.form.bind fun form =>
      if form.state ≠ .formReady then some (observedReceipt form .formUnavailable none)
      else if !p.ownedAtFill then some (receipt .surfaceLost)
      else if !p.filledIn then some (receipt .fillUnavailable)
      else p.filled.bind fun filled =>
        if filled.state ≠ .formReady then some (observedReceipt filled .formUnavailable none)
        else match p.armed with
          | none => some (observedReceipt filled .formUnavailable none)
          | some false => some (observedReceipt filled .submitControlDisabled none)
          | some true => some {
              state := .preSubmitReady
              evidence := .preSubmitConfirmed
              contentHash := some (R.contentHash intent)
              targetAccount := p.account.filter fun a => !R.unsafeField a maxAccountCharacters
              hashed := by simp }

/-! ## The confirmation gate -/

/-- mirrors browser_use_safety.py:131-137 -/
structure PendingSideEffect where
  targetAccount : Account
  contentHash : Digest
  dispatchToken : Option DispatchToken := none
  dispatched : Bool := false
  deriving DecidableEq

/-- `minted` and `tokens` count the UUIDs and the tokens made so far. -/
structure SideEffectConfirmationGate where
  pending : List (ConfirmationId × PendingSideEffect)
  minted : ConfirmationId
  tokens : DispatchToken
  deriving DecidableEq

namespace SideEffectConfirmationGate

def empty : SideEffectConfirmationGate := ⟨[], 0, 0⟩

/-- mirrors browser_use_safety.py:148-165 -/
def present (g : SideEffectConfirmationGate) (targetAccount : Account) (contentHash : Digest) :
    Option (ConfirmationId × SideEffectConfirmationGate) :=
  if targetAccount = [] ∨ 128 < targetAccount.length then none
  else some (g.minted, { g with
    pending := g.pending ++ [(g.minted, ⟨targetAccount, contentHash, none, false⟩)]
    minted := g.minted + 1 })

def set (pending : List (ConfirmationId × PendingSideEffect)) (id : ConfirmationId)
    (effect : PendingSideEffect) : List (ConfirmationId × PendingSideEffect) :=
  pending.map fun p => if p.1 = id then (id, effect) else p

/-- mirrors browser_use_safety.py:167-179 -/
def authorizeDispatch (g : SideEffectConfirmationGate) (id : ConfirmationId) :
    Option (DispatchToken × SideEffectConfirmationGate) :=
  match g.pending.lookup id with
  | none => none
  | some p =>
    if p.dispatched then none
    else some (g.tokens, { g with
      pending := set g.pending id ⟨p.targetAccount, p.contentHash, some g.tokens, false⟩
      tokens := g.tokens + 1 })

/-- mirrors browser_use_safety.py:181-199 -/
def consumeDispatch (g : SideEffectConfirmationGate) (token : DispatchToken)
    (contentHash : Digest) : Option SideEffectConfirmationGate :=
  match g.pending.find? fun p => p.2.dispatchToken = some token with
  | none => none
  | some (id, p) =>
    if p.dispatched ∨ p.contentHash ≠ contentHash then none
    else some { g with
      pending := set g.pending id ⟨p.targetAccount, p.contentHash, none, true⟩ }

theorem authorizeDispatch_minted {g g' : SideEffectConfirmationGate} {id : ConfirmationId}
    {t : DispatchToken} (h : g.authorizeDispatch id = some (t, g')) : g'.minted = g.minted := by
  simp only [authorizeDispatch] at h
  split at h
  · cases h
  · split at h
    · cases h
    · cases h
      rfl

theorem consumeDispatch_minted {g g' : SideEffectConfirmationGate} {t : DispatchToken} {d : Digest}
    (h : g.consumeDispatch t d = some g') : g'.minted = g.minted := by
  simp only [consumeDispatch] at h
  split at h
  · cases h
  · split at h
    · cases h
    · cases h
      rfl

end SideEffectConfirmationGate

/-! ## The release -/

/-- mirrors publish_release.py:68-71 -/
inductive DouyinPublishReleaseState where
  | notDispatched | verified | outcomeUncertain
  deriving DecidableEq

/-- mirrors publish_release.py:74-92 -/
inductive DouyinPublishReleaseEvidence where
  | staleConfirmation | surfaceLost | ledgerUnavailable | formNotReady | submitControlDisabled
  | prepareUnavailable | dispatchPermissionRejected | dispatchTimedOut | dispatchUnavailable
  | worksListLoginRequired | worksListRiskChallenge | worksListUnavailable | workNotListed
  | workListedAmbiguously | verificationUnavailable | workListed | replayVerified
  | replayUncertain
  deriving DecidableEq

structure DouyinPublishConfirmation where
  publishJobId : PublishJobId
  contentHash : Digest
  targetAccount : Account
  dispatchToken : DispatchToken

structure DouyinPublishReleaseReceipt where
  publishJobId : PublishJobId
  state : DouyinPublishReleaseState
  evidence : DouyinPublishReleaseEvidence
  dispatchState : Option Ledger.SideEffectState
  dispatchRevision : Option Nat
  replayed : Bool
  deriving DecidableEq

/-- mirrors publish_release.py:568-579 -/
def emptyReceipt (job : PublishJobId) (evidence : DouyinPublishReleaseEvidence) :
    DouyinPublishReleaseReceipt := ⟨job, .notDispatched, evidence, none, none, false⟩

/-- mirrors publish_release.py:582-593 -/
def preparedReceipt (job : PublishJobId) (evidence : DouyinPublishReleaseEvidence) :
    DouyinPublishReleaseReceipt := ⟨job, .notDispatched, evidence, some .prepared, some 1, false⟩

/-- mirrors publish_release.py:596-611 -/
def dispatchReceipt (job : PublishJobId) (state : DouyinPublishReleaseState)
    (evidence : DouyinPublishReleaseEvidence) (dispatch : EffectRecord) (replayed : Bool) :
    DouyinPublishReleaseReceipt :=
  ⟨job, state, evidence, some dispatch.state, some dispatch.revision, replayed⟩

/-- mirrors publish_release.py:545-565 -/
def receiptForExisting (job : PublishJobId) (dispatch : Reply EffectRecord) :
    Option DouyinPublishReleaseReceipt :=
  if dispatch.replayed = false ∨ dispatch.value.state = .prepared then none
  else if dispatch.value.state = .verified then
    some (dispatchReceipt job .verified .replayVerified dispatch.value true)
  else some (dispatchReceipt job .outcomeUncertain .replayUncertain dispatch.value true)

inductive ClickOutcome where
  | done | timedOut | failed
  deriving DecidableEq

/-- What a dispatch meets, in the order it asks. A time is `none` where the clock or the
database fails; elsewhere `none` is an exception. -/
structure ReleasePage where
  policyBound : Bool
  owned : Bool
  preparedAt : Option Time
  form : Option DouyinPublishPageObservation
  armed : Option Bool
  controlFound : Bool
  stillOwned : Bool
  /-- What other threads do to the ledger between the preparation and the permission. -/
  meanwhile : List Op
  dispatchedAt : Option Time
  click : ClickOutcome
  works : Option DouyinPublishPageObservation
  listed : Option Nat
  /-- What they do to it between the permission and the settlement. -/
  later : List Op
  verifiedAt : Option Time
  uncertainAt : Option Time

/-- What a release leaves: its receipt (`none` when it raises), and whether it clicked. -/
structure ReleaseRun where
  receipt : Option DouyinPublishReleaseReceipt
  gate : SideEffectConfirmationGate
  ledger : Ledger
  clicked : Bool

/-- mirrors publish_release.py:468-488 -/
def uncertain (R : Rules) (c : DouyinPublishConfirmation) (p : ReleasePage)
    (evidence : DouyinPublishReleaseEvidence) (dispatched : EffectRecord) (ledger : Ledger) :
    DouyinPublishReleaseReceipt × Ledger :=
  let settled := match p.uncertainAt with
    | none => (none, ledger)
    | some t =>
      ledger.exec R.site (.markPublishDispatchUncertain c.publishJobId c.contentHash t)
  (dispatchReceipt c.publishJobId .outcomeUncertain evidence
    ((settled.1.map Reply.value).getD dispatched) false, settled.2)

/-- mirrors publish_release.py:537-542 -/
def worksListEvidence (works : DouyinPublishPageObservation) : DouyinPublishReleaseEvidence :=
  match works.state with
  | .loginRequired => .worksListLoginRequired
  | .riskChallenge => .worksListRiskChallenge
  | _ => .worksListUnavailable

/-- mirrors publish_release.py:401-466 -/
def settleAgainstWorksList (R : Rules) (c : DouyinPublishConfirmation) (p : ReleasePage)
    (dispatched : EffectRecord) (ledger : Ledger) : DouyinPublishReleaseReceipt × Ledger :=
  match p.works with
  | none => uncertain R c p .worksListUnavailable dispatched ledger
  | some works =>
    if works.state ≠ .worksListReady then
      uncertain R c p (worksListEvidence works) dispatched ledger
    else match p.listed with
      | none => uncertain R c p .worksListUnavailable dispatched ledger
      | some 0 => uncertain R c p .workNotListed dispatched ledger
      | some 1 =>
        match p.verifiedAt with
        | none => uncertain R c p .verificationUnavailable dispatched ledger
        | some t =>
          match ledger.exec R.site (.verifyPublishDispatch c.publishJobId c.contentHash
            (R.verificationFingerprint c.contentHash) t) with
          | (none, ledger) => uncertain R c p .verificationUnavailable dispatched ledger
          | (some verified, ledger) =>
            (dispatchReceipt c.publishJobId .verified .workListed verified.value false, ledger)
      | some (_ + 2) => uncertain R c p .workListedAmbiguously dispatched ledger

/-- From the permission on: the click, then what the works list says of it.
mirrors publish_release.py:382-399 -/
def press (R : Rules) (c : DouyinPublishConfirmation) (p : ReleasePage) (dispatched : EffectRecord)
    (gate : SideEffectConfirmationGate) (ledger : Ledger) : ReleaseRun :=
  let ledger := after (Ledger.exec R.site) ledger p.later
  let settled := match p.click with
    | .timedOut => uncertain R c p .dispatchTimedOut dispatched ledger
    | .failed => uncertain R c p .dispatchUnavailable dispatched ledger
    | .done => settleAgainstWorksList R c p dispatched ledger
  ⟨some settled.1, gate, settled.2, true⟩

/-- The approval is spent, then the ledger is asked for the permission.
mirrors publish_release.py:357-380 -/
def spend (R : Rules) (c : DouyinPublishConfirmation) (p : ReleasePage) (interval : Nat)
    (gate : SideEffectConfirmationGate) (ledger : Ledger) : ReleaseRun :=
  match gate.consumeDispatch c.dispatchToken c.contentHash with
  | none => ⟨some (preparedReceipt c.publishJobId .staleConfirmation), gate, ledger, false⟩
  | some gate =>
    let ledger := after (Ledger.exec R.site) ledger p.meanwhile
    match p.dispatchedAt with
    | none =>
      ⟨some (preparedReceipt c.publishJobId .dispatchPermissionRejected), gate, ledger, false⟩
    | some t =>
      match ledger.exec R.site (.beginPublishDispatch c.publishJobId c.contentHash t interval) with
      | (none, ledger) =>
        ⟨some (preparedReceipt c.publishJobId .dispatchPermissionRejected), gate, ledger, false⟩
      | (some dispatched, ledger) =>
        match receiptForExisting c.publishJobId dispatched with
        | some replay => ⟨some replay, gate, ledger, false⟩
        | none => press R c p dispatched.value gate ledger

/-- The checks of the page between the preparation and the approval.
mirrors publish_release.py:339-355 -/
def approach (R : Rules) (c : DouyinPublishConfirmation) (p : ReleasePage) (interval : Nat)
    (gate : SideEffectConfirmationGate) (ledger : Ledger) : ReleaseRun :=
  let stay (evidence : DouyinPublishReleaseEvidence) : ReleaseRun :=
    ⟨some (preparedReceipt c.publishJobId evidence), gate, ledger, false⟩
  match p.form with
  | none => ⟨none, gate, ledger, false⟩
  | some form =>
    if form.state ≠ .formReady then stay .formNotReady
    else match p.armed with
      | none => stay .formNotReady
      | some false => stay .submitControlDisabled
      | some true =>
        if !p.controlFound then stay .prepareUnavailable
        else if !p.stillOwned then stay .surfaceLost
        else spend R c p interval gate ledger

/-- `DouyinPublishRelease.__init__` and `run`; the receipt it is given is ready.
mirrors publish_release.py:265-399 -/
def runRelease (R : Rules) (hash : Digest) (account : Account)
    (intent : DouyinPublishPreflightIntent) (c : DouyinPublishConfirmation) (p : ReleasePage)
    (gate : SideEffectConfirmationGate) (ledger : Ledger) : ReleaseRun :=
  if !p.policyBound then ⟨none, gate, ledger, false⟩
  else
    let bound := ledger.exec R.site (.bindActionHardPolicy R.publishPolicy)
    let stay (evidence : DouyinPublishReleaseEvidence) (ledger : Ledger) : ReleaseRun :=
      ⟨some (emptyReceipt c.publishJobId evidence), gate, ledger, false⟩
    -- `_confirmation_still_holds`
    if ¬(hash = R.contentHash intent ∧ c.contentHash = hash ∧ c.targetAccount = account) then
      stay .staleConfirmation bound.2
    else if !p.owned then stay .surfaceLost bound.2
    else match p.preparedAt with
      | none => stay .ledgerUnavailable bound.2
      | some t =>
        match bound.2.exec R.site (.preparePublishDispatch c.publishJobId c.contentHash t) with
        | (none, ledger) => stay .ledgerUnavailable ledger
        | (some prepared, ledger) =>
          match receiptForExisting c.publishJobId prepared with
          | some replay => ⟨some replay, gate, ledger, false⟩
          | none => approach R c p bound.1.minimumIntervalSeconds gate ledger

/-! ## The commands -/

/-- The operation between two commands. Where there is a window there are the runtime and the
launch lease it came from. -/
structure State where
  latest : Option DouyinPublishPreflightReceipt
  latestIntent : Option DouyinPublishPreflightIntent
  latestApproval : Option ConfirmationId
  latestRelease : Option DouyinPublishReleaseReceipt
  window : Option WindowId
  /-- How many windows were opened so far. -/
  opened : WindowId
  confirmations : SideEffectConfirmationGate
  ledger : Ledger

def State.start (ledger : Ledger) : State := ⟨none, none, none, none, none, 0, .empty, ledger⟩

/-- What opening the artifact's file comes to. -/
inductive Opened where
  | artifact (a : DouyinPublishArtifact)
  /-- `DouyinPublishArtifactRejected`. -/
  | rejected
  | raised
  deriving DecidableEq

inductive Launch where
  | started | browserBusy | surfaceNotOwned | browserUnavailable
  deriving DecidableEq

structure PreflightConduct where
  opened : Opened
  launch : Launch
  page : PreflightPage
  deriving DecidableEq

/-- A command of the publish family, by what it carries besides paths. -/
structure PreflightCommand where
  publishJobId : PublishJobId
  title : List Char
  description : List Char
  deriving DecidableEq

structure DispatchCommand where
  publishJobId : PublishJobId
  confirmationId : ConfirmationId
  deriving DecidableEq

inductive CommandState where
  | publishReleased | publishPreSubmitReady | publishHandoffRequired | publishBlocked
  | publishVerified | publishOutcomeUncertain | publishNotDispatched
  /-- What the login operation answers. -/
  | session (state : List Char)
  deriving DecidableEq

/-- An approval as it is put in front of the operator. -/
structure Presented where
  confirmationId : ConfirmationId
  contentHash : Digest
  targetAccount : Account
  window : WindowId
  deriving DecidableEq

/-- A click of a page's publish button. -/
structure Click where
  window : WindowId
  publishJobId : PublishJobId
  contentHash : Digest
  confirmationId : ConfirmationId
  deriving DecidableEq

/-- What a command comes to: its state (`none` is `PlatformCommandRejected`, or what has no
state), the approval it presents, the click it makes, and the window held after it. -/
structure Output where
  result : Option CommandState
  presented : Option Presented := none
  clicked : Option Click := none
  holding : Option WindowId
  deriving DecidableEq

/-- mirrors platform_commands.py:625-637 -/
def State.releaseSurface (s : State) : State :=
  { s with
    latest := s.latest.filter fun r => !r.ready
    latestIntent := none
    latestApproval := none
    window := none }

/-- `_close_active`: the window is forgotten whether or not it could be closed.
mirrors platform_commands.py:837-852 -/
def State.closeActive (s : State) : State := { s with window := none }

/-- mirrors platform_commands.py:808-812 -/
def State.blocked (s : State) (evidence : DouyinPublishPreflightEvidence) : Output × State :=
  (⟨some .publishBlocked, none, none, s.window⟩, { s with latest := some (receipt evidence) })

/-- mirrors platform_commands.py:718-734 -/
def State.presentConfirmation (s : State) (r : DouyinPublishPreflightReceipt) (window : WindowId) :
    Option Presented × State :=
  match r.targetAccount, r.contentHash with
  | some account, some hash =>
    match s.confirmations.present account hash with
    | none => (none, { s with latestApproval := none })
    | some (id, g) =>
      (some ⟨id, hash, account, window⟩, { s with latestApproval := some id, confirmations := g })
  | _, _ => (none, s)

/-- From the receipt of the page on.
mirrors platform_commands.py:704-713 -/
def State.filled (s : State) (intent : DouyinPublishPreflightIntent) (window : WindowId)
    (r : DouyinPublishPreflightReceipt) : Output × State :=
  match r.state with
  | .preSubmitReady =>
    let t := { s with latest := some r, latestIntent := some intent }.presentConfirmation r window
    (⟨some .publishPreSubmitReady, t.1, none, s.window⟩, t.2)
  -- the user has to finish by hand in the window
  | .handoffRequired =>
    (⟨some .publishHandoffRequired, none, none, s.window⟩, { s with latest := some r })
  | .blocked =>
    (⟨some .publishBlocked, none, none, none⟩, { s with latest := some r }.closeActive)

/-- The preflight command. Its job is asked for and not looked at.
mirrors platform_commands.py:650-716 -/
def preflight (R : Rules) (m : PreflightCommand) (c : PreflightConduct) (s : State) :
    Output × State :=
  let s := { s with
    latest := none, latestIntent := none, latestApproval := none, latestRelease := none }
  match c.opened with
  | .raised => (⟨none, none, none, none⟩, s.closeActive)
  | .rejected => s.blocked .artifactRejected
  | .artifact artifact =>
    if R.unsafeField m.title maxTitleCharacters ∨
        R.unsafeField m.description maxDescriptionCharacters then
      s.blocked .contentRejected
    else
      let intent := ⟨artifact, m.title, m.description⟩
      let s := s.closeActive
      match c.launch with
      | .browserBusy => s.blocked .browserBusy
      | .surfaceNotOwned => s.blocked .surfaceNotOwned
      | .browserUnavailable => s.blocked .browserUnavailable
      | .started =>
        let window := s.opened
        let s := { s with window := some window, opened := window + 1 }
        match runPreflight R intent c.page with
        | none => (⟨none, none, none, none⟩, s.closeActive)
        | some r => s.filled intent window r

/-- mirrors platform_commands.py:795-806 -/
def State.notDispatched (s : State) (job : PublishJobId) : Output × State :=
  (⟨some .publishNotDispatched, none, none, s.window⟩,
    { s with latestRelease := some (emptyReceipt job .staleConfirmation) })

/-- `PUBLISH_DISPATCH_RESULT_FOR_STATE`.
mirrors platform_commands.py:864-868 -/
def dispatchResult : DouyinPublishReleaseState → CommandState
  | .verified => .publishVerified
  | .outcomeUncertain => .publishOutcomeUncertain
  | .notDispatched => .publishNotDispatched

/-- The click, if the release made it. -/
def ReleaseRun.click (run : ReleaseRun) (k : Click) : Option Click :=
  if run.clicked then some k else none

/-- What is kept of a release.
mirrors platform_commands.py:774-793 -/
def State.released (s : State) (job : PublishJobId) (hash : Digest) (id : ConfirmationId)
    (window : WindowId) (run : ReleaseRun) : Output × State :=
  let s := { s with
    latestApproval := none, confirmations := run.gate, ledger := run.ledger }
  let clicked := run.click ⟨window, job, hash, id⟩
  match run.receipt with
  | none => (⟨none, none, clicked, s.window⟩, s)
  | some r =>
    let s := { s with latestRelease := some r }
    (⟨some (dispatchResult r.state), none, clicked, s.window⟩,
      -- the page was pressed: the form is no longer a dispatch target
      if r.state = .notDispatched then s else { s with latest := none, latestIntent := none })

/-- The dispatch command.
mirrors platform_commands.py:736-793 -/
def dispatch (R : Rules) (m : DispatchCommand) (p : ReleasePage) (s : State) : Output × State :=
  match s.latest, s.latestIntent, s.latestApproval, s.window with
  | some r, some intent, some approval, some window =>
    match r.targetAccount, r.contentHash with
    | some account, some hash =>
      if r.ready ∧ approval = m.confirmationId then
        match s.confirmations.authorizeDispatch approval with
        | none => s.notDispatched m.publishJobId
        | some (token, gate) =>
          s.released m.publishJobId hash approval window
            (runRelease R hash account intent ⟨m.publishJobId, hash, account, token⟩ p gate
              s.ledger)
      else s.notDispatched m.publishJobId
    | _, _ => s.notDispatched m.publishJobId
  | _, _, _, _ => s.notDispatched m.publishJobId

/-- What the operation is given. -/
inductive Input where
  /-- A login, its recheck or a logout, with what the login operation comes to. -/
  | session (answer : Option (List Char))
  | preflight (m : PreflightCommand) (c : PreflightConduct)
  | dispatch (m : DispatchCommand) (p : ReleasePage)
  | release
  /-- The executor stops. -/
  | close
  /-- Another thread uses the ledger. -/
  | ledger (o : Op)

/-- The router's `handle` and `close`.
mirrors platform_commands.py:518-541,639-649 -/
def handle (R : Rules) (i : Input) (s : State) : Output × State :=
  match i with
  | .session answer => (⟨answer.map .session, none, none, none⟩, s.releaseSurface)
  | .preflight m c => preflight R m c s
  | .dispatch m p => dispatch R m p s
  | .release => (⟨some .publishReleased, none, none, none⟩, s.releaseSurface)
  | .close => (⟨none, none, none, none⟩, s.closeActive)
  | .ledger o => (⟨none, none, none, s.window⟩, { s with ledger := (s.ledger.exec R.site o).2 })

/-! ## What a command can do -/

/-- The command takes the browser surface or gives it back. -/
def Input.surface : Input → Bool
  | .session _ | .preflight .. | .release | .close => true
  | .dispatch .. | .ledger _ => false

/-- `Effect i s out t`: given `i` in the state `s`, the operation may answer `out` and be left
in `t`. -/
inductive Effect (i : Input) (s : State) (out : Output) (t : State) : Prop where
  /-- The approval is gone. -/
  | voided (hi : i.surface = true) (hp : out.presented = none) (hk : out.clicked = none)
      (ha : t.latestApproval = none) (hm : t.confirmations.minted = s.confirmations.minted)
  /-- The window is gone, the approval is left. -/
  | closed (hp : out.presented = none) (hk : out.clicked = none)
      (ha : t.latestApproval = s.latestApproval) (hw : t.window = none)
      (hm : t.confirmations.minted = s.confirmations.minted)
  | presented {m : PreflightCommand} {c : PreflightConduct} {x : Presented}
      {r : DouyinPublishPreflightReceipt} (hi : i = .preflight m c)
      (hres : out.result = some .publishPreSubmitReady) (hp : out.presented = some x)
      (hk : out.clicked = none) (hid : x.confirmationId = s.confirmations.minted)
      (ha : t.latestApproval = some x.confirmationId) (hw : t.window = some x.window)
      (hh : out.holding = t.window) (hl : t.latest = some r)
      (hr : r.contentHash = some x.contentHash)
      (hm : s.confirmations.minted < t.confirmations.minted)
  /-- Nothing that the page, the approval or the receipt hangs on. -/
  | idle (hi : i.surface = false) (hp : out.presented = none) (hk : out.clicked = none)
      (ha : t.latestApproval = s.latestApproval) (hw : t.window = s.window)
      (hh : out.holding = t.window) (hl : t.latest = s.latest)
      (hm : t.confirmations.minted = s.confirmations.minted)
  /-- The approval is spent, on a click or before one. -/
  | spent {m : DispatchCommand} {p : ReleasePage} {r : DouyinPublishPreflightReceipt}
      {hash : Digest} {window : WindowId} (hi : i = .dispatch m p) (hp : out.presented = none)
      (hs : s.latestApproval = some m.confirmationId) (hw : s.window = some window)
      (hl : s.latest = some r) (hr : r.contentHash = some hash)
      (hk : ∀ k ∈ out.clicked, k = ⟨window, m.publishJobId, hash, m.confirmationId⟩)
      (ha : t.latestApproval = none) (hm : t.confirmations.minted = s.confirmations.minted)

theorem SideEffectConfirmationGate.present_some {g g' : SideEffectConfirmationGate}
    {account : Account} {hash : Digest} {id : ConfirmationId}
    (h : g.present account hash = some (id, g')) : id = g.minted ∧ g'.minted = g.minted + 1 := by
  simp only [SideEffectConfirmationGate.present] at h
  split at h
  · cases h
  · cases h
    exact ⟨rfl, rfl⟩

theorem State.presentConfirmation_effect {s : State} {r : DouyinPublishPreflightReceipt}
    {window : WindowId} (ha : s.latestApproval = none) (hl : s.latest = some r)
    (hw : s.window = some window) {m : PreflightCommand} {c : PreflightConduct} {s₀ : State}
    (hm : s.confirmations.minted = s₀.confirmations.minted) :
    Effect (.preflight m c) s₀
      ⟨some .publishPreSubmitReady, (s.presentConfirmation r window).1, none, s.window⟩
      (s.presentConfirmation r window).2 := by
  simp only [State.presentConfirmation]
  split
  · rename_i account hash _ hhash
    cases hp : s.confirmations.present account hash with
    | none => exact .voided rfl rfl rfl rfl hm
    | some q =>
      obtain ⟨id, g⟩ := q
      obtain ⟨rfl, hmint⟩ := SideEffectConfirmationGate.present_some hp
      refine .presented rfl rfl rfl rfl hm rfl hw rfl hl hhash ?_
      change s₀.confirmations.minted < g.minted
      rw [hmint, hm]
      exact Nat.lt_succ_self _
  · exact .voided rfl rfl rfl ha hm

theorem State.filled_effect {s : State} {intent : DouyinPublishPreflightIntent} {window : WindowId}
    {r : DouyinPublishPreflightReceipt} (ha : s.latestApproval = none) (hw : s.window = some window)
    {m : PreflightCommand} {c : PreflightConduct} {s₀ : State}
    (hm : s.confirmations.minted = s₀.confirmations.minted) :
    Effect (.preflight m c) s₀ (s.filled intent window r).1 (s.filled intent window r).2 := by
  simp only [State.filled]
  split
  · refine State.presentConfirmation_effect ?_ ?_ ?_ ?_
    · exact ha
    · rfl
    · exact hw
    · exact hm
  · exact .voided rfl rfl rfl ha hm
  · exact .voided rfl rfl rfl ha hm

theorem preflight_effect (R : Rules) (m : PreflightCommand) (c : PreflightConduct) (s : State) :
    Effect (.preflight m c) s (preflight R m c s).1 (preflight R m c s).2 := by
  simp only [preflight]
  split
  · exact .voided rfl rfl rfl rfl rfl
  · exact .voided rfl rfl rfl rfl rfl
  · split
    · exact .voided rfl rfl rfl rfl rfl
    · split
      · exact .voided rfl rfl rfl rfl rfl
      · exact .voided rfl rfl rfl rfl rfl
      · exact .voided rfl rfl rfl rfl rfl
      · split
        · exact .voided rfl rfl rfl rfl rfl
        · exact State.filled_effect rfl rfl rfl

/-- A release mints no approval. -/
theorem runRelease_minted (R : Rules) (hash : Digest) (account : Account)
    (intent : DouyinPublishPreflightIntent) (c : DouyinPublishConfirmation) (p : ReleasePage)
    (gate : SideEffectConfirmationGate) (ledger : Ledger) :
    (runRelease R hash account intent c p gate ledger).gate.minted = gate.minted := by
  have hspend : ∀ (interval : Nat) (ledger : Ledger),
      (spend R c p interval gate ledger).gate.minted = gate.minted := by
    intro interval ledger
    simp only [spend]
    split
    · rfl
    · rename_i g hg
      have hmint := SideEffectConfirmationGate.consumeDispatch_minted hg
      split
      · exact hmint
      · split
        · exact hmint
        · split
          · exact hmint
          · exact hmint
  have happroach : ∀ (interval : Nat) (ledger : Ledger),
      (approach R c p interval gate ledger).gate.minted = gate.minted := by
    intro interval ledger
    simp only [approach]
    split
    · rfl
    · split
      · rfl
      · split
        · rfl
        · rfl
        · split
          · rfl
          · split
            · rfl
            · exact hspend interval ledger
  simp only [runRelease]
  split
  · rfl
  · split
    · rfl
    · split
      · rfl
      · split
        · rfl
        · split
          · rfl
          · split
            · rfl
            · exact happroach _ _

theorem State.released_effect {s : State} {m : DispatchCommand} {p : ReleasePage} {hash : Digest}
    {window : WindowId} {r : DouyinPublishPreflightReceipt} {run : ReleaseRun}
    (hs : s.latestApproval = some m.confirmationId) (hw : s.window = some window)
    (hl : s.latest = some r) (hr : r.contentHash = some hash)
    (hm : run.gate.minted = s.confirmations.minted) :
    Effect (.dispatch m p) s
      (s.released m.publishJobId hash m.confirmationId window run).1
      (s.released m.publishJobId hash m.confirmationId window run).2 := by
  have hclick : ∀ k ∈ run.click ⟨window, m.publishJobId, hash, m.confirmationId⟩,
      k = ⟨window, m.publishJobId, hash, m.confirmationId⟩ := by
    intro k hk
    simp only [ReleaseRun.click] at hk
    split at hk
    · exact (Option.mem_some.1 hk).symm
    · cases hk
  simp only [State.released]
  split
  · exact .spent rfl rfl hs hw hl hr hclick rfl hm
  · split
    · exact .spent rfl rfl hs hw hl hr hclick rfl hm
    · exact .spent rfl rfl hs hw hl hr hclick rfl hm

theorem dispatch_effect (R : Rules) (m : DispatchCommand) (p : ReleasePage) (s : State) :
    Effect (.dispatch m p) s (dispatch R m p s).1 (dispatch R m p s).2 := by
  have hidle : Effect (.dispatch m p) s (s.notDispatched m.publishJobId).1
      (s.notDispatched m.publishJobId).2 := .idle rfl rfl rfl rfl rfl rfl rfl rfl
  simp only [dispatch]
  split
  · rename_i r intent approval window hl _ ha hw
    split
    · rename_i account hash _ hhash
      split
      · rename_i hready
        obtain ⟨-, rfl⟩ := hready
        split
        · exact hidle
        · rename_i token gate hgate
          refine State.released_effect ha hw hl hhash ?_
          rw [runRelease_minted]
          exact SideEffectConfirmationGate.authorizeDispatch_minted hgate
      · exact hidle
    · exact hidle
  · exact hidle

/-- Every command stays within `Effect`. -/
theorem handle_effect (R : Rules) (i : Input) (s : State) :
    Effect i s (handle R i s).1 (handle R i s).2 := by
  cases i with
  | session answer => exact .voided rfl rfl rfl rfl rfl
  | preflight m c => exact preflight_effect R m c s
  | dispatch m p => exact dispatch_effect R m p s
  | release => exact .voided rfl rfl rfl rfl rfl
  | close => exact .closed rfl rfl rfl rfl rfl
  | ledger o => exact .idle rfl rfl rfl rfl rfl rfl rfl rfl

/-! ## Histories -/

abbrev Event := Input × Output

/-- The histories of the operation, latest command first, with the state each leaves. -/
inductive Reaches (R : Rules) : List Event → State → Prop where
  | start (ledger : Ledger) : Reaches R [] (.start ledger)
  | next {history : List Event} {s : State} (h : Reaches R history s) (i : Input) :
      Reaches R ((i, (handle R i s).1) :: history) (handle R i s).2

/-- The approval was presented by a ready preflight for `job`, and since then the window that
it was presented for has been held: no command took the surface or gave it back. -/
def Held (history : List Event) (job : PublishJobId) (x : Presented) : Prop :=
  ∃ between m c out before, history = between ++ (.preflight m c, out) :: before ∧
    m.publishJobId = job ∧ out.result = some .publishPreSubmitReady ∧ out.presented = some x ∧
    out.holding = some x.window ∧
    ∀ e ∈ between, e.1.surface = false ∧ e.2.holding = some x.window

/-- Nothing was clicked with the approval. -/
def Unclicked (history : List Event) (c : ConfirmationId) : Prop :=
  ∀ e ∈ history, ∀ k ∈ e.2.clicked, k.confirmationId ≠ c

/-- The approval was never presented. -/
def Unpresented (history : List Event) (c : ConfirmationId) : Prop :=
  ∀ e ∈ history, ∀ x ∈ e.2.presented, x.confirmationId ≠ c

/-- How a history may go on: an approval that is presented is new, and a click is made with an
approval that no click was made with, for what it was presented for, on the page held since. -/
structure Follows (history : List Event) (e : Event) : Prop where
  presented : ∀ x ∈ e.2.presented, Unpresented history x.confirmationId
  unclicked : ∀ k ∈ e.2.clicked, Unclicked history k.confirmationId
  held : ∀ k ∈ e.2.clicked, ∃ m p job x, e.1 = .dispatch m p ∧ Held history job x ∧
    k = ⟨x.window, m.publishJobId, x.contentHash, x.confirmationId⟩

/-- What the operation's state says about its history. -/
structure Inv (history : List Event) (s : State) : Prop where
  presented_lt : ∀ c, s.confirmations.minted ≤ c → Unpresented history c
  clicked_lt : ∀ c, s.confirmations.minted ≤ c → Unclicked history c
  approval_lt : ∀ c, s.latestApproval = some c → c < s.confirmations.minted
  unspent : ∀ c, s.latestApproval = some c → Unclicked history c
  standing : ∀ c w, s.latestApproval = some c → s.window = some w → ∃ job x r,
    Held history job x ∧ x.confirmationId = c ∧ x.window = w ∧ s.latest = some r ∧
    r.contentHash = some x.contentHash

theorem Inv.start (ledger : Ledger) : Inv [] (.start ledger) where
  presented_lt _ _ _ he := nomatch he
  clicked_lt _ _ _ he := nomatch he
  approval_lt _ h := nomatch h
  unspent _ h := nomatch h
  standing _ _ h := nomatch h

theorem Unclicked.cons {history : List Event} {e : Event} {c : ConfirmationId}
    (h : Unclicked history c) (he : ∀ k ∈ e.2.clicked, k.confirmationId ≠ c) :
    Unclicked (e :: history) c := by
  intro e' hmem
  obtain rfl | hmem := List.mem_cons.1 hmem
  · exact he
  · exact h e' hmem

theorem Unpresented.cons {history : List Event} {e : Event} {c : ConfirmationId}
    (h : Unpresented history c) (he : ∀ x ∈ e.2.presented, x.confirmationId ≠ c) :
    Unpresented (e :: history) c := by
  intro e' hmem
  obtain rfl | hmem := List.mem_cons.1 hmem
  · exact he
  · exact h e' hmem

/-- The page stays held over a command that leaves the surface and the window alone. -/
theorem Held.cons {history : List Event} {job : PublishJobId} {x : Presented}
    (h : Held history job x) {e : Event} (hi : e.1.surface = false)
    (hw : e.2.holding = some x.window) : Held (e :: history) job x := by
  obtain ⟨between, m, c, out, before, rfl, hjob, hres, hp, hh, hb⟩ := h
  refine ⟨e :: between, m, c, out, before, rfl, hjob, hres, hp, hh, ?_⟩
  intro e' hmem
  obtain rfl | hmem := List.mem_cons.1 hmem
  · exact ⟨hi, hw⟩
  · exact hb e' hmem

theorem Follows.silent {history : List Event} {e : Event} (hp : e.2.presented = none)
    (hk : e.2.clicked = none) : Follows history e where
  presented _ hx := nomatch hp.symm.trans hx
  unclicked _ hk' := nomatch hk.symm.trans hk'
  held _ hk' := nomatch hk.symm.trans hk'

/-- A command that presents nothing. -/
theorem Inv.unpresented {history : List Event} {s t : State} {e : Event} (h : Inv history s)
    (hp : e.2.presented = none) (hm : t.confirmations.minted = s.confirmations.minted)
    (c : ConfirmationId) (hc : t.confirmations.minted ≤ c) : Unpresented (e :: history) c :=
  (h.presented_lt c (hm ▸ hc)).cons fun _ hx => nomatch hp.symm.trans hx

theorem Unclicked.silent {history : List Event} {e : Event} {c : ConfirmationId}
    (h : Unclicked history c) (hk : e.2.clicked = none) : Unclicked (e :: history) c :=
  h.cons fun _ hk' => nomatch hk.symm.trans hk'

theorem Inv.presented {history : List Event} {s t : State} {m : PreflightCommand}
    {c : PreflightConduct} {out : Output} {x : Presented} {r : DouyinPublishPreflightReceipt}
    (h : Inv history s) (hres : out.result = some .publishPreSubmitReady)
    (hp : out.presented = some x) (hk : out.clicked = none)
    (hid : x.confirmationId = s.confirmations.minted)
    (ha : t.latestApproval = some x.confirmationId) (hw : t.window = some x.window)
    (hh : out.holding = t.window) (hl : t.latest = some r)
    (hr : r.contentHash = some x.contentHash)
    (hm : s.confirmations.minted < t.confirmations.minted) :
    Follows history (.preflight m c, out) ∧ Inv ((.preflight m c, out) :: history) t := by
  refine ⟨⟨?_, ?_, ?_⟩, ?_, ?_, ?_, ?_, ?_⟩
  · intro y hy
    cases hp.symm.trans hy
    exact h.presented_lt _ (Nat.le_of_eq hid.symm)
  · exact fun _ hk' => nomatch hk.symm.trans hk'
  · exact fun _ hk' => nomatch hk.symm.trans hk'
  · intro c hc
    have hlt := Nat.lt_of_lt_of_le hm hc
    refine (h.presented_lt c (Nat.le_of_lt hlt)).cons fun y hy => ?_
    cases hp.symm.trans hy
    rw [hid]
    exact Nat.ne_of_lt hlt
  · intro c hc
    exact (h.clicked_lt c (Nat.le_of_lt (Nat.lt_of_lt_of_le hm hc))).silent hk
  · intro c hc
    cases ha.symm.trans hc
    rw [hid]
    exact hm
  · intro c hc
    cases ha.symm.trans hc
    exact (h.clicked_lt _ (Nat.le_of_eq hid.symm)).silent hk
  · intro _ _ hc hw'
    cases ha.symm.trans hc
    cases hw.symm.trans hw'
    have hheld : Held ((.preflight m c, out) :: history) m.publishJobId x :=
      ⟨[], m, c, out, history, rfl, rfl, hres, hp, hh.trans hw, fun _ he => absurd he List.not_mem_nil⟩
    exact ⟨m.publishJobId, x, r, hheld, rfl, rfl, hl, hr⟩

theorem Inv.spent {history : List Event} {s t : State} {m : DispatchCommand} {p : ReleasePage}
    {out : Output} {r : DouyinPublishPreflightReceipt} {hash : Digest} {window : WindowId}
    (h : Inv history s) (hp : out.presented = none)
    (hs : s.latestApproval = some m.confirmationId) (hw : s.window = some window)
    (hl : s.latest = some r) (hr : r.contentHash = some hash)
    (hk : ∀ k ∈ out.clicked, k = ⟨window, m.publishJobId, hash, m.confirmationId⟩)
    (ha : t.latestApproval = none) (hm : t.confirmations.minted = s.confirmations.minted) :
    Follows history (.dispatch m p, out) ∧ Inv ((.dispatch m p, out) :: history) t := by
  refine ⟨⟨?_, ?_, ?_⟩, h.unpresented hp hm, ?_, ?_, ?_, ?_⟩
  · exact fun _ hx => nomatch hp.symm.trans hx
  · intro k hk'
    cases hk k hk'
    exact h.unspent _ hs
  · intro k hk'
    cases hk k hk'
    obtain ⟨job, x, r', hheld, hid, rfl, hl', hr'⟩ := h.standing _ _ hs hw
    cases hl.symm.trans hl'
    cases hr.symm.trans hr'
    exact ⟨m, p, job, x, rfl, hheld, by rw [hid]⟩
  · intro c hc
    refine (h.clicked_lt c (hm ▸ hc)).cons fun k hk' => ?_
    cases hk k hk'
    exact Nat.ne_of_lt (Nat.lt_of_lt_of_le (h.approval_lt _ hs) (hm ▸ hc))
  · exact fun _ hc => nomatch ha.symm.trans hc
  · exact fun _ hc => nomatch ha.symm.trans hc
  · exact fun _ _ hc => nomatch ha.symm.trans hc

/-- One command keeps the invariant and follows from what was before. -/
theorem Inv.next {history : List Event} {s t : State} {i : Input} {out : Output}
    (h : Inv history s) (he : Effect i s out t) :
    Follows history (i, out) ∧ Inv ((i, out) :: history) t := by
  cases he with
  | voided hi hp hk ha hm =>
    refine ⟨.silent hp hk, h.unpresented hp hm, ?_, ?_, ?_, ?_⟩
    · exact fun c hc => (h.clicked_lt c (hm ▸ hc)).silent hk
    · exact fun _ hc => nomatch ha.symm.trans hc
    · exact fun _ hc => nomatch ha.symm.trans hc
    · exact fun _ _ hc => nomatch ha.symm.trans hc
  | closed hp hk ha hw hm =>
    refine ⟨.silent hp hk, h.unpresented hp hm, ?_, ?_, ?_, ?_⟩
    · exact fun c hc => (h.clicked_lt c (hm ▸ hc)).silent hk
    · exact fun c hc => hm ▸ h.approval_lt c (ha ▸ hc)
    · exact fun c hc => (h.unspent c (ha ▸ hc)).silent hk
    · exact fun _ _ _ hw' => nomatch hw.symm.trans hw'
  | presented hi hres hp hk hid ha hw hh hl hr hm =>
    subst hi
    exact h.presented hres hp hk hid ha hw hh hl hr hm
  | idle hi hp hk ha hw hh hl hm =>
    refine ⟨.silent hp hk, h.unpresented hp hm, ?_, ?_, ?_, ?_⟩
    · exact fun c hc => (h.clicked_lt c (hm ▸ hc)).silent hk
    · exact fun c hc => hm ▸ h.approval_lt c (ha ▸ hc)
    · exact fun c hc => (h.unspent c (ha ▸ hc)).silent hk
    · intro c w hc hw'
      obtain ⟨job, x, r, hheld, hid, rfl, hl', hr⟩ := h.standing c w (ha ▸ hc) (hw ▸ hw')
      exact ⟨job, x, r, hheld.cons hi (hh.trans hw'), hid, rfl, hl.trans hl', hr⟩
  | spent hi hp hs hw hl hr hk ha hm =>
    subst hi
    exact h.spent hp hs hw hl hr hk ha hm

theorem Reaches.inv {R : Rules} {history : List Event} {s : State} (h : Reaches R history s) :
    Chronicle Follows history ∧ Inv history s := by
  induction h with
  | start ledger => exact ⟨trivial, .start ledger⟩
  | @next history s _ i ih =>
    obtain ⟨hfollows, hinv⟩ := ih.2.next (handle_effect R i s)
    exact ⟨⟨hfollows, ih.1⟩, hinv⟩

end AutomationTool.Executor.PublishOperation
