import AutomationTool.Core.LTS
import AutomationTool.Desktop.UpdatePolicy

/-!
# The coordinator of app updates

`AppUpdateCoordinator` holds what it shows (`state`) and the update it would install
(`pending_update`); the policy and the package cache are on disk. `check` and `decide` take
`check_in_progress` in turn. Each is cut where it waits, where it leaves something on disk,
and where what it shows changes: the process may end between any two pieces, and whoever
started a check may drop it.

* `Flow`: what the call that holds `check_in_progress` has yet to do.
* `Entry`: the history. What was cached when a check began, what each check found, what was
  on show when a decision was submitted, whose decision was stored, and the policy's document
  at each installation.
* `system`: an app that may start as any build, with any file left by the last one.

What the server, the disk and the installer answer comes with the step. A thread that panics
with a mutex held poisons it. `sha256` and the signature check are parameters.
-/
namespace AutomationTool.Desktop.AppUpdates

open Editing (sha256Pattern)

abbrev Bytes := List UInt8

variable [Semver]

/-! ## The package cache -/

inductive UpdateDownloadErrorCode where
  | transportUnavailable | manifestRejected | signatureRejected | storageUnavailable
  deriving DecidableEq

structure CachedUpdateRecord where
  version : List Char
  channel : List Char
  policy : UpdatePolicy
  target : UpdateTarget
  arch : UpdateArchitecture
  sha256 : List Char
  sizeBytes : Nat
  deriving DecidableEq

omit [Semver] in
/-- mirrors app_update_cache.rs:93-103 -/
def CachedUpdateRecord.fromRelease (release : UpdateRelease) : CachedUpdateRecord where
  version := release.version
  channel := release.channel
  policy := release.policy
  target := release.artifact.target
  arch := release.artifact.arch
  sha256 := release.artifact.sha256
  sizeBytes := release.artifact.sizeBytes

omit [Semver] in
/-- mirrors app_update_cache.rs:89-91,105-107 -/
def CachedUpdateRecord.matchesRelease (r : CachedUpdateRecord) (release : UpdateRelease) : Bool :=
  r = fromRelease release

/-- mirrors app_update_cache.rs:109-119 -/
def CachedUpdateRecord.validate (r : CachedUpdateRecord) : Bool :=
  (parseCanonicalVersion r.version).isSome && isSafeChannel r.channel &&
    sha256Pattern r.sha256 && 1 ≤ r.sizeBytes && r.sizeBytes ≤ maxUpdateArtifactBytes

/-- The manifest's file: `foreign` is one that holds no record. -/
inductive ManifestFile where
  | missing
  | foreign
  | record (r : CachedUpdateRecord)
  deriving DecidableEq

structure CacheFiles where
  manifest : ManifestFile
  package : Option Bytes
  deriving DecidableEq

structure DownloadSource where
  url : List Char
  signature : List Char
  deriving DecidableEq

variable (digest : Bytes → List Char) (verifies : List Char → Bytes → Bool)

/-- mirrors app_update_cache.rs:506-514 -/
def loadCacheManifest (manifest : ManifestFile) :
    Except UpdateDownloadErrorCode (Option CachedUpdateRecord) :=
  match manifest with
  | .missing => .ok none
  | .foreign => .error .storageUnavailable
  | .record r => if r.validate then .ok (some r) else .error .storageUnavailable

/-- `readable`: every file can be read.
mirrors app_update_cache.rs:197-211 -/
def cached (readable : Bool) (files : CacheFiles) :
    Except UpdateDownloadErrorCode (Option CachedUpdateRecord) :=
  if readable = false then .error .storageUnavailable
  else
    match loadCacheManifest files.manifest, files.package with
    | .error code, _ => .error code
    | .ok none, none => .ok none
    | .ok none, some _ => .error .storageUnavailable
    | .ok (some _), none => .error .storageUnavailable
    | .ok (some record), some package =>
      if package.length ≠ record.sizeBytes ∨ digest package ≠ record.sha256 then
        .error .storageUnavailable
      else .ok (some record)

/-- mirrors app_update_cache.rs:213-244 -/
def readVerifiedPackage (readable : Bool) (files : CacheFiles) (release : UpdateRelease)
    (source : DownloadSource) : Except UpdateDownloadErrorCode Bytes :=
  match cached digest readable files, files.package with
  | .error code, _ => .error code
  | .ok none, _ => .error .storageUnavailable
  | .ok (some _), none => .error .storageUnavailable
  | .ok (some record), some package =>
    if record.matchesRelease release = false then .error .manifestRejected
    else if package.length ≠ record.sizeBytes ∨ digest package ≠ record.sha256 then
      .error .storageUnavailable
    else if verifies source.signature package = false then .error .signatureRejected
    else .ok package

/-- What a start leaves of the manifest and the package.
mirrors app_update_cache.rs:375-408 -/
def validateDiskState (files : CacheFiles) : CacheFiles :=
  match loadCacheManifest files.manifest, files.package with
  | .ok (some record), some package =>
    if package.length ≠ record.sizeBytes ∨ digest package ≠ record.sha256 then ⟨.missing, none⟩
    else files
  | _, _ => ⟨.missing, none⟩

/-! ## What the coordinator holds -/

inductive UpdateErrorStage where
  | configuration | check | download | storage | install
  deriving DecidableEq

inductive UpdateErrorCode where
  | configurationInvalid | manifestRejected | transportUnavailable | signatureRejected
  | storageUnavailable | installationFailed
  deriving DecidableEq

inductive UpdateState where
  | idle
  | disabled
  | checking (trigger : UpdateCheckTrigger)
  | upToDate (trigger : UpdateCheckTrigger)
  | available (release : UpdateRelease)
  | downloading (release : UpdateRelease) (downloadedBytes : Nat) (totalBytes : Option Nat)
  | ready (release : UpdateRelease) (action : UpdatePolicyAction)
  | installing (release : UpdateRelease)
  | installationLaunched (release : UpdateRelease)
  | failed (stage : UpdateErrorStage) (code : UpdateErrorCode) (retryable : Bool)
  deriving DecidableEq

/-- `STATE_STORE_UNAVAILABLE`. -/
def stateStoreUnavailable : UpdateState := .failed .storage .storageUnavailable false

inductive UpdateCheckErrorCode where
  | configurationInvalid | checkUnavailable
  deriving DecidableEq

inductive UpdateCoordinationErrorCode where
  | operationInProgress | decisionUnavailable
  deriving DecidableEq

/-- The installer itself is not modelled, only what it answers. -/
structure CheckedUpdate where
  release : UpdateRelease
  source : DownloadSource
  deriving DecidableEq

/-- `std::sync::Mutex`. -/
structure Mutex (α : Type) where
  value : α
  poisoned : Bool

section Mutex

variable {α : Type}

def Mutex.new (value : α) : Mutex α := ⟨value, false⟩

def Mutex.lock (m : Mutex α) : Option α := if m.poisoned then none else some m.value

def Mutex.set (m : Mutex α) (value : α) : Mutex α := if m.poisoned then m else ⟨value, false⟩

end Mutex

/-- How far `download` is: `swapped` once the package is in place, `recorded` once its
manifest is. -/
inductive Fetch where
  | requesting | swapped | recorded
  deriving DecidableEq

/-- What the call that holds `check_in_progress` has yet to do. -/
inductive Flow where
  | idle
  | asking (trigger : UpdateCheckTrigger)
  | observing (trigger : UpdateCheckTrigger) (checked : CheckedUpdate)
  | looking (trigger : UpdateCheckTrigger) (checked : CheckedUpdate) (action : UpdatePolicyAction)
  | fetching (checked : CheckedUpdate) (action : UpdatePolicyAction) (fetch : Fetch)
  | deciding (decision : UpdateDecision) (checked : CheckedUpdate)
  | installing (checked : CheckedUpdate)

/-- `AppUpdateCoordinator` and its policy. `answer` is what the last call returned. -/
structure App where
  policy : Mutex UpdatePolicyState
  state : Mutex UpdateState
  pending : Mutex (Option CheckedUpdate)
  flow : Flow
  answer : Option (Except UpdateCoordinationErrorCode UpdateState)

structure Disk where
  policy : PolicyFile
  cache : CacheFiles

/-- What happened, as far as installations are concerned. -/
inductive Entry where
  | launched
  | checkStarted (trigger : UpdateCheckTrigger) (cached : Option CachedUpdateRecord)
  | upToDate
  | checked (release : UpdateRelease) (action : UpdatePolicyAction)
  | submitted (decision : UpdateDecision) (shown : UpdateState)
  | stored (decision : UpdateDecision) (release : UpdateRelease) (accepted : Bool)
  | installStarted (release : UpdateRelease) (document : StoredUpdatePolicy)
  | installerRan (release : UpdateRelease) (source : DownloadSource) (package : Bytes)

structure Machine where
  disk : Disk
  app : Option App
  history : List Entry

omit [Semver] in
/-- mirrors app_update_coordinator.rs:146-164 -/
def App.new (policy : UpdatePolicyState) : App where
  policy := .new policy
  state := .new .idle
  pending := .new none
  flow := .idle
  answer := none

namespace App

omit [Semver]

/-- mirrors app_update_coordinator.rs:420-428 -/
def setState (a : App) (next : UpdateState) : App := { a with state := a.state.set next }

/-- `set_state` as the last thing a call does. -/
def finish (a : App) (next : UpdateState) : App :=
  { a.setState next with
    flow := .idle
    answer := some (.ok (if a.state.poisoned then stateStoreUnavailable else next)) }

/-- mirrors app_update_coordinator.rs:430-436 -/
def fail (a : App) (stage : UpdateErrorStage) (code : UpdateErrorCode) (retryable : Bool) : App :=
  a.finish (.failed stage code retryable)

/-- A decision that is turned down. -/
def refuse (a : App) (code : UpdateCoordinationErrorCode) : App :=
  { a with flow := .idle, answer := some (.error code) }

end App

namespace Machine

variable (m : Machine) (a : App)

omit [Semver] in
/-- The app goes on as `a`, with `entries` added to the history. -/
def goOn (entries : List Entry) : Machine :=
  { m with app := some a, history := entries ++ m.history }

/-! ## Starting -/

/-- A start of some build. Without a policy or a cache there is no coordinator.
mirrors app_update_policy.rs:262-341 and
app_update_cache.rs:175-195 -/
def launch (readable cacheReady : Bool) (save : SaveOutcome) (version channel : List Char) :
    Machine :=
  match initializePolicy readable save m.disk.policy version channel with
  | (file, .error _) => { m with disk := { m.disk with policy := file }, app := none }
  | (file, .ok policy) =>
    if cacheReady then
      { disk := ⟨file, validateDiskState digest m.disk.cache⟩
        app := some (.new policy)
        history := .launched :: m.history }
    else { m with disk := { m.disk with policy := file }, app := none }

/-! ## A check -/

/-- A check while another call is under way returns what is on show.
mirrors app_update_coordinator.rs:179-193 -/
def check (trigger : UpdateCheckTrigger) : Machine :=
  match a.flow with
  | .idle =>
    m.goOn { a.setState (.checking trigger) with flow := .asking trigger }
      [.checkStarted trigger ((cached digest true m.disk.cache).toOption.join)]
  | _ =>
    m.goOn { a with
      answer := some (.ok (a.state.lock.getD (.failed .check .transportUnavailable true))) } []

omit [Semver] in
/-- mirrors app_update_coordinator.rs:195-222 -/
def answered (trigger : UpdateCheckTrigger)
    (answer : Except UpdateCheckErrorCode (Option CheckedUpdate)) : Machine :=
  match answer with
  | .error .configurationInvalid =>
    m.goOn (a.fail .configuration .configurationInvalid false) []
  | .error .checkUnavailable => m.goOn (a.fail .check .transportUnavailable true) []
  | .ok none =>
    m.goOn ({ a with pending := a.pending.set none }.finish (.upToDate trigger)) [.upToDate]
  | .ok (some checked) =>
    m.goOn { a.setState (.available checked.release) with flow := .observing trigger checked } []

omit [Semver] in
/-- mirrors app_update_coordinator.rs:227-246 -/
def observeFailed : UpdatePolicyErrorCode → App
  | .storageUnavailable => a.fail .storage .storageUnavailable false
  | .configurationInvalid => a.fail .configuration .configurationInvalid false
  | .candidateUnavailable | .decisionNotAllowed | .releaseStale | .releaseMutation =>
    a.fail .check .manifestRejected false

/-- mirrors app_update_coordinator.rs:224-248 -/
def observed (trigger : UpdateCheckTrigger) (checked : CheckedUpdate) (save : SaveOutcome) :
    Machine :=
  match a.policy.lock with
  | none => m.goOn (observeFailed a .storageUnavailable) []
  | some policy =>
    let judged := policy.observeRelease save m.disk.policy checked.release
    let a := { a with policy := a.policy.set judged.state }
    let m := { m with disk := { m.disk with policy := judged.file } }
    match judged.result with
    | .error code => m.goOn (observeFailed a code) []
    | .ok evaluation => m.goOn { a with flow := .looking trigger checked evaluation.action } []

omit [Semver] in
/-- The entry of `install_checked`, with the policy's document as it then is.
mirrors app_update_coordinator.rs:376-379 -/
def installChecked (checked : CheckedUpdate) (entries : List Entry) : Machine :=
  m.goOn { a.setState (.installing checked.release) with flow := .installing checked }
    (.installStarted checked.release a.policy.value.document :: entries)

/-- mirrors app_update_coordinator.rs:249-290 -/
def looked (trigger : UpdateCheckTrigger) (checked : CheckedUpdate) (action : UpdatePolicyAction)
    (readable : Bool) : Machine :=
  match cached digest readable m.disk.cache with
  | .error _ => m.goOn (a.fail .storage .storageUnavailable false) []
  | .ok cached =>
    let cachedBefore := cached.any fun record => record.matchesRelease checked.release
    if a.pending.poisoned then m.goOn (a.fail .storage .storageUnavailable false) []
    else
      let a := { a with pending := a.pending.set (some checked) }
      let found := [Entry.checked checked.release action]
      if trigger = .startup ∧ cachedBefore ∧ (action = .forced ∨ action = .installRequested) then
        m.installChecked a checked found
      else if action = .suppressed then m.goOn (a.finish (.ready checked.release action)) found
      else m.goOn { a with flow := .fetching checked action .requesting } found

omit [Semver] in
/-- mirrors app_update_coordinator.rs:315-336 -/
def downloadFailed : UpdateDownloadErrorCode → App
  | .transportUnavailable => a.fail .download .transportUnavailable true
  | .manifestRejected => a.fail .download .manifestRejected false
  | .signatureRejected => a.fail .download .signatureRejected false
  | .storageUnavailable => a.fail .storage .storageUnavailable false

omit [Semver] in
/-- mirrors app_update_coordinator.rs:292-336 -/
def fetched (checked : CheckedUpdate) (action : UpdatePolicyAction)
    (result : Except UpdateDownloadErrorCode Unit) : Machine :=
  match result with
  | .error code => m.goOn (downloadFailed a code) []
  | .ok () => m.goOn (a.finish (.ready checked.release action)) []

/-! ## A decision -/

omit [Semver] in
/-- mirrors app_update_coordinator.rs:340-365 -/
def decide (decision : UpdateDecision) : Machine :=
  match a.flow with
  | .idle =>
    match a.state.lock, a.pending.lock with
    | some (.ready release .prompt), some (some checked) =>
      m.goOn { a with flow := .deciding decision checked }
        [.submitted decision (.ready release .prompt)]
    | _, _ => m.goOn (a.refuse .decisionUnavailable) []
  | _ => m.goOn { a with answer := some (.error .operationInProgress) } []

omit [Semver] in
/-- A decision that is now in the policy's file, accepted or not. -/
def storedEntry (decision : UpdateDecision) (active : Option UpdateRelease) (judged : Judged) :
    List Entry :=
  match judged.written, active with
  | true, some release => [.stored decision release judged.result.isOk]
  | _, _ => []

/-- mirrors app_update_coordinator.rs:366-380 -/
def settled (decision : UpdateDecision) (checked : CheckedUpdate) (save : SaveOutcome) :
    Machine :=
  match a.policy.lock with
  | none => m.goOn (a.refuse .decisionUnavailable) []
  | some policy =>
    let judged := policy.decide save m.disk.policy decision
    let a := { a with policy := a.policy.set judged.state }
    let m := { m with disk := { m.disk with policy := judged.file } }
    let stored := storedEntry decision policy.activeRelease judged
    match judged.result with
    | .error _ => m.goOn (a.refuse .decisionUnavailable) stored
    | .ok evaluation =>
      if evaluation.release ≠ checked.release then
        m.goOn (a.refuse .decisionUnavailable) stored
      else if evaluation.action = .installRequested then m.installChecked a checked stored
      else m.goOn (a.finish (.ready checked.release evaluation.action)) stored

/-! ## An installation -/

/-- What the parts of an installation answer. -/
structure InstallOutcome where
  readable : Bool
  prepared : Bool
  installed : Bool
  completed : Bool

/-- mirrors app_update_coordinator.rs:380-402 and
app_update_installation.rs:207-239 -/
def installed (checked : CheckedUpdate) (outcome : InstallOutcome) : Machine :=
  match readVerifiedPackage digest verifies outcome.readable m.disk.cache checked.release
      checked.source with
  | .error _ => m.goOn (a.fail .install .storageUnavailable false) []
  | .ok package =>
    if outcome.prepared = false then m.goOn (a.fail .install .installationFailed false) []
    else
      let ran := [Entry.installerRan checked.release checked.source package]
      if outcome.installed && outcome.completed then
        m.goOn (a.finish (.installationLaunched checked.release)) ran
      else m.goOn (a.fail .install .installationFailed false) ran

end Machine

/-! ## The system -/

inductive Act where
  | launch (readable cacheReady : Bool) (save : SaveOutcome) (version channel : List Char)
  | exit
  | check (trigger : UpdateCheckTrigger)
  | answer (answer : Except UpdateCheckErrorCode (Option CheckedUpdate))
  | observe (save : SaveOutcome)
  | look (readable : Bool)
  | progress (downloaded : Nat)
  | swap (package : Bytes)
  | record
  | fetched (result : Except UpdateDownloadErrorCode Unit)
  | decide (decision : UpdateDecision)
  | settle (save : SaveOutcome)
  | install (outcome : Machine.InstallOutcome)
  | interrupt
  | panic (policy state pending : Bool)
  | damage (policy manifest package : Bool)

omit [Semver] in
/-- The mutexes a panic has poisoned. -/
def App.poison (a : App) (policy state pending : Bool) : App :=
  { a with
    policy := { a.policy with poisoned := a.policy.poisoned || policy }
    state := { a.state with poisoned := a.state.poisoned || state }
    pending := { a.pending with poisoned := a.pending.poisoned || pending } }

omit [Semver] in
/-- Files that are gone, or hold nothing that can be read. -/
def Disk.damage (d : Disk) (policy manifest package : Bool) : Disk where
  policy := if policy then .foreign else d.policy
  cache := ⟨if manifest then .foreign else d.cache.manifest,
    if package then none else d.cache.package⟩

/-- One atomic piece of a call, or what befalls the app from outside. -/
inductive Step : Machine → Act → Machine → Prop where
  | launch (m : Machine) (readable cacheReady : Bool) (save : SaveOutcome)
      (version channel : List Char) :
      m.app = none → Step m (.launch readable cacheReady save version channel)
        (m.launch digest readable cacheReady save version channel)
  | exit (m : Machine) : Step m .exit { m with app := none }
  | check {m : Machine} {a : App} (trigger : UpdateCheckTrigger) : m.app = some a →
      Step m (.check trigger) (m.check digest a trigger)
  | answer {m : Machine} {a : App} {trigger : UpdateCheckTrigger}
      (answer : Except UpdateCheckErrorCode (Option CheckedUpdate)) :
      m.app = some a → a.flow = .asking trigger →
      Step m (.answer answer) (m.answered a trigger answer)
  | observe {m : Machine} {a : App} {trigger : UpdateCheckTrigger} {checked : CheckedUpdate}
      (save : SaveOutcome) : m.app = some a → a.flow = .observing trigger checked →
      Step m (.observe save) (m.observed a trigger checked save)
  | look {m : Machine} {a : App} {trigger : UpdateCheckTrigger} {checked : CheckedUpdate}
      {action : UpdatePolicyAction} (readable : Bool) :
      m.app = some a → a.flow = .looking trigger checked action →
      Step m (.look readable) (m.looked digest a trigger checked action readable)
  | progress {m : Machine} {a : App} {checked : CheckedUpdate} {action : UpdatePolicyAction}
      (downloaded : Nat) : m.app = some a → a.flow = .fetching checked action .requesting →
      Step m (.progress downloaded)
        (m.goOn (a.setState (.downloading checked.release downloaded
          (some checked.release.artifact.sizeBytes))) [])
  | swap {m : Machine} {a : App} {checked : CheckedUpdate} {action : UpdatePolicyAction}
      (package : Bytes) : m.app = some a → a.flow = .fetching checked action .requesting →
      package.length = checked.release.artifact.sizeBytes →
      digest package = checked.release.artifact.sha256 →
      verifies checked.source.signature package = true →
      Step m (.swap package)
        ({ m with disk.cache.package := some package }.goOn
          { a with flow := .fetching checked action .swapped } [])
  | record {m : Machine} {a : App} {checked : CheckedUpdate} {action : UpdatePolicyAction} :
      m.app = some a → a.flow = .fetching checked action .swapped →
      Step m .record
        ({ m with disk.cache.manifest := .record (.fromRelease checked.release) }.goOn
          { a with flow := .fetching checked action .recorded } [])
  /-- `download` returns: an error at any point, the record once it is saved or if it was. -/
  | fetched {m : Machine} {a : App} {checked : CheckedUpdate} {action : UpdatePolicyAction}
      {fetch : Fetch} (result : Except UpdateDownloadErrorCode Unit) :
      m.app = some a → a.flow = .fetching checked action fetch →
      (result = .ok () → fetch = .recorded ∨ fetch = .requesting ∧
        cached digest true m.disk.cache = .ok (some (.fromRelease checked.release))) →
      Step m (.fetched result) (m.fetched a checked action result)
  | decide {m : Machine} {a : App} (decision : UpdateDecision) : m.app = some a →
      Step m (.decide decision) (m.decide a decision)
  | settle {m : Machine} {a : App} {decision : UpdateDecision} {checked : CheckedUpdate}
      (save : SaveOutcome) : m.app = some a → a.flow = .deciding decision checked →
      Step m (.settle save) (m.settled a decision checked save)
  | install {m : Machine} {a : App} {checked : CheckedUpdate}
      (outcome : Machine.InstallOutcome) :
      m.app = some a → a.flow = .installing checked →
      Step m (.install outcome) (m.installed digest verifies a checked outcome)
  /-- The call under way is dropped where it waits, or its thread panics. -/
  | interrupt {m : Machine} {a : App} : m.app = some a →
      Step m .interrupt (m.goOn { a with flow := .idle } [])
  | panic {m : Machine} {a : App} (policy state pending : Bool) : m.app = some a →
      Step m (.panic policy state pending) (m.goOn (a.poison policy state pending) [])
  | damage (m : Machine) (policy manifest package : Bool) :
      Step m (.damage policy manifest package)
        { m with disk := m.disk.damage policy manifest package }

/-- It starts with any files left by an earlier build, and nothing known of before. -/
def system : LTS Machine Act where
  init m := m.app = none ∧ m.history = []
  step := Step digest verifies

end AutomationTool.Desktop.AppUpdates
