import AutomationTool.Editing.Materials

/-!
# The policy of app updates

`UpdatePolicyService` keeps one document on disk: the lowest version it may offer, the
newest release it has seen, and what the user decided on that one. `observe_release`
judges what the server offers, `decide` stores the user's answer.

* `SaveOutcome`: a save that errs may have replaced the file all the same, when only the
  directory could not be synced afterwards.
* `observeRelease_ok`, `decide_ok`: what an evaluation says of the document behind it.
* `Unrequested`: a document that does not ask for a release to be installed. Only `decide`
  with `InstallNow` takes that away (`observeRelease_unrequested`, `initialize_unrequested`).

The serial form is not modelled: a file holds a document, in the serializer's own form or
in another, or something that is no document. The `semver` crate is a parameter.
-/
namespace AutomationTool.Desktop.AppUpdates

open Editing (sha256Pattern)

/-! ## Releases -/

inductive UpdatePolicy where
  | optional | forced
  deriving DecidableEq

inductive UpdateTarget where
  | darwin | windows
  deriving DecidableEq

inductive UpdateArchitecture where
  | aarch64 | x86_64
  deriving DecidableEq

structure UpdateArtifact where
  target : UpdateTarget
  arch : UpdateArchitecture
  sha256 : List Char
  sizeBytes : Nat
  deriving DecidableEq

structure UpdateRelease where
  version : List Char
  channel : List Char
  policy : UpdatePolicy
  notes : Option (List Char)
  publishedAt : Option (List Char)
  artifact : UpdateArtifact
  deriving DecidableEq

inductive UpdateCheckTrigger where
  | startup | periodic | manual
  deriving DecidableEq

inductive UpdateDecision where
  | installNow | defer | skipVersion
  deriving DecidableEq

inductive UpdatePolicyAction where
  | prompt | deferred | skipped | suppressed | installRequested | forced
  deriving DecidableEq

/-- `MAX_UPDATE_ARTIFACT_BYTES`. -/
def maxUpdateArtifactBytes : Nat := 1024 * 1024 * 1024

/-- mirrors app_update_policy.rs:535-542 -/
def isSafeChannel (value : List Char) : Bool :=
  value.length ≤ 32 && (value.head?.any fun c => 'a' ≤ c && c ≤ 'z') &&
    value.all fun c => ('a' ≤ c && c ≤ 'z') || ('0' ≤ c && c ≤ '9') || c = '-'

/-- `semver::Version`. -/
class Semver where
  Version : Type
  [order : LinearOrder Version]
  parse : List Char → Option Version
  toText : Version → List Char

attribute [reducible, instance] Semver.order

variable [Semver]

/-- mirrors app_update_policy.rs:527-533 -/
def parseCanonicalVersion (value : List Char) : Option Semver.Version := do
  let version ← Semver.parse value
  if Semver.toText version ≠ value then none else some version

/-! ## The stored document -/

inductive UpdatePolicyErrorCode where
  | configurationInvalid | storageUnavailable | candidateUnavailable | decisionNotAllowed
  | releaseStale | releaseMutation
  deriving DecidableEq

structure StoredReleaseIdentity where
  version : List Char
  channel : List Char
  policy : UpdatePolicy
  target : UpdateTarget
  arch : UpdateArchitecture
  sha256 : List Char
  sizeBytes : Nat
  deriving DecidableEq

omit [Semver] in
/-- mirrors app_update_policy.rs:127-137 -/
def StoredReleaseIdentity.fromRelease (release : UpdateRelease) : StoredReleaseIdentity where
  version := release.version
  channel := release.channel
  policy := release.policy
  target := release.artifact.target
  arch := release.artifact.arch
  sha256 := release.artifact.sha256
  sizeBytes := release.artifact.sizeBytes

/-- mirrors app_update_policy.rs:143-152 -/
def StoredReleaseIdentity.validate (i : StoredReleaseIdentity) (configuredChannel : List Char) :
    Bool :=
  (parseCanonicalVersion i.version).isSome && i.channel = configuredChannel &&
    sha256Pattern i.sha256 && 1 ≤ i.sizeBytes && i.sizeBytes ≤ maxUpdateArtifactBytes

structure StoredDecision where
  version : List Char
  decision : UpdateDecision
  deriving DecidableEq

structure StoredUpdatePolicy where
  schemaVersion : Nat
  configuredChannel : List Char
  minimumVersion : List Char
  highestObserved : Option StoredReleaseIdentity
  decision : Option StoredDecision
  revision : Nat
  deriving DecidableEq

namespace StoredUpdatePolicy

/-- mirrors app_update_policy.rs:174-183 -/
def new (configuredChannel : List Char) (currentVersion : Semver.Version) : StoredUpdatePolicy where
  schemaVersion := 1
  configuredChannel := configuredChannel
  minimumVersion := Semver.toText currentVersion
  highestObserved := none
  decision := none
  revision := 0

/-- What the newest release seen and the decision on it must satisfy.
mirrors app_update_policy.rs:198-217 -/
def validateObserved (d : StoredUpdatePolicy) (minimum : Semver.Version) : Bool :=
  match d.highestObserved, d.decision with
  | none, none => true
  | none, some _ => false
  | some observed, decision =>
    observed.validate d.configuredChannel &&
      ((parseCanonicalVersion observed.version).any fun version => minimum < version) &&
      !(observed.policy = .forced && decision.isSome) &&
      decision.all fun stored =>
        (parseCanonicalVersion stored.version).isSome && stored.version = observed.version

/-- mirrors app_update_policy.rs:189-219 -/
def validateSchema (d : StoredUpdatePolicy) (expectedSchema : Nat) : Bool :=
  d.schemaVersion = expectedSchema && isSafeChannel d.configuredChannel && d.revision ≠ 0 &&
    (parseCanonicalVersion d.minimumVersion).any d.validateObserved

/-- mirrors app_update_policy.rs:185-187 -/
def validate (d : StoredUpdatePolicy) : Bool := d.validateSchema 1

end StoredUpdatePolicy

/-- What the policy's file holds. `canonical`: in the serializer's own form. -/
inductive PolicyFile where
  | missing
  | foreign
  | document (d : StoredUpdatePolicy) (canonical : Bool)

/-- How a save ends. One that errs may have replaced the file (`unsynced`). -/
inductive SaveOutcome where
  | saved | unsaved | unsynced
  deriving DecidableEq

/-- What a save leaves in the file, whether it wrote there, and what it returns. -/
structure Saved where
  file : PolicyFile
  written : Bool
  result : Except UpdatePolicyErrorCode StoredUpdatePolicy

/-- mirrors app_update_policy.rs:508-525 -/
def savedDocument (save : SaveOutcome) (file : PolicyFile) (document : StoredUpdatePolicy) :
    Saved :=
  let next := { document with revision := document.revision + 1 }
  if 2 ^ 64 ≤ document.revision + 1 ∨ next.validate = false then
    ⟨file, false, .error .storageUnavailable⟩
  else
    match save with
    | .saved => ⟨.document next true, true, .ok next⟩
    | .unsaved => ⟨file, false, .error .storageUnavailable⟩
    | .unsynced => ⟨.document next true, true, .error .storageUnavailable⟩

/-- A document of this schema or the one before, and whether it was changed on the way.
mirrors app_update_policy.rs:480-497 -/
def knownDocument (stored : StoredUpdatePolicy) (canonical : Bool) :
    Option (StoredUpdatePolicy × Bool) :=
  if stored.schemaVersion = 1 then
    if stored.validate then some (stored, !canonical) else none
  else if stored.schemaVersion = 0 then
    if stored.validateSchema 0 then some ({ stored with schemaVersion := 1 }, true) else none
  else none

/-- mirrors app_update_policy.rs:479-506 -/
def usableDocument (stored : StoredUpdatePolicy) (canonical : Bool)
    (configuredChannel : List Char) : Option (StoredUpdatePolicy × Bool) :=
  match knownDocument stored canonical with
  | none => none
  | some (document, repaired) =>
    if document.configuredChannel ≠ configuredChannel then
      some ({ document with
        configuredChannel := configuredChannel, highestObserved := none, decision := none }, true)
    else some (document, repaired)

/-! ## The service -/

structure UpdatePolicyState where
  document : StoredUpdatePolicy
  activeRelease : Option UpdateRelease

structure UpdatePolicyEvaluation where
  release : UpdateRelease
  action : UpdatePolicyAction
  deriving DecidableEq

/-- The document a start goes on with, and whether it must be saved first.
mirrors app_update_policy.rs:285-329 -/
def startingDocument (file : PolicyFile) (currentVersion : Semver.Version)
    (configuredChannel : List Char) : Except UpdatePolicyErrorCode (StoredUpdatePolicy × Bool) :=
  let (document, needsSave) :=
    match file with
    | .document stored canonical =>
      (usableDocument stored canonical configuredChannel).getD
        (.new configuredChannel currentVersion, true)
    | .missing | .foreign => (.new configuredChannel currentVersion, true)
  match parseCanonicalVersion document.minimumVersion with
  | none => .error .storageUnavailable
  | some minimum =>
    if minimum < currentVersion then
      let raised := { document with minimumVersion := Semver.toText currentVersion }
      match document.highestObserved with
      | none => .ok (raised, true)
      | some observed =>
        match parseCanonicalVersion observed.version with
        | none => .error .storageUnavailable
        | some version =>
          if version ≤ currentVersion then
            .ok ({ raised with highestObserved := none, decision := none }, true)
          else .ok (raised, true)
    else .ok (document, needsSave)

/-- `readable`: the directories and the file can be read.
mirrors app_update_policy.rs:262-341 -/
def initializePolicy (readable : Bool) (save : SaveOutcome) (file : PolicyFile)
    (currentVersion configuredChannel : List Char) :
    PolicyFile × Except UpdatePolicyErrorCode UpdatePolicyState :=
  match parseCanonicalVersion currentVersion with
  | none => (file, .error .configurationInvalid)
  | some current =>
    if isSafeChannel configuredChannel = false then (file, .error .configurationInvalid)
    else if readable = false then (file, .error .storageUnavailable)
    else
      match startingDocument file current configuredChannel with
      | .error code => (file, .error code)
      | .ok (document, false) => (file, .ok ⟨document, none⟩)
      | .ok (document, true) =>
        let saved := savedDocument save file document
        (saved.file, saved.result.map fun document => ⟨document, none⟩)

/-- mirrors app_update_policy.rs:443-461 -/
def actionForObservation (document : StoredUpdatePolicy) (policy : UpdatePolicy) :
    Except UpdatePolicyErrorCode UpdatePolicyAction :=
  if policy = .forced then
    if document.decision = none then .ok .forced else .error .storageUnavailable
  else
    match document.decision.map StoredDecision.decision with
    | none | some .defer => .ok .prompt
    | some .skipVersion => .ok .suppressed
    | some .installNow => .ok .installRequested

/-- Whether the release is newer than any seen before.
mirrors app_update_policy.rs:351-383 -/
def StoredUpdatePolicy.replaceObserved (d : StoredUpdatePolicy) (release : UpdateRelease) :
    Except UpdatePolicyErrorCode Bool :=
  if release.channel ≠ d.configuredChannel then .error .releaseMutation
  else
    match parseCanonicalVersion release.version, parseCanonicalVersion d.minimumVersion with
    | none, _ => .error .releaseMutation
    | some _, none => .error .storageUnavailable
    | some version, some minimum =>
      if version ≤ minimum then .error .releaseStale
      else if (StoredReleaseIdentity.fromRelease release).validate d.configuredChannel = false then
        .error .releaseMutation
      else
        match d.highestObserved with
        | none => .ok true
        | some observed =>
          match parseCanonicalVersion observed.version with
          | none => .error .storageUnavailable
          | some seen =>
            if version < seen then .error .releaseStale
            else if version = seen then
              if observed ≠ .fromRelease release then .error .releaseMutation else .ok false
            else .ok true

/-- The policy's file and state after a call, whether the file was written, and what the
call returned. -/
structure Judged where
  file : PolicyFile
  state : UpdatePolicyState
  written : Bool
  result : Except UpdatePolicyErrorCode UpdatePolicyEvaluation

/-- The end of `observe_release`: the action, and the release a decision may be about.
mirrors app_update_policy.rs:391-397 -/
def evaluated (file : PolicyFile) (state : UpdatePolicyState) (written : Bool)
    (release : UpdateRelease) : Judged :=
  match actionForObservation state.document release.policy with
  | .error code => ⟨file, state, written, .error code⟩
  | .ok action =>
    let active := if action = .prompt ∨ action = .forced then some release else none
    ⟨file, { state with activeRelease := active }, written, .ok ⟨release, action⟩⟩

/-- mirrors app_update_policy.rs:343-398 -/
def UpdatePolicyState.observeRelease (state : UpdatePolicyState) (save : SaveOutcome)
    (file : PolicyFile) (release : UpdateRelease) : Judged :=
  match state.document.replaceObserved release with
  | .error code => ⟨file, state, false, .error code⟩
  | .ok false => evaluated file state false release
  | .ok true =>
    let next := { state.document with
      highestObserved := some (.fromRelease release), decision := none }
    let saved := savedDocument save file next
    match saved.result with
    | .error code => ⟨saved.file, state, saved.written, .error code⟩
    | .ok document => evaluated saved.file { state with document := document } saved.written release

omit [Semver] in
/-- mirrors app_update_policy.rs:426-430 -/
def UpdateDecision.action : UpdateDecision → UpdatePolicyAction
  | .installNow => .installRequested
  | .defer => .deferred
  | .skipVersion => .skipped

/-- mirrors app_update_policy.rs:400-433 -/
def UpdatePolicyState.decide (state : UpdatePolicyState) (save : SaveOutcome)
    (file : PolicyFile) (decision : UpdateDecision) : Judged :=
  match state.activeRelease, state.document.highestObserved with
  | none, _ => ⟨file, state, false, .error .candidateUnavailable⟩
  | some release, observed =>
    if release.policy = .forced then ⟨file, state, false, .error .decisionNotAllowed⟩
    else
      match observed with
      | none => ⟨file, state, false, .error .candidateUnavailable⟩
      | some observed =>
        if observed ≠ .fromRelease release then ⟨file, state, false, .error .releaseMutation⟩
        else
          let next := { state.document with decision := some ⟨release.version, decision⟩ }
          let saved := savedDocument save file next
          match saved.result with
          | .error code => ⟨saved.file, state, saved.written, .error code⟩
          | .ok document =>
            ⟨saved.file, ⟨document, none⟩, saved.written, .ok ⟨release, decision.action⟩⟩

/-! ## What a save leaves behind -/

/-- The same newest release and the same decision on it. -/
def StoredUpdatePolicy.SameChoice (d d' : StoredUpdatePolicy) : Prop :=
  d'.highestObserved = d.highestObserved ∧ d'.decision = d.decision

theorem savedDocument_ok {save : SaveOutcome} {file : PolicyFile}
    {document d : StoredUpdatePolicy} (h : (savedDocument save file document).result = .ok d) :
    (savedDocument save file document).file = .document d true ∧
      (savedDocument save file document).written = true ∧ document.SameChoice d := by
  simp only [savedDocument] at h ⊢
  split at h
  · cases h
  · rename_i hfits
    rw [if_neg hfits]
    cases save with
    | saved =>
      cases h
      exact ⟨rfl, rfl, rfl, rfl⟩
    | unsaved => cases h
    | unsynced => cases h

/-- The file is as it was, or holds what was to be saved. -/
theorem savedDocument_file (save : SaveOutcome) (file : PolicyFile)
    (document : StoredUpdatePolicy) :
    ((savedDocument save file document).written = false ∧
        (savedDocument save file document).file = file) ∨
      ((savedDocument save file document).written = true ∧
        ∃ d, (savedDocument save file document).file = .document d true ∧
          document.SameChoice d) := by
  simp only [savedDocument]
  split
  · exact .inl ⟨rfl, rfl⟩
  · cases save with
    | saved => exact .inr ⟨rfl, _, rfl, rfl, rfl⟩
    | unsaved => exact .inl ⟨rfl, rfl⟩
    | unsynced => exact .inr ⟨rfl, _, rfl, rfl, rfl⟩

/-! ## Documents that do not ask for a release -/

/-- The document holds no request to install the release `i`. -/
def StoredUpdatePolicy.Unrequested (i : StoredReleaseIdentity) (d : StoredUpdatePolicy) : Prop :=
  d.highestObserved = some i → d.decision.map StoredDecision.decision ≠ some .installNow

/-- Nor does a document in the file. -/
def PolicyFile.Unrequested (i : StoredReleaseIdentity) (file : PolicyFile) : Prop :=
  ∀ d canonical, file = .document d canonical → d.Unrequested i

variable {i : StoredReleaseIdentity}

omit [Semver] in
theorem StoredUpdatePolicy.Unrequested.of_sameChoice {d d' : StoredUpdatePolicy}
    (h : d.Unrequested i) (hs : d.SameChoice d') : d'.Unrequested i := by
  intro ho
  rw [hs.2]
  exact h (hs.1 ▸ ho)

omit [Semver] in
theorem StoredUpdatePolicy.unrequested_of_undecided {d : StoredUpdatePolicy}
    (h : d.decision = none) : d.Unrequested i := by
  intro _
  rw [h]
  exact fun he => nomatch he

omit [Semver] in
theorem PolicyFile.unrequested_document {d : StoredUpdatePolicy} {canonical : Bool} :
    (PolicyFile.document d canonical).Unrequested i ↔ d.Unrequested i := by
  refine ⟨fun h => h d canonical rfl, fun h d' canonical' he => ?_⟩
  cases he
  exact h

theorem savedDocument_unrequested (save : SaveOutcome) {file : PolicyFile}
    {document : StoredUpdatePolicy} (hf : file.Unrequested i) (hd : document.Unrequested i) :
    (savedDocument save file document).file.Unrequested i := by
  obtain ⟨-, he⟩ | ⟨-, d, he, hs⟩ := savedDocument_file save file document
  · rwa [he]
  · rw [he, PolicyFile.unrequested_document]
    exact hd.of_sameChoice hs

theorem savedDocument_result_unrequested {save : SaveOutcome} {file : PolicyFile}
    {document d : StoredUpdatePolicy} (h : (savedDocument save file document).result = .ok d)
    (hd : document.Unrequested i) : d.Unrequested i :=
  hd.of_sameChoice (savedDocument_ok h).2.2

/-! ### A start -/

theorem knownDocument_sameChoice {stored document : StoredUpdatePolicy}
    {canonical repaired : Bool}
    (h : knownDocument stored canonical = some (document, repaired)) :
    stored.SameChoice document := by
  simp only [knownDocument] at h
  split at h
  · split at h <;> cases h
    exact ⟨rfl, rfl⟩
  · split at h
    · split at h <;> cases h
      exact ⟨rfl, rfl⟩
    · cases h

theorem usableDocument_unrequested {stored document : StoredUpdatePolicy}
    {canonical repaired : Bool} {channel : List Char} (hs : stored.Unrequested i)
    (h : usableDocument stored canonical channel = some (document, repaired)) :
    document.Unrequested i := by
  simp only [usableDocument] at h
  split at h
  · cases h
  · rename_i hknown
    split at h <;> cases h
    · exact StoredUpdatePolicy.unrequested_of_undecided rfl
    · exact hs.of_sameChoice (knownDocument_sameChoice hknown)

theorem startingDocument_unrequested {file : PolicyFile} {current : Semver.Version}
    {channel : List Char} {document : StoredUpdatePolicy} {needsSave : Bool}
    (hf : file.Unrequested i)
    (h : startingDocument file current channel = .ok (document, needsSave)) :
    document.Unrequested i := by
  simp only [startingDocument] at h
  generalize hp : (match file with
    | .document stored canonical =>
      (usableDocument stored canonical channel).getD (.new channel current, true)
    | .missing | .foreign => (StoredUpdatePolicy.new channel current, true)) = p at h
  have hstart : p.1.Unrequested i := by
    cases file with
    | missing | foreign =>
      cases hp
      exact StoredUpdatePolicy.unrequested_of_undecided rfl
    | document stored canonical =>
      simp only at hp
      cases hu : usableDocument stored canonical channel with
      | none =>
        rw [hu] at hp
        cases hp
        exact StoredUpdatePolicy.unrequested_of_undecided rfl
      | some used =>
        rw [hu] at hp
        cases hp
        exact usableDocument_unrequested (hf _ _ rfl) hu
  split at h
  · cases h
  · split at h
    · split at h
      · cases h
        exact hstart
      · split at h
        · cases h
        · split at h <;> cases h
          · exact StoredUpdatePolicy.unrequested_of_undecided rfl
          · exact hstart
    · cases h
      exact hstart

theorem initializePolicy_unrequested {readable : Bool} {save : SaveOutcome} {file : PolicyFile}
    {version channel : List Char} (hf : file.Unrequested i) :
    (initializePolicy readable save file version channel).1.Unrequested i ∧
      ∀ state, (initializePolicy readable save file version channel).2 = .ok state →
        state.document.Unrequested i ∧ state.activeRelease = none := by
  simp only [initializePolicy]
  split
  · exact ⟨hf, fun _ h => nomatch h⟩
  split
  · exact ⟨hf, fun _ h => nomatch h⟩
  split
  · exact ⟨hf, fun _ h => nomatch h⟩
  split
  · exact ⟨hf, fun _ h => nomatch h⟩
  · rename_i hstart
    refine ⟨hf, fun _ h => ?_⟩
    cases h
    exact ⟨startingDocument_unrequested hf hstart, rfl⟩
  · rename_i document hstart
    have hd := startingDocument_unrequested hf hstart
    refine ⟨savedDocument_unrequested save hf hd, fun state h => ?_⟩
    cases hr : (savedDocument save file document).result with
    | error code =>
      rw [hr] at h
      cases h
    | ok d =>
      rw [hr] at h
      cases h
      exact ⟨savedDocument_result_unrequested hr hd, rfl⟩

/-! ### An observation -/

/-- What the policy's document says of a release: nothing unless it is the newest one seen. -/
def StoredUpdatePolicy.evaluation (d : StoredUpdatePolicy) (release : UpdateRelease) :
    Option UpdatePolicyAction :=
  if d.highestObserved = some (.fromRelease release) then
    (actionForObservation d release.policy).toOption
  else none

theorem StoredUpdatePolicy.replaceObserved_false {d : StoredUpdatePolicy} {release : UpdateRelease}
    (h : d.replaceObserved release = .ok false) :
    d.highestObserved = some (.fromRelease release) := by
  simp only [replaceObserved] at h
  split at h
  · cases h
  split at h
  · cases h
  · cases h
  split at h
  · cases h
  split at h
  · cases h
  split at h
  · cases h
  · rename_i observed hobserved
    split at h
    · cases h
    split at h
    · cases h
    split at h
    · split at h
      · cases h
      · rename_i hsame
        rw [hobserved, Decidable.of_not_not hsame]
    · cases h

omit [Semver] in
theorem evaluated_ok {file : PolicyFile} {state : UpdatePolicyState} {written : Bool}
    {release : UpdateRelease} {evaluation : UpdatePolicyEvaluation}
    (ho : state.document.highestObserved = some (.fromRelease release))
    (h : (evaluated file state written release).result = .ok evaluation) :
    evaluation.release = release ∧
      (evaluated file state written release).state.document.evaluation release =
        some evaluation.action ∧
      (evaluated file state written release).state.activeRelease =
        if evaluation.action = .prompt ∨ evaluation.action = .forced then some release
        else none := by
  simp only [evaluated] at h ⊢
  split at h
  · cases h
  · rename_i action ha
    cases h
    refine ⟨rfl, ?_, rfl⟩
    simp [StoredUpdatePolicy.evaluation, ho, ha, Except.toOption]

omit [Semver] in
@[simp] theorem evaluated_file (file : PolicyFile) (state : UpdatePolicyState) (written : Bool)
    (release : UpdateRelease) : (evaluated file state written release).file = file := by
  simp only [evaluated]
  split <;> rfl

omit [Semver] in
@[simp] theorem evaluated_document (file : PolicyFile) (state : UpdatePolicyState)
    (written : Bool) (release : UpdateRelease) :
    (evaluated file state written release).state.document = state.document := by
  simp only [evaluated]
  split <;> rfl

namespace UpdatePolicyState

/-- An evaluation is of the release asked about, and is what the document says. -/
theorem observeRelease_ok {state : UpdatePolicyState} {save : SaveOutcome} {file : PolicyFile}
    {release : UpdateRelease} {evaluation : UpdatePolicyEvaluation}
    (h : (state.observeRelease save file release).result = .ok evaluation) :
    evaluation.release = release ∧
      (state.observeRelease save file release).state.document.evaluation release =
        some evaluation.action ∧
      (state.observeRelease save file release).state.activeRelease =
        if evaluation.action = .prompt ∨ evaluation.action = .forced then some release
        else none := by
  simp only [observeRelease] at h ⊢
  split at h
  · cases h
  · rename_i hreplace
    exact evaluated_ok (StoredUpdatePolicy.replaceObserved_false hreplace) h
  · split at h
    · cases h
    · rename_i d hd
      exact evaluated_ok (savedDocument_ok hd).2.2.1 h

theorem observeRelease_unrequested (state : UpdatePolicyState) (save : SaveOutcome)
    {file : PolicyFile} (release : UpdateRelease) (hf : file.Unrequested i)
    (hd : state.document.Unrequested i) :
    (state.observeRelease save file release).file.Unrequested i ∧
      (state.observeRelease save file release).state.document.Unrequested i := by
  simp only [observeRelease]
  split
  · exact ⟨hf, hd⟩
  · simpa using ⟨hf, hd⟩
  · have hnext : StoredUpdatePolicy.Unrequested i { state.document with
        highestObserved := some (.fromRelease release), decision := none } :=
      StoredUpdatePolicy.unrequested_of_undecided rfl
    split
    · exact ⟨savedDocument_unrequested save hf hnext, hd⟩
    · rename_i d hsaved
      rw [evaluated_file, evaluated_document]
      exact ⟨savedDocument_unrequested save hf hnext,
        savedDocument_result_unrequested hsaved hnext⟩

/-! ### A decision -/

/-- The document a decision on `release` is saved in. -/
def decidedDocument (state : UpdatePolicyState) (release : UpdateRelease)
    (decision : UpdateDecision) : StoredUpdatePolicy :=
  { state.document with decision := some ⟨release.version, decision⟩ }

/-- A decision is refused, or is saved for the release of the last evaluation, which is
optional and the newest one seen. -/
theorem decide_cases (state : UpdatePolicyState) (save : SaveOutcome) (file : PolicyFile)
    (decision : UpdateDecision) :
    (∃ code, state.decide save file decision = ⟨file, state, false, .error code⟩) ∨
      ∃ release, state.activeRelease = some release ∧ release.policy ≠ .forced ∧
        state.document.highestObserved = some (.fromRelease release) ∧
        (state.decide save file decision).file =
          (savedDocument save file (state.decidedDocument release decision)).file ∧
        (state.decide save file decision).written =
          (savedDocument save file (state.decidedDocument release decision)).written ∧
        ((∃ code, (state.decide save file decision).state = state ∧
            (state.decide save file decision).result = .error code) ∨
          ∃ d, (savedDocument save file (state.decidedDocument release decision)).result = .ok d ∧
            (state.decide save file decision).state = ⟨d, none⟩ ∧
            (state.decide save file decision).result = .ok ⟨release, decision.action⟩) := by
  simp only [decide]
  split
  · exact .inl ⟨_, rfl⟩
  · rename_i release hactive
    split
    · exact .inl ⟨_, rfl⟩
    rename_i hoptional
    split
    · exact .inl ⟨_, rfl⟩
    · rename_i seen hseen
      split
      · exact .inl ⟨_, rfl⟩
      rename_i hsame
      rw [Decidable.of_not_not hsame] at hseen
      refine .inr ⟨release, hactive, hoptional, hseen, ?_⟩
      split
      · exact ⟨rfl, rfl, .inl ⟨_, rfl, rfl⟩⟩
      · rename_i d hd
        exact ⟨rfl, rfl, .inr ⟨d, hd, rfl, rfl⟩⟩

/-- What an accepted decision leaves behind. -/
theorem decide_ok {state : UpdatePolicyState} {save : SaveOutcome} {file : PolicyFile}
    {decision : UpdateDecision} {evaluation : UpdatePolicyEvaluation}
    (h : (state.decide save file decision).result = .ok evaluation) :
    state.activeRelease = some evaluation.release ∧ evaluation.release.policy ≠ .forced ∧
      evaluation.action = decision.action ∧
      (state.decide save file decision).written = true ∧
      (state.decide save file decision).file =
        .document (state.decide save file decision).state.document true ∧
      (state.decide save file decision).state.document.highestObserved =
        some (.fromRelease evaluation.release) ∧
      (state.decide save file decision).state.document.decision =
        some ⟨evaluation.release.version, decision⟩ := by
  obtain ⟨code, he⟩ | ⟨release, hactive, hoptional, hseen, hfile, hwritten, hend⟩ :=
    state.decide_cases save file decision
  · rw [he] at h
    cases h
  · obtain ⟨code, -, he⟩ | ⟨d, hd, hstate, hresult⟩ := hend
    · rw [he] at h
      cases h
    · rw [hresult] at h
      cases h
      obtain ⟨hsaved, hw, hchoice⟩ := savedDocument_ok hd
      rw [hfile, hwritten, hstate]
      exact ⟨hactive, hoptional, rfl, hw, hsaved, hchoice.1.trans hseen, hchoice.2⟩

theorem decide_error {state : UpdatePolicyState} {save : SaveOutcome} {file : PolicyFile}
    {decision : UpdateDecision} {code : UpdatePolicyErrorCode}
    (h : (state.decide save file decision).result = .error code) :
    (state.decide save file decision).state = state := by
  obtain ⟨_, he⟩ | ⟨release, -, -, -, -, -, hend⟩ := state.decide_cases save file decision
  · rw [he]
  · obtain ⟨_, hstate, -⟩ | ⟨d, -, -, hresult⟩ := hend
    · exact hstate
    · rw [hresult] at h
      cases h

/-- Only a decision to install, on this very release, makes it requested. -/
theorem decide_unrequested (state : UpdatePolicyState) (save : SaveOutcome) {file : PolicyFile}
    {decision : UpdateDecision} (hf : file.Unrequested i) (hd : state.document.Unrequested i)
    (hother : decision = .installNow →
      ∀ release, state.activeRelease = some release → StoredReleaseIdentity.fromRelease release ≠ i) :
    (state.decide save file decision).file.Unrequested i ∧
      (state.decide save file decision).state.document.Unrequested i := by
  obtain ⟨_, he⟩ | ⟨release, hactive, -, hseen, hfile, -, hend⟩ :=
    state.decide_cases save file decision
  · rw [he]
    exact ⟨hf, hd⟩
  · have hnext : (state.decidedDocument release decision).Unrequested i := by
      intro ho hinstall
      have hnow : decision = .installNow := Option.some.inj hinstall
      exact hother hnow release hactive (Option.some.inj (hseen.symm.trans ho))
    rw [hfile]
    refine ⟨savedDocument_unrequested save hf hnext, ?_⟩
    obtain ⟨_, hstate, -⟩ | ⟨d, hsaved, hstate, -⟩ := hend
    · rw [hstate]
      exact hd
    · rw [hstate]
      exact savedDocument_result_unrequested hsaved hnext

end UpdatePolicyState

end AutomationTool.Desktop.AppUpdates
