import AutomationTool.Core.Chronicle
import AutomationTool.Desktop.UpdateCoordinator

/-!
# No update is installed that was not asked for

`follows` says what may come next in a history of the coordinator: an installation only
where it is `Authorised`, a stored decision only right after it was submitted on the release
then on show, an installer only with the package of its release.

* `latestCheck`: the release of the latest successful check of this run of the app.
* `refused`: the user turned the release down and has not asked for it since.
* `Standing`: what the running coordinator holds, by the history. While a release is on show
  with a prompt, the policy's active release, the pending update and the latest successful
  check are all that one (`Offered`); a check in progress is the last entry but what it adds.
* `installations_authorised`: the histories of all runs are such histories.
-/
namespace AutomationTool.Desktop.AppUpdates

variable [Semver] {digest : Bytes → List Char} {verifies : List Char → Bytes → Bool}

/-! ## Histories -/

section History

omit [Semver]

/-- The release of the latest successful check since the app started. -/
def latestCheck : List Entry → Option UpdateRelease
  | [] => none
  | .checked release _ :: _ => some release
  | .upToDate :: _ | .launched :: _ => none
  | _ :: older => latestCheck older

/-- The release was turned down, and not asked for since. -/
def refused (i : StoredReleaseIdentity) : List Entry → Bool
  | [] => false
  | .stored decision release accepted :: older =>
    (StoredReleaseIdentity.fromRelease release = i && accepted && decision ≠ .installNow) ||
      refused i older
  | .submitted .installNow (.ready release .prompt) :: older =>
    StoredReleaseIdentity.fromRelease release ≠ i && refused i older
  | _ :: older => refused i older

/-- What stands before an installation in the history. -/
structure Authorised (release : UpdateRelease) (document : StoredUpdatePolicy)
    (older : List Entry) : Prop where
  latest : latestCheck older = some release
  evaluation : document.evaluation release = some .forced ∨
    document.evaluation release = some .installRequested
  consent :
    (∃ action record rest, older =
        .checked release action :: .checkStarted .startup (some record) :: rest ∧
      record.matchesRelease release = true) ∨
    ∃ rest, older = .stored .installNow release true ::
      .submitted .installNow (.ready release .prompt) :: rest
  respected : ∀ newer decision turnedDown rest,
    older = newer ++ .stored decision turnedDown true :: rest → decision ≠ .installNow →
      StoredReleaseIdentity.fromRelease turnedDown = .fromRelease release →
      ∃ shown, StoredReleaseIdentity.fromRelease shown = .fromRelease release ∧
        Entry.submitted .installNow (.ready shown .prompt) ∈ newer

/-- What a history may go on with. -/
def follows (digest : Bytes → List Char) (verifies : List Char → Bytes → Bool)
    (older : List Entry) : Entry → Prop
  | .installStarted release document => Authorised release document older
  | .stored decision release _ => ∃ rest, older = .submitted decision (.ready release .prompt) :: rest
  | .installerRan release source package =>
    package.length = release.artifact.sizeBytes ∧ digest package = release.artifact.sha256 ∧
      verifies source.signature package = true
  | .launched | .checkStarted _ _ | .upToDate | .checked _ _ | .submitted _ _ => True

theorem submitted_of_not_refused {i : StoredReleaseIdentity} {newer rest : List Entry}
    {decision : UpdateDecision} {turnedDown : UpdateRelease}
    (h : refused i (newer ++ .stored decision turnedDown true :: rest) = false)
    (hd : decision ≠ .installNow) (hi : StoredReleaseIdentity.fromRelease turnedDown = i) :
    ∃ shown, StoredReleaseIdentity.fromRelease shown = i ∧
      Entry.submitted .installNow (.ready shown .prompt) ∈ newer := by
  induction newer with
  | nil => simp [refused, hd, hi] at h
  | cons e newer ih =>
    rw [List.cons_append] at h
    unfold refused at h
    split at h
    · rename_i heq
      simp at heq
    · rename_i heq
      obtain ⟨-, rfl⟩ := List.cons.inj heq
      obtain ⟨shown, hs, hm⟩ := ih (Bool.or_eq_false_iff.1 h).2
      exact ⟨shown, hs, .tail _ hm⟩
    · rename_i release older heq
      obtain ⟨rfl, rfl⟩ := List.cons.inj heq
      by_cases hs : StoredReleaseIdentity.fromRelease release = i
      · exact ⟨release, hs, .head _⟩
      · obtain ⟨shown, hs', hm⟩ := ih (by simpa [hs] using h)
        exact ⟨shown, hs', .tail _ hm⟩
    · rename_i heq
      obtain ⟨-, rfl⟩ := List.cons.inj heq
      obtain ⟨shown, hs, hm⟩ := ih h
      exact ⟨shown, hs, .tail _ hm⟩

end History

/-! ## What the running coordinator holds -/

section Holding

omit [Semver]

/-- The release a decision would be about. -/
structure Offered (a : App) (history : List Entry) (release : UpdateRelease) : Prop where
  latest : latestCheck history = some release
  active : a.policy.value.activeRelease = some release
  pending : ∀ checked, a.pending.lock = some (some checked) → checked.release = release

/-- No release is on show with a prompt. -/
def Unprompted (a : App) : Prop := ∀ release, a.state.lock ≠ some (.ready release .prompt)

/-- What the policy has said of a release is still what it says. -/
structure Evaluated (a : App) (release : UpdateRelease) (action : UpdatePolicyAction) : Prop where
  evaluation : a.policy.value.document.evaluation release = some action
  active : a.policy.value.activeRelease =
    if action = .prompt ∨ action = .forced then some release else none

end Holding

/-- The check in progress is the last entry, and nothing was cached since it began. -/
def Began (digest : Bytes → List Char) (cache : CacheFiles) (history : List Entry)
    (trigger : UpdateCheckTrigger) : Prop :=
  ∃ before rest, history = .checkStarted trigger before :: rest ∧
    ∀ readable record, cached digest readable cache = .ok (some record) → before = some record

/-- What the call in progress has come to. -/
def Underway (digest : Bytes → List Char) (cache : CacheFiles) (history : List Entry) (a : App) :
    Flow → Prop
  | .idle => True
  | .installing _ => Unprompted a
  | .asking trigger | .observing trigger _ => Unprompted a ∧ Began digest cache history trigger
  | .looking trigger checked action =>
    Unprompted a ∧ Began digest cache history trigger ∧ Evaluated a checked.release action
  | .fetching checked action _ =>
    Unprompted a ∧ latestCheck history = some checked.release ∧
      Evaluated a checked.release action ∧
      ∀ pending, a.pending.lock = some (some pending) → pending = checked
  | .deciding decision checked =>
    (∃ rest, history = .submitted decision (.ready checked.release .prompt) :: rest) ∧
      Offered a history checked.release

structure Standing (digest : Bytes → List Char) (cache : CacheFiles) (history : List Entry)
    (a : App) : Prop where
  offered : ∀ release, a.state.lock = some (.ready release .prompt) → Offered a history release
  underway : Underway digest cache history a a.flow

structure Inv (digest : Bytes → List Char) (verifies : List Char → Bytes → Bool)
    (m : Machine) : Prop where
  chronicle : Chronicle (follows digest verifies) m.history
  standing : ∀ a, m.app = some a → Standing digest m.disk.cache m.history a
  refusals : ∀ i, refused i m.history = true → i.policy = .optional ∧
    m.disk.policy.Unrequested i ∧ ∀ a, m.app = some a → a.policy.value.document.Unrequested i

/-! ## Locks -/

section Lock

omit [Semver]

theorem Mutex.lock_set {α : Type} {m : Mutex α} {value v : α} (h : (m.set value).lock = some v) :
    m.poisoned = false ∧ v = value := by
  unfold Mutex.set Mutex.lock at h
  cases hp : m.poisoned <;> simp_all

theorem Mutex.lock_some {α : Type} {m : Mutex α} {v : α} (h : m.lock = some v) :
    m.poisoned = false ∧ m.value = v := by
  unfold Mutex.lock at h
  cases hp : m.poisoned <;> simp_all

@[simp] theorem App.policy_setState (a : App) (next : UpdateState) :
    (a.setState next).policy = a.policy := rfl

@[simp] theorem App.pending_setState (a : App) (next : UpdateState) :
    (a.setState next).pending = a.pending := rfl

@[simp] theorem App.policy_finish (a : App) (next : UpdateState) :
    (a.finish next).policy = a.policy := rfl

@[simp] theorem App.pending_finish (a : App) (next : UpdateState) :
    (a.finish next).pending = a.pending := rfl

@[simp] theorem App.flow_finish (a : App) (next : UpdateState) : (a.finish next).flow = .idle := rfl

theorem App.lock_setState {a : App} {next s : UpdateState}
    (h : (a.setState next).state.lock = some s) : s = next := (Mutex.lock_set h).2

theorem App.lock_finish {a : App} {next s : UpdateState}
    (h : (a.finish next).state.lock = some s) : s = next := (Mutex.lock_set h).2

/-- A call that shows something else than a prompt. -/
theorem App.unprompted {a : App} {next : UpdateState} (hn : ∀ release, next ≠ .ready release .prompt) :
    Unprompted (a.setState next) := fun release hl => hn release (App.lock_setState hl).symm

theorem StoredUpdatePolicy.evaluation_installNow {d : StoredUpdatePolicy} {release : UpdateRelease}
    {version : List Char} (ho : d.highestObserved = some (.fromRelease release))
    (hd : d.decision = some ⟨version, .installNow⟩) (hp : release.policy ≠ .forced) :
    d.evaluation release = some .installRequested := by
  simp [evaluation, ho, actionForObservation, hd, hp, Except.toOption]

/-- What was not asked for is not evaluated to an installation, unless it is forced. -/
theorem StoredUpdatePolicy.Unrequested.evaluation {d : StoredUpdatePolicy}
    {release : UpdateRelease} (h : d.Unrequested (.fromRelease release))
    (hp : release.policy = .optional) :
    ¬(d.evaluation release = some .forced ∨ d.evaluation release = some .installRequested) := by
  unfold StoredUpdatePolicy.evaluation
  by_cases ho : d.highestObserved = some (.fromRelease release)
  · have hne := h ho
    cases hd : d.decision with
    | none => simp [ho, hp, actionForObservation, hd, Except.toOption]
    | some stored =>
      obtain ⟨version, decision⟩ := stored
      cases decision <;> simp_all [actionForObservation, Except.toOption]
  · simp [ho]

end Lock

/-! ## Pieces that add nothing to the history -/

theorem cached_damage {readable policy manifest package : Bool} {d : Disk}
    {record : CachedUpdateRecord}
    (h : cached digest readable (d.damage policy manifest package).cache = .ok (some record)) :
    cached digest readable d.cache = .ok (some record) := by
  cases manifest with
  | true => simp [cached, Disk.damage, loadCacheManifest] at h
  | false =>
    cases package with
    | false => exact h
    | true =>
      simp only [cached, Disk.damage] at h
      split at h
      · cases h
      · cases hl : loadCacheManifest d.cache.manifest with
        | error code => simp [hl] at h
        | ok found => cases found <;> simp [hl] at h

theorem Began.damage {policy manifest package : Bool} {d : Disk} {history : List Entry}
    {trigger : UpdateCheckTrigger} (h : Began digest d.cache history trigger) :
    Began digest (d.damage policy manifest package).cache history trigger := by
  obtain ⟨before, rest, he, hb⟩ := h
  exact ⟨before, rest, he, fun readable record hc => hb readable record (cached_damage hc)⟩

theorem Underway.damage {policy manifest package : Bool} {d : Disk} {history : List Entry}
    {a : App} {flow : Flow} (h : Underway digest d.cache history a flow) :
    Underway digest (d.damage policy manifest package).cache history a flow := by
  cases flow with
  | idle | installing _ | deciding _ _ | fetching _ _ _ => exact h
  | asking _ | observing _ _ => exact ⟨h.1, h.2.damage⟩
  | looking _ _ _ => exact ⟨h.1, h.2.1.damage, h.2.2⟩

variable {m : Machine} {a a' : App}

/-- The app goes on with the same policy, and nothing that turns a release down is added. -/
theorem Inv.goOn {entries : List Entry} (h : Inv digest verifies m) (ha : m.app = some a)
    (hp : a'.policy.value = a.policy.value)
    (hc : Chronicle (follows digest verifies) (entries ++ m.history))
    (hr : ∀ i, refused i (entries ++ m.history) = true → refused i m.history = true)
    (hs : Standing digest m.disk.cache (entries ++ m.history) a') :
    Inv digest verifies (m.goOn a' entries) where
  chronicle := hc
  standing b hb := by
    cases hb
    exact hs
  refusals i hi := by
    obtain ⟨ho, hf, hd⟩ := h.refusals i (hr i hi)
    refine ⟨ho, hf, fun b hb => ?_⟩
    cases hb
    rw [hp]
    exact hd a ha

theorem Inv.quiet (h : Inv digest verifies m) (ha : m.app = some a)
    (hp : a'.policy.value = a.policy.value)
    (hs : Standing digest m.disk.cache m.history a') : Inv digest verifies (m.goOn a' []) :=
  h.goOn ha hp h.chronicle (fun _ hi => hi) hs

/-- The same policy, flow and history, and nothing more to be read under a lock. -/
theorem Standing.congr {cache : CacheFiles} {history : List Entry}
    (h : Standing digest cache history a) (hp : a'.policy.value = a.policy.value)
    (hs : ∀ s, a'.state.lock = some s → a.state.lock = some s)
    (hq : ∀ p, a'.pending.lock = some p → a.pending.lock = some p)
    (hf : a'.flow = a.flow ∨ a'.flow = .idle) : Standing digest cache history a' := by
  have hoffered (release : UpdateRelease) (ho : Offered a history release) :
      Offered a' history release :=
    ⟨ho.latest, hp ▸ ho.active, fun checked hc => ho.pending checked (hq _ hc)⟩
  have hevaluated (release : UpdateRelease) (action : UpdatePolicyAction)
      (he : Evaluated a release action) : Evaluated a' release action :=
    ⟨hp ▸ he.evaluation, hp ▸ he.active⟩
  have hunprompted (hu : Unprompted a) : Unprompted a' := fun release hl => hu release (hs _ hl)
  refine ⟨fun release hl => hoffered release (h.offered release (hs _ hl)), ?_⟩
  obtain hf | hf := hf
  on_goal 2 => rw [hf]; trivial
  have hu := h.underway
  rw [hf]
  cases hflow : a.flow <;> rw [hflow] at hu
  case idle => trivial
  case installing => exact hunprompted hu
  case asking => exact ⟨hunprompted hu.1, hu.2⟩
  case observing => exact ⟨hunprompted hu.1, hu.2⟩
  case looking => exact ⟨hunprompted hu.1, hu.2.1, hevaluated _ _ hu.2.2⟩
  case fetching =>
    exact ⟨hunprompted hu.1, hu.2.1, hevaluated _ _ hu.2.2.1, fun p hl => hu.2.2.2 p (hq _ hl)⟩
  case deciding => exact ⟨hu.1, hoffered _ hu.2⟩

/-- A call that ends with something else than a prompt on show. -/
theorem Standing.finish {cache : CacheFiles} {history : List Entry} {next : UpdateState}
    (hn : ∀ release, next ≠ .ready release .prompt) : Standing digest cache history (a.finish next) where
  offered release hs := absurd (App.lock_finish hs).symm (hn release)
  underway := trivial

theorem Standing.fail {cache : CacheFiles} {history : List Entry} {stage : UpdateErrorStage}
    {code : UpdateErrorCode} {retryable : Bool} :
    Standing digest cache history (a.fail stage code retryable) := .finish fun _ => nofun

theorem Standing.observeFailed {cache : CacheFiles} {history : List Entry}
    (code : UpdatePolicyErrorCode) :
    Standing digest cache history (Machine.observeFailed a code) := by
  cases code <;> exact .fail

theorem Standing.downloadFailed {cache : CacheFiles} {history : List Entry}
    (code : UpdateDownloadErrorCode) :
    Standing digest cache history (Machine.downloadFailed a code) := by
  cases code <;> exact .fail

omit [Semver] in
@[simp] theorem Machine.policy_observeFailed (code : UpdatePolicyErrorCode) :
    (Machine.observeFailed a code).policy = a.policy := by cases code <;> rfl

omit [Semver] in
@[simp] theorem Machine.policy_downloadFailed (code : UpdateDownloadErrorCode) :
    (Machine.downloadFailed a code).policy = a.policy := by cases code <;> rfl

/-! ## A start -/

theorem Inv.launch (h : Inv digest verifies m) (readable cacheReady : Bool) (save : SaveOutcome)
    (version channel : List Char) :
    Inv digest verifies (m.launch digest readable cacheReady save version channel) := by
  have hkept := fun (i : StoredReleaseIdentity) (hi : refused i m.history = true) =>
    @initializePolicy_unrequested _ _ readable save _ version channel (h.refusals i hi).2.1
  unfold Machine.launch
  generalize initializePolicy readable save m.disk.policy version channel = started at hkept
  obtain ⟨file, result⟩ := started
  cases result with
  | error code =>
    exact ⟨h.chronicle, fun _ hb => (nomatch hb),
      fun i hi => ⟨(h.refusals i hi).1, (hkept i hi).1, fun _ hb => nomatch hb⟩⟩
  | ok policy =>
    cases cacheReady with
    | false =>
      exact ⟨h.chronicle, fun _ hb => (nomatch hb),
        fun i hi => ⟨(h.refusals i hi).1, (hkept i hi).1, fun _ hb => nomatch hb⟩⟩
    | true =>
      refine ⟨⟨trivial, h.chronicle⟩, fun b hb => ?_, fun i hi => ?_⟩
      · cases hb
        exact ⟨fun _ hs => (nomatch hs), trivial⟩
      · refine ⟨(h.refusals i hi).1, (hkept i hi).1, fun b hb => ?_⟩
        cases hb
        exact ((hkept i hi).2 policy rfl).1

/-! ## A check -/

theorem cached_readable {readable : Bool} {files : CacheFiles} {record : CachedUpdateRecord}
    (h : cached digest readable files = .ok (some record)) :
    cached digest true files = .ok (some record) := by
  cases readable with
  | true => exact h
  | false => simp [cached] at h

theorem Inv.check (h : Inv digest verifies m) (ha : m.app = some a)
    (trigger : UpdateCheckTrigger) : Inv digest verifies (m.check digest a trigger) := by
  have hs := h.standing a ha
  unfold Machine.check
  cases hflow : a.flow with
  | idle =>
    have hshown : Unprompted (a.setState (.checking trigger)) := App.unprompted fun _ => nofun
    refine h.goOn ha rfl ⟨trivial, h.chronicle⟩ (fun _ hi => hi)
      ⟨fun release hl => absurd hl (hshown release), hshown, _, _, rfl, fun _ _ hc => ?_⟩
    rw [cached_readable hc]
    rfl
  | asking _ | observing _ _ | looking _ _ _ | fetching _ _ _ | deciding _ _ | installing _ =>
    exact h.quiet ha rfl (hs.congr rfl (fun _ => id) (fun _ => id) (.inl hflow.symm))

theorem Inv.answered (h : Inv digest verifies m) (ha : m.app = some a)
    {trigger : UpdateCheckTrigger} (hflow : a.flow = .asking trigger)
    (answer : Except UpdateCheckErrorCode (Option CheckedUpdate)) :
    Inv digest verifies (m.answered a trigger answer) := by
  have hunder := (h.standing a ha).underway
  rw [hflow] at hunder
  unfold Machine.answered
  split
  · exact h.quiet ha rfl .fail
  · exact h.quiet ha rfl .fail
  · exact h.goOn ha rfl ⟨trivial, h.chronicle⟩ (fun _ hi => hi) (.finish fun _ => nofun)
  · rename_i checked
    have hshown : Unprompted (a.setState (.available checked.release)) :=
      App.unprompted fun _ => nofun
    exact h.quiet ha rfl ⟨fun release hl => absurd hl (hshown release), hshown, hunder.2⟩

theorem Inv.observed (h : Inv digest verifies m) (ha : m.app = some a)
    {trigger : UpdateCheckTrigger} {checked : CheckedUpdate}
    (hflow : a.flow = .observing trigger checked) (save : SaveOutcome) :
    Inv digest verifies (m.observed a trigger checked save) := by
  have hunder := (h.standing a ha).underway
  rw [hflow] at hunder
  unfold Machine.observed
  split
  · exact h.quiet ha (by simp) (.observeFailed _)
  · rename_i policy hlock
    obtain ⟨hfree, rfl⟩ := Mutex.lock_some hlock
    have hset (state : UpdatePolicyState) : (a.policy.set state).value = state := by
      simp [Mutex.set, hfree]
    have hrefusals : ∀ i, refused i m.history = true → i.policy = .optional ∧
        (a.policy.value.observeRelease save m.disk.policy checked.release).file.Unrequested i ∧
        (a.policy.value.observeRelease save m.disk.policy
          checked.release).state.document.Unrequested i := by
      intro i hi
      obtain ⟨ho, hf, hd⟩ := h.refusals i hi
      exact ⟨ho, a.policy.value.observeRelease_unrequested save _ hf (hd a ha)⟩
    simp only
    split
    · refine ⟨h.chronicle, fun b hb => ?_, fun i hi => ?_⟩
      · cases hb
        exact .observeFailed _
      · obtain ⟨ho, hf, hd⟩ := hrefusals i hi
        refine ⟨ho, hf, fun b hb => ?_⟩
        cases hb
        simpa [hset] using hd
    · rename_i evaluation hresult
      obtain ⟨-, heval, hactive⟩ := UpdatePolicyState.observeRelease_ok hresult
      refine ⟨h.chronicle, fun b hb => ?_, fun i hi => ?_⟩
      · cases hb
        refine ⟨fun release hl => absurd hl (hunder.1 release), hunder.1, hunder.2, ?_, ?_⟩
        · rw [hset]
          exact heval
        · rw [hset]
          exact hactive
      · obtain ⟨ho, hf, hd⟩ := hrefusals i hi
        refine ⟨ho, hf, fun b hb => ?_⟩
        cases hb
        simpa [hset] using hd

theorem Standing.installing {cache : CacheFiles} {history : List Entry} {release : UpdateRelease}
    {checked : CheckedUpdate} :
    Standing digest cache history
      { a.setState (.installing release) with flow := .installing checked } := by
  have hshown : Unprompted (a.setState (.installing release)) := App.unprompted fun _ => nofun
  exact ⟨fun shown hl => absurd hl (hshown shown), hshown⟩

omit [Semver] in
/-- At a startup, a release that the policy asks for and that was cached before the check. -/
theorem authorised_startup {history : List Entry} {release : UpdateRelease}
    {document : StoredUpdatePolicy} {action : UpdatePolicyAction} {record : CachedUpdateRecord}
    {rest : List Entry} (hb : history = .checkStarted .startup (some record) :: rest)
    (hm : record.matchesRelease release = true)
    (he : document.evaluation release = some .forced ∨
      document.evaluation release = some .installRequested)
    (hr : refused (.fromRelease release) history = true →
      release.policy = .optional ∧ document.Unrequested (.fromRelease release)) :
    Authorised release document (.checked release action :: history) where
  latest := rfl
  evaluation := he
  consent := .inl ⟨action, record, rest, by rw [hb], hm⟩
  respected newer decision turnedDown rest' hsplit hd hi := by
    have hnot : refused (.fromRelease release) history = false := by
      cases hcase : refused (.fromRelease release) history with
      | false => rfl
      | true =>
        obtain ⟨hp, hu⟩ := hr hcase
        exact absurd he (hu.evaluation hp)
    have hnewer : refused (.fromRelease release)
        (newer ++ .stored decision turnedDown true :: rest') = false := by
      rw [← hsplit]
      exact hnot
    exact submitted_of_not_refused hnewer hd hi

theorem Inv.looked (h : Inv digest verifies m) (ha : m.app = some a)
    {trigger : UpdateCheckTrigger} {checked : CheckedUpdate} {action : UpdatePolicyAction}
    (hflow : a.flow = .looking trigger checked action) (readable : Bool) :
    Inv digest verifies (m.looked digest a trigger checked action readable) := by
  have hunder := (h.standing a ha).underway
  rw [hflow] at hunder
  obtain ⟨hshown, ⟨before, rest, hbegan, hbefore⟩, heval⟩ := hunder
  have hfound : Chronicle (follows digest verifies) (.checked checked.release action :: m.history) :=
    ⟨trivial, h.chronicle⟩
  unfold Machine.looked
  split
  · exact h.quiet ha rfl .fail
  · rename_i cachedNow hcached
    simp only
    split
    · exact h.quiet ha rfl .fail
    split
    · rename_i hinstall
      obtain ⟨rfl, hany, haction⟩ := hinstall
      cases cachedNow with
      | none => cases hany
      | some record =>
        obtain rfl := hbefore readable record hcached
        refine h.goOn ha rfl ⟨?_, hfound⟩ (fun _ hi => hi) .installing
        refine authorised_startup hbegan hany ?_ fun hi => ?_
        · obtain rfl | rfl := haction
          · exact .inl heval.evaluation
          · exact .inr heval.evaluation
        · exact ⟨(h.refusals _ hi).1, (h.refusals _ hi).2.2 a ha⟩
    · split
      · rename_i hsuppressed
        subst hsuppressed
        exact h.goOn ha rfl hfound (fun _ hi => hi) (.finish fun _ => nofun)
      · refine h.goOn ha rfl hfound (fun _ hi => hi)
          ⟨fun release hl => absurd hl (hshown release), hshown, rfl, ⟨heval.1, heval.2⟩,
            fun pending hl => ?_⟩
        exact Option.some.inj (Mutex.lock_set hl).2

/-! ## A download -/

/-- The cache may change while a package is fetched. -/
theorem Inv.fetching (h : Inv digest verifies m) (ha : m.app = some a) {checked : CheckedUpdate}
    {action : UpdatePolicyAction} {fetch : Fetch} (hflow : a.flow = .fetching checked action fetch)
    (cache : CacheFiles) (next : Fetch) :
    Inv digest verifies ({ m with disk.cache := cache }.goOn
      { a with flow := .fetching checked action next } []) := by
  have hunder := (h.standing a ha).underway
  rw [hflow] at hunder
  obtain ⟨hshown, hlatest, heval, hpending⟩ := hunder
  refine ⟨h.chronicle, fun b hb => ?_, fun i hi => ?_⟩
  · cases hb
    exact ⟨fun release hl => absurd hl (hshown release), hshown, hlatest, ⟨heval.1, heval.2⟩,
      hpending⟩
  · obtain ⟨ho, hf, hd⟩ := h.refusals i hi
    refine ⟨ho, hf, fun b hb => ?_⟩
    cases hb
    exact hd a ha

theorem Inv.progress (h : Inv digest verifies m) (ha : m.app = some a) {checked : CheckedUpdate}
    {action : UpdatePolicyAction} {fetch : Fetch} (hflow : a.flow = .fetching checked action fetch)
    (downloaded : Nat) (total : Option Nat) :
    Inv digest verifies
      (m.goOn (a.setState (.downloading checked.release downloaded total)) []) := by
  have hunder := (h.standing a ha).underway
  rw [hflow] at hunder
  obtain ⟨-, hlatest, heval, hpending⟩ := hunder
  have hshown : Unprompted (a.setState (.downloading checked.release downloaded total)) :=
    App.unprompted fun _ => nofun
  refine h.quiet ha rfl ⟨fun release hl => absurd hl (hshown release), ?_⟩
  rw [show (a.setState (.downloading checked.release downloaded total)).flow =
    .fetching checked action fetch from hflow]
  exact ⟨hshown, hlatest, ⟨heval.1, heval.2⟩, hpending⟩

theorem Inv.fetched (h : Inv digest verifies m) (ha : m.app = some a) {checked : CheckedUpdate}
    {action : UpdatePolicyAction} {fetch : Fetch} (hflow : a.flow = .fetching checked action fetch)
    (result : Except UpdateDownloadErrorCode Unit) :
    Inv digest verifies (m.fetched a checked action result) := by
  have hunder := (h.standing a ha).underway
  rw [hflow] at hunder
  obtain ⟨-, hlatest, heval, hpending⟩ := hunder
  unfold Machine.fetched
  split
  · exact h.quiet ha (by simp) (.downloadFailed _)
  · -- a prompt is now on show, for the release the policy holds active and that is pending
    refine h.quiet ha rfl ⟨fun release hl => ?_, trivial⟩
    obtain ⟨rfl, rfl⟩ := UpdateState.ready.inj (App.lock_finish hl)
    exact ⟨hlatest, by simpa using heval.active, fun p hl => by rw [hpending p hl]⟩

/-! ## A decision -/

theorem Inv.decide (h : Inv digest verifies m) (ha : m.app = some a) (decision : UpdateDecision) :
    Inv digest verifies (m.decide a decision) := by
  have hs := h.standing a ha
  unfold Machine.decide
  cases hflow : a.flow with
  | asking _ | observing _ _ | looking _ _ _ | fetching _ _ _ | deciding _ _ | installing _ =>
    exact h.quiet ha rfl (hs.congr rfl (fun _ => id) (fun _ => id) (.inl hflow.symm))
  | idle =>
    simp only
    split
    · rename_i release checked hstate hpending
      have ho := hs.offered release hstate
      obtain rfl := ho.pending checked hpending
      refine h.goOn ha rfl ⟨trivial, h.chronicle⟩ (fun i hi => ?_) ⟨fun shown hl => ?_, ?_⟩
      · cases decision with
        | installNow => exact (Bool.and_eq_true_iff.1 hi).2
        | defer | skipVersion => exact hi
      · have hsame := hstate.symm.trans hl
        cases hsame
        exact ⟨ho.latest, ho.active, ho.pending⟩
      · exact ⟨⟨m.history, rfl⟩, ho.latest, ho.active, ho.pending⟩
    · exact h.quiet ha rfl (hs.congr rfl (fun _ => id) (fun _ => id) (.inr rfl))

omit [Semver] in
theorem storedEntry_cases (decision : UpdateDecision) {active : Option UpdateRelease}
    {release : UpdateRelease} (ha : active = some release) (judged : Judged) :
    Machine.storedEntry decision active judged = [] ∨
      Machine.storedEntry decision active judged =
        [.stored decision release judged.result.isOk] := by
  subst ha
  unfold Machine.storedEntry
  cases judged.written with
  | true => exact .inr rfl
  | false => exact .inl rfl

/-- What a decision leaves on disk and in the policy, of the releases turned down. -/
theorem decided_refusals {policy : UpdatePolicyState} {file : PolicyFile}
    {history rest : List Entry} {decision : UpdateDecision} {release : UpdateRelease}
    {save : SaveOutcome} {entries : List Entry}
    (hr : ∀ i, refused i history = true →
      i.policy = .optional ∧ file.Unrequested i ∧ policy.document.Unrequested i)
    (hrest : history = .submitted decision (.ready release .prompt) :: rest)
    (hactive : policy.activeRelease = some release)
    (he : entries = [] ∨ entries =
      [.stored decision release (policy.decide save file decision).result.isOk])
    (i : StoredReleaseIdentity) (hi : refused i (entries ++ history) = true) :
    i.policy = .optional ∧ (policy.decide save file decision).file.Unrequested i ∧
      (policy.decide save file decision).state.document.Unrequested i := by
  by_cases hold : refused i history = true
  · obtain ⟨ho, hf, hd⟩ := hr i hold
    refine ⟨ho, policy.decide_unrequested save hf hd fun hnow shown hs => ?_⟩
    obtain rfl := Option.some.inj (hactive.symm.trans hs)
    subst hnow
    rw [hrest] at hold
    exact of_decide_eq_true (Bool.and_eq_true_iff.1 hold).1
  · obtain rfl | rfl := he
    · exact absurd hi hold
    · -- turned down by this very decision
      have hnew := (Bool.or_eq_true_iff.1 hi).resolve_right hold
      simp only [Bool.and_eq_true, decide_eq_true_eq] at hnew
      obtain ⟨⟨hi, hok⟩, hdown⟩ := hnew
      cases hresult : (policy.decide save file decision).result with
      | error code =>
        rw [hresult] at hok
        cases hok
      | ok evaluation =>
        obtain ⟨ha, hp, -, -, hfile, -, hd⟩ := UpdatePolicyState.decide_ok hresult
        obtain rfl := Option.some.inj (hactive.symm.trans ha)
        have hun : (policy.decide save file decision).state.document.Unrequested i := by
          intro _ hnow
          rw [hd] at hnow
          exact hdown (Option.some.inj hnow)
        refine ⟨?_, ?_, hun⟩
        · rw [← hi]
          exact match hc : evaluation.release.policy with
            | .optional => hc
            | .forced => absurd hc hp
        · rw [hfile, PolicyFile.unrequested_document]
          exact hun

omit [Semver] in
/-- Right after the user asked for the release on show. -/
theorem authorised_decision {history rest : List Entry} {release : UpdateRelease}
    {document : StoredUpdatePolicy}
    (hrest : history = .submitted .installNow (.ready release .prompt) :: rest)
    (hl : latestCheck history = some release)
    (he : document.evaluation release = some .installRequested) :
    Authorised release document (.stored .installNow release true :: history) where
  latest := hl
  evaluation := .inr he
  consent := .inr ⟨rest, by rw [hrest]⟩
  respected newer decision turnedDown rest' hsplit hd hi := by
    have hnewer : refused (.fromRelease release)
        (newer ++ .stored decision turnedDown true :: rest') = false := by
      rw [← hsplit, hrest]
      simp [refused]
    exact submitted_of_not_refused hnewer hd hi

theorem Inv.settled (h : Inv digest verifies m) (ha : m.app = some a) {decision : UpdateDecision}
    {checked : CheckedUpdate} (hflow : a.flow = .deciding decision checked) (save : SaveOutcome) :
    Inv digest verifies (m.settled a decision checked save) := by
  have hs := h.standing a ha
  have hunder := hs.underway
  rw [hflow] at hunder
  obtain ⟨⟨rest, hrest⟩, ho⟩ := hunder
  unfold Machine.settled
  split
  · exact h.quiet ha rfl (hs.congr rfl (fun _ => id) (fun _ => id) (.inr rfl))
  · rename_i policy hlock
    obtain ⟨hfree, rfl⟩ := Mutex.lock_some hlock
    have hset (state : UpdatePolicyState) : (a.policy.set state).value = state := by
      simp [Mutex.set, hfree]
    have hentry := storedEntry_cases decision ho.active
      (a.policy.value.decide save m.disk.policy decision)
    have hchronicle : Chronicle (follows digest verifies)
        (Machine.storedEntry decision a.policy.value.activeRelease
          (a.policy.value.decide save m.disk.policy decision) ++ m.history) := by
      obtain he | he := hentry
      · rw [he]
        exact h.chronicle
      · rw [he]
        exact ⟨⟨rest, hrest⟩, h.chronicle⟩
    have hlatest : latestCheck
        (Machine.storedEntry decision a.policy.value.activeRelease
          (a.policy.value.decide save m.disk.policy decision) ++ m.history) =
        some checked.release := by
      obtain he | he := hentry <;> rw [he] <;> exact ho.latest
    have hrefusals := decided_refusals
      (fun i hi => ⟨(h.refusals i hi).1, (h.refusals i hi).2.1, (h.refusals i hi).2.2 a ha⟩)
      hrest ho.active hentry
    simp only
    split
    · rename_i code hresult
      have hstate := UpdatePolicyState.decide_error hresult
      refine ⟨hchronicle, fun b hb => ?_, fun i hi => ?_⟩
      · cases hb
        refine ⟨fun release hl => ?_, trivial⟩
        obtain rfl := Option.some.inj
          (ho.latest.symm.trans (hs.offered release hl).latest)
        refine ⟨hlatest, ?_, ho.pending⟩
        simpa only [App.refuse, hset, hstate] using ho.active
      · obtain ⟨hi, hf, hd⟩ := hrefusals i hi
        refine ⟨hi, hf, fun b hb => ?_⟩
        cases hb
        simpa only [App.refuse, hset] using hd
    · rename_i evaluation hresult
      obtain ⟨hactive, hp, haction, hwritten, -, hseen, hdecision⟩ :=
        UpdatePolicyState.decide_ok hresult
      have hsame : evaluation.release = checked.release :=
        Option.some.inj (hactive.symm.trans ho.active)
      have hdocument (i : StoredReleaseIdentity)
          (hi : (a.policy.value.decide save m.disk.policy decision).state.document.Unrequested i) :
          (a.policy.set
            (a.policy.value.decide save m.disk.policy decision).state).value.document.Unrequested i := by
        rwa [hset]
      rw [if_neg fun hne => hne hsame]
      split
      · rename_i hinstall
        rw [hinstall] at haction
        obtain rfl : decision = .installNow := by
          cases decision <;> first | rfl | cases haction
        refine ⟨⟨?_, hchronicle⟩, fun b hb => ?_, fun i hi => ?_⟩
        · have hstored : Machine.storedEntry .installNow a.policy.value.activeRelease
              (a.policy.value.decide save m.disk.policy .installNow) =
              [.stored .installNow checked.release true] := by
            unfold Machine.storedEntry
            rw [hwritten, ho.active, hresult]
            rfl
          rw [hstored]
          refine authorised_decision hrest ho.latest ?_
          simp only [hset]
          rw [← hsame]
          exact StoredUpdatePolicy.evaluation_installNow hseen hdecision hp
        · cases hb
          exact .installing
        · obtain ⟨ho, hf, hd⟩ := hrefusals i hi
          refine ⟨ho, hf, fun b hb => ?_⟩
          cases hb
          exact hdocument i hd
      · refine ⟨hchronicle, fun b hb => ?_, fun i hi => ?_⟩
        · cases hb
          refine .finish fun release he => ?_
          have hprompt := (UpdateState.ready.inj he).2
          rw [haction] at hprompt
          cases decision <;> cases hprompt
        · obtain ⟨ho, hf, hd⟩ := hrefusals i hi
          refine ⟨ho, hf, fun b hb => ?_⟩
          cases hb
          exact hdocument i hd

/-! ## An installation -/

theorem readVerifiedPackage_ok {readable : Bool} {files : CacheFiles} {release : UpdateRelease}
    {source : DownloadSource} {package : Bytes}
    (h : readVerifiedPackage digest verifies readable files release source = .ok package) :
    package.length = release.artifact.sizeBytes ∧ digest package = release.artifact.sha256 ∧
      verifies source.signature package = true := by
  unfold readVerifiedPackage at h
  split at h
  · cases h
  · cases h
  · cases h
  · rename_i record package' _ _
    split at h
    · cases h
    rename_i hmatch
    split at h
    · cases h
    rename_i hexact
    split at h
    · cases h
    rename_i hsigned
    cases h
    obtain rfl : record = .fromRelease release := by
      simpa [CachedUpdateRecord.matchesRelease] using hmatch
    simp only [not_or, Decidable.not_not] at hexact
    exact ⟨hexact.1, hexact.2, by simpa using hsigned⟩

theorem Inv.installed (h : Inv digest verifies m) (ha : m.app = some a) (checked : CheckedUpdate)
    (outcome : Machine.InstallOutcome) :
    Inv digest verifies (m.installed digest verifies a checked outcome) := by
  unfold Machine.installed
  split
  · exact h.quiet ha rfl .fail
  · rename_i package hread
    have hran : Chronicle (follows digest verifies)
        (.installerRan checked.release checked.source package :: m.history) :=
      ⟨readVerifiedPackage_ok hread, h.chronicle⟩
    split
    · exact h.quiet ha rfl .fail
    · simp only
      split
      · exact h.goOn ha rfl hran (fun _ hi => hi) (.finish fun _ => nofun)
      · exact h.goOn ha rfl hran (fun _ hi => hi) .fail

/-! ## What befalls the app -/

theorem Inv.exit (h : Inv digest verifies m) : Inv digest verifies { m with app := none } := by
  refine ⟨h.chronicle, fun b hb => ?_, fun i hi => ?_⟩
  · cases hb
  · refine ⟨(h.refusals i hi).1, (h.refusals i hi).2.1, fun b hb => ?_⟩
    cases hb

omit [Semver] in
theorem Mutex.lock_poison {α : Type} {lock : Mutex α} {poisoned : Bool} {v : α}
    (h : ({ lock with poisoned := lock.poisoned || poisoned } : Mutex α).lock = some v) :
    lock.lock = some v := by
  cases hp : lock.poisoned <;> cases poisoned <;> simp_all [Mutex.lock]

theorem Inv.panic (h : Inv digest verifies m) (ha : m.app = some a)
    (policy state pending : Bool) :
    Inv digest verifies (m.goOn (a.poison policy state pending) []) :=
  h.quiet ha rfl ((h.standing a ha).congr rfl (fun _ => Mutex.lock_poison)
    (fun _ => Mutex.lock_poison) (.inl rfl))

theorem Inv.damage (h : Inv digest verifies m) (policy manifest package : Bool) :
    Inv digest verifies { m with disk := m.disk.damage policy manifest package } := by
  refine ⟨h.chronicle, fun b hb => ?_, fun i hi => ?_⟩
  · have hs := h.standing b hb
    exact ⟨hs.offered, hs.underway.damage⟩
  · obtain ⟨ho, hf, hd⟩ := h.refusals i hi
    refine ⟨ho, ?_, hd⟩
    cases policy with
    | false => exact hf
    | true => exact fun d canonical he => nomatch he

/-! ## All runs -/

theorem inv_inductive : (system digest verifies).Inductive (Inv digest verifies) where
  init m hm := by
    obtain ⟨happ, hhistory⟩ := hm
    refine ⟨?_, fun a ha => ?_, fun i hi => ?_⟩
    · rw [hhistory]
      trivial
    · rw [happ] at ha
      cases ha
    · rw [hhistory] at hi
      cases hi
  step m act m' h hstep := by
    cases hstep with
    | launch readable cacheReady save version channel _ => exact h.launch _ _ _ _ _
    | exit => exact h.exit
    | check trigger ha => exact h.check ha trigger
    | answer answer ha hflow => exact h.answered ha hflow answer
    | observe save ha hflow => exact h.observed ha hflow save
    | look readable ha hflow => exact h.looked ha hflow readable
    | progress downloaded ha hflow => exact h.progress ha hflow _ _
    | swap package ha hflow => exact h.fetching ha hflow _ _
    | record ha hflow => exact h.fetching ha hflow _ _
    | fetched result ha hflow _ => exact h.fetched ha hflow result
    | decide decision ha => exact h.decide ha decision
    | settle save ha hflow => exact h.settled ha hflow save
    | install outcome ha _ => exact h.installed ha _ outcome
    | interrupt ha =>
      exact h.quiet ha rfl
        ((h.standing _ ha).congr rfl (fun _ => id) (fun _ => id) (.inr rfl))
    | panic policy state pending ha => exact h.panic ha policy state pending
    | damage policy manifest package => exact h.damage policy manifest package

/-- Whatever the server answers, the user decides, fails or is started again: each
installation is authorised by what stood before it, and each decision that was stored was
submitted on the release then on show. -/
theorem installations_authorised {m : Machine} (h : (system digest verifies).Reachable m) :
    (∀ newer release document older,
      m.history = newer ++ .installStarted release document :: older →
      Authorised release document older) ∧
    ∀ newer decision release accepted older,
      m.history = newer ++ .stored decision release accepted :: older →
      ∃ rest, older = .submitted decision (.ready release .prompt) :: rest := by
  have hc := (inv_inductive.reachable h).chronicle
  refine ⟨fun newer release document older he => ?_,
    fun newer decision release accepted older he => ?_⟩
  · rw [he] at hc
    exact hc.of_split.1
  · rw [he] at hc
    exact hc.of_split.1

end AutomationTool.Desktop.AppUpdates

/-! ## A release that was put off and is then asked for -/

namespace AutomationTool.Desktop.AppUpdates.Concrete

/-- Two versions, written as they are. -/
scoped instance crate : Semver where
  Version := Nat
  parse text := if text = ['1', '.', '0', '.', '0'] then some 0
    else if text = ['1', '.', '1', '.', '0'] then some 1 else none
  toText version := if version = 0 then ['1', '.', '0', '.', '0'] else ['1', '.', '1', '.', '0']

def digestOf : Bytes → List Char := fun _ => List.replicate 64 'a'

def release : UpdateRelease where
  version := ['1', '.', '1', '.', '0']
  channel := ['s', 't', 'a', 'b', 'l', 'e']
  policy := .optional
  notes := none
  publishedAt := none
  artifact := ⟨.darwin, .aarch64, List.replicate 64 'a', 1⟩

def offer : CheckedUpdate := ⟨release, ⟨['u'], ['s']⟩⟩

def putOff : StoredUpdatePolicy where
  schemaVersion := 1
  configuredChannel := ['s', 't', 'a', 'b', 'l', 'e']
  minimumVersion := ['1', '.', '0', '.', '0']
  highestObserved := some (.fromRelease release)
  decision := some ⟨['1', '.', '1', '.', '0'], .defer⟩
  revision := 7

/-- The release is cached, and was put off. -/
def before : Machine where
  disk := ⟨.document putOff true, .record (.fromRelease release), some [0]⟩
  app := none
  history := []

def asked : StoredUpdatePolicy :=
  { putOff with decision := some ⟨['1', '.', '1', '.', '0'], .installNow⟩, revision := 8 }

/-- What it comes to when the user now asks for it. -/
def older : List Entry :=
  [.stored .installNow release true, .submitted .installNow (.ready release .prompt),
    .checked release .prompt, .checkStarted .startup (some (.fromRelease release)), .launched]

/-- The steps of this run. -/
def turn (m : Machine) (act : Act) : Option Machine :=
  match m.app with
  | none =>
    match act with
    | .launch readable cacheReady save version channel =>
      some (m.launch digestOf readable cacheReady save version channel)
    | _ => none
  | some a =>
    match act, a.flow with
    | .check trigger, _ => some (m.check digestOf a trigger)
    | .decide decision, _ => some (m.decide a decision)
    | .answer answer, .asking trigger => some (m.answered a trigger answer)
    | .observe save, .observing trigger checked => some (m.observed a trigger checked save)
    | .look readable, .looking trigger checked action =>
      some (m.looked digestOf a trigger checked action readable)
    | .fetched result, .fetching checked action .requesting =>
      if cached digestOf true m.disk.cache = .ok (some (.fromRelease checked.release)) then
        some (m.fetched a checked action result)
      else none
    | .settle save, .deciding decision checked => some (m.settled a decision checked save)
    | _, _ => none

theorem turn_step {m m' : Machine} {act : Act} (h : turn m act = some m') :
    (system digestOf fun _ _ => true).step m act m' := by
  unfold turn at h
  split at h
  · rename_i happ
    split at h <;> cases h
    exact .launch _ _ _ _ _ _ happ
  · rename_i a happ
    split at h
    case h_1 => cases h; exact .check _ happ
    case h_2 => cases h; exact .decide _ happ
    case h_3 hflow => cases h; exact .answer _ happ hflow
    case h_4 hflow => cases h; exact .observe _ happ hflow
    case h_5 hflow => cases h; exact .look _ happ hflow
    case h_6 hflow =>
      split at h
      · rename_i hcached
        cases h
        exact .fetched _ happ hflow fun _ => .inr ⟨rfl, hcached⟩
      · cases h
    case h_7 hflow => cases h; exact .settle _ happ hflow
    case h_8 => cases h

def acts : List Act :=
  [.launch true true .saved ['1', '.', '0', '.', '0'] ['s', 't', 'a', 'b', 'l', 'e'],
    .check .startup, .answer (.ok (some offer)), .observe .saved, .look true, .fetched (.ok ()),
    .decide .installNow, .settle .saved]

theorem asked_reachable :
    ∃ m, (system digestOf fun _ _ => true).Reachable m ∧
      m.history = .installStarted release asked :: older := by
  have hrun : (acts.foldlM turn before).map (·.history) =
      some (.installStarted release asked :: older) := by rfl
  obtain ⟨m, hm, hhistory⟩ := Option.map_eq_some_iff.1 hrun
  exact ⟨m, ⟨before, acts, ⟨rfl, rfl⟩, .of_foldlM (fun _ _ _ => turn_step) hm⟩, hhistory⟩

/-- Put off by an earlier run of the app, and installed when the user asks for it. -/
theorem asked_authorised : Authorised release asked older ∧
    ∃ rest, older.tail = .submitted .installNow (.ready release .prompt) :: rest := by
  obtain ⟨m, hm, hhistory⟩ := asked_reachable
  have h := installations_authorised hm
  exact ⟨h.1 [] release asked older hhistory,
    h.2 [.installStarted release asked] .installNow release true older.tail hhistory⟩

end AutomationTool.Desktop.AppUpdates.Concrete
