import AutomationTool.Desktop.UpdateConsent

/-!
# What the policy of app updates remembers

The policy service over any run: starts with any installed version and channel, observations and
decisions, with any of their saves failing, before or after it replaced the file, and a file that
is lost at any time. The file and the service may hold different documents then (`Behind`).

* `Up`: the floor does not sink, and the newest release seen stays, gives way to a newer one, or is
  reached by the floor.
* `startingDocument_spec`, `observeRelease_cases`: what a start and an observation do.
* `Sound`: what holds of the documents of every reachable state.
* `decisions_respected`, `documents_kept`, `versions_fixed`: what it may answer, leave behind and
  accept.
-/
namespace AutomationTool.Desktop.AppUpdates

variable [Semver]

/-! ## Runs -/

/-- `observe_release` judged the release; `decide` was asked while it was on offer, whatever came of
it. -/
inductive PolicyEntry where
  | observed (release : UpdateRelease)
  | submitted (decision : UpdateDecision) (release : UpdateRelease)

/-- The file, the running service, and what happened, the newest first. -/
structure PolicyRun where
  file : PolicyFile
  service : Option UpdatePolicyState
  history : List PolicyEntry

inductive PolicyCall where
  | start (readable : Bool) (save : SaveOutcome) (version channel : List Char)
  | observeRelease (save : SaveOutcome) (release : UpdateRelease)
  | decide (save : SaveOutcome) (decision : UpdateDecision)
  /-- The file is removed, or overwritten with something that is no document. -/
  | lose (removed : Bool)

abbrev Answer := Except UpdatePolicyErrorCode (Option UpdatePolicyEvaluation)

def PolicyRun.call (s : PolicyRun) : PolicyCall → Option (PolicyRun × Answer)
  | .start readable save version channel =>
    match initializePolicy readable save s.file version channel with
    | (file, .error code) => some (⟨file, none, s.history⟩, .error code)
    | (file, .ok state) => some (⟨file, some state, s.history⟩, .ok none)
  | .observeRelease save release =>
    s.service.map fun state =>
      let judged := state.observeRelease save s.file release
      match judged.result with
      | .ok evaluation =>
        (⟨judged.file, some judged.state, .observed release :: s.history⟩, .ok (some evaluation))
      | .error code => (⟨judged.file, some judged.state, s.history⟩, .error code)
  | .decide save decision =>
    s.service.map fun state =>
      let judged := state.decide save s.file decision
      let history := match state.activeRelease with
        | some release => .submitted decision release :: s.history
        | none => s.history
      (⟨judged.file, some judged.state, history⟩, judged.result.map some)
  | .lose removed => some ({ s with file := if removed then .missing else .foreign }, .ok none)

def policySystem : LTS PolicyRun PolicyCall where
  init s := s = ⟨.missing, none, []⟩
  step s c s' := ∃ answer, s.call c = some (s', answer)

/-! ## Versions known to a document -/

def Newer (a b : List Char) : Prop :=
  ∃ v w, parseCanonicalVersion a = some v ∧ parseCanonicalVersion b = some w ∧ w < v

theorem Newer.trans {a b c : List Char} (hab : Newer a b) (hbc : Newer b c) : Newer a c := by
  obtain ⟨u, v, hu, hv, huv⟩ := hab
  obtain ⟨v', w, hv', hw, hvw⟩ := hbc
  rw [hv] at hv'
  cases hv'
  exact ⟨u, w, hu, hw, hvw.trans huv⟩

theorem Newer.irrefl {a : List Char} : ¬Newer a a := by
  rintro ⟨v, w, hv, hw, hlt⟩
  rw [hv] at hw
  cases hw
  exact lt_irrefl _ hlt

/-- The document's floor has reached the version. -/
def Reached (version : List Char) (d : StoredUpdatePolicy) : Prop :=
  ∃ v m, parseCanonicalVersion version = some v ∧ parseCanonicalVersion d.minimumVersion = some m ∧
    v ≤ m

/-- The release is the newest one seen, older than it, or reached by the floor. -/
def Known (i : StoredReleaseIdentity) (d : StoredUpdatePolicy) : Prop :=
  d.highestObserved = some i ∨
    (∃ h, d.highestObserved = some h ∧ Newer h.version i.version) ∨ Reached i.version d

/-- From a document to a later one. -/
structure Up (d d' : StoredUpdatePolicy) : Prop where
  floor : ∀ m, parseCanonicalVersion d.minimumVersion = some m →
    ∃ m', parseCanonicalVersion d'.minimumVersion = some m' ∧ m ≤ m'
  known : ∀ h, d.highestObserved = some h → Known h d'

variable {d d' : StoredUpdatePolicy} {i : StoredReleaseIdentity}

theorem Reached.up {version : List Char} (h : Reached version d) (hup : Up d d') :
    Reached version d' := by
  obtain ⟨v, m, hv, hm, hle⟩ := h
  obtain ⟨m', hm', hle'⟩ := hup.floor m hm
  exact ⟨v, m', hv, hm', hle.trans hle'⟩

theorem Known.of_newer {h : StoredReleaseIdentity} (hknown : Known h d)
    (hnewer : Newer h.version i.version) : Known i d := by
  obtain hsame | ⟨g, hg, hgh⟩ | ⟨v, m, hv, hm, hle⟩ := hknown
  · exact .inr (.inl ⟨h, hsame, hnewer⟩)
  · exact .inr (.inl ⟨g, hg, hgh.trans hnewer⟩)
  · obtain ⟨v', w, hv', hw, hlt⟩ := hnewer
    rw [hv] at hv'
    cases hv'
    exact .inr (.inr ⟨w, m, hw, hm, hlt.le.trans hle⟩)

theorem Known.up (h : Known i d) (hup : Up d d') : Known i d' := by
  obtain hsame | ⟨g, hg, hnewer⟩ | hreached := h
  · exact hup.known i hsame
  · exact (hup.known g hg).of_newer hnewer
  · exact .inr (.inr (hreached.up hup))

theorem Up.refl (d : StoredUpdatePolicy) : Up d d where
  floor m hm := ⟨m, hm, le_rfl⟩
  known _ hh := .inl hh

theorem Up.trans {a b c : StoredUpdatePolicy} (hab : Up a b) (hbc : Up b c) : Up a c where
  floor m hm := by
    obtain ⟨m', hm', hle⟩ := hab.floor m hm
    obtain ⟨m'', hm'', hle'⟩ := hbc.floor m' hm'
    exact ⟨m'', hm'', hle.trans hle'⟩
  known h hh := (hab.known h hh).up hbc

/-- The same floor and the same newest release. -/
theorem Up.of_eq (hminimum : d'.minimumVersion = d.minimumVersion)
    (hhighest : d'.highestObserved = d.highestObserved) : Up d d' where
  floor m hm := ⟨m, by rw [hminimum, hm], le_rfl⟩
  known h hh := .inl (by rw [hhighest, hh])

/-! ## Documents that are read back -/

theorem parse_toText {version : List Char} {current : Semver.Version}
    (h : parseCanonicalVersion version = some current) :
    parseCanonicalVersion (Semver.toText current) = some current := by
  have h' := h
  simp only [parseCanonicalVersion, Option.bind_eq_bind, Option.bind_eq_some_iff] at h'
  obtain ⟨v, -, hv⟩ := h'
  split at hv
  · cases hv
  · rename_i htext
    cases hv
    rw [Decidable.of_not_not htext]
    exact h

/-- The document next to be saved: valid but for its revision. -/
def Ready (d : StoredUpdatePolicy) : Prop :=
  d.schemaVersion = 1 ∧ isSafeChannel d.configuredChannel = true ∧
    ∃ m, parseCanonicalVersion d.minimumVersion = some m ∧ d.validateObserved m = true

theorem validate_iff : d.validate = true ↔ Ready d ∧ d.revision ≠ 0 := by
  simp only [StoredUpdatePolicy.validate, StoredUpdatePolicy.validateSchema, Ready,
    Bool.and_eq_true, decide_eq_true_eq, Option.any_eq_true]
  tauto

theorem Ready.next (h : Ready d) : { d with revision := d.revision + 1 }.validate = true :=
  validate_iff.2 ⟨h, Nat.succ_ne_zero _⟩

theorem usableDocument_of_validate (h : d.validate = true) (canonical : Bool)
    (channel : List Char) :
    usableDocument d canonical channel = some (if d.configuredChannel ≠ channel then
      ({ d with configuredChannel := channel, highestObserved := none, decision := none }, true)
      else (d, !canonical)) := by
  obtain ⟨⟨hschema, -⟩, -⟩ := validate_iff.1 h
  simp only [usableDocument, knownDocument, hschema, if_true, h]
  split <;> rfl

/-- The document a start finds, before it is raised to the installed version. -/
def foundDocument (file : PolicyFile) (current : Semver.Version) (channel : List Char) :
    StoredUpdatePolicy × Bool :=
  match file with
  | .document stored canonical =>
    (usableDocument stored canonical channel).getD (.new channel current, true)
  | .missing | .foreign => (.new channel current, true)

/-- What the file holds can be read back, if it is a document. -/
def PolicyFile.Valid (file : PolicyFile) : Prop :=
  ∀ d canonical, file = .document d canonical → d.validate = true

variable {file : PolicyFile} {version channel : List Char} {current : Semver.Version}

theorem new_ready (hcurrent : parseCanonicalVersion version = some current)
    (hchannel : isSafeChannel channel = true) : Ready (.new channel current) :=
  ⟨rfl, hchannel, current, parse_toText hcurrent, rfl⟩

theorem foundDocument_spec (hfile : file.Valid)
    (hcurrent : parseCanonicalVersion version = some current) (hchannel : isSafeChannel channel = true) :
    ∃ b needsSave, foundDocument file current channel = (b, needsSave) ∧ Ready b ∧
      (needsSave = false → ∃ canonical, file = .document b canonical) ∧
      (∀ d canonical, file = .document d canonical → d.configuredChannel = channel → b = d) ∧
      (b.decision = none ∨ ∃ canonical, file = .document b canonical) ∧
      (b.revision = 0 ∨ ∃ d canonical, file = .document d canonical ∧ b.revision = d.revision) := by
  have hnew := new_ready hcurrent hchannel
  cases file with
  | missing => exact ⟨_, _, rfl, hnew, fun h => (nomatch h), fun _ _ hd => (nomatch hd),
      .inl rfl, .inl rfl⟩
  | foreign => exact ⟨_, _, rfl, hnew, fun h => (nomatch h), fun _ _ hd => (nomatch hd),
      .inl rfl, .inl rfl⟩
  | document d canonical =>
    have hvalid := hfile d canonical rfl
    obtain ⟨⟨hschema, -, m, hm, -⟩, -⟩ := validate_iff.1 hvalid
    simp only [foundDocument, usableDocument_of_validate hvalid]
    by_cases hsame : d.configuredChannel = channel
    · rw [if_neg (not_not.2 hsame)]
      refine ⟨_, _, rfl, (validate_iff.1 hvalid).1, fun _ => ⟨_, rfl⟩, ?_, .inr ⟨_, rfl⟩,
        .inr ⟨d, _, rfl, rfl⟩⟩
      intro d' canonical' hd' _
      cases hd'
      rfl
    · rw [if_pos hsame]
      refine ⟨_, _, rfl, ⟨hschema, hchannel, m, hm, rfl⟩, fun h => (nomatch h), ?_, .inl rfl,
        .inr ⟨d, _, rfl, rfl⟩⟩
      intro d' canonical' hd' hch
      cases hd'
      exact absurd hch hsame

/-- A document under a higher floor, which its newest release is still above. -/
theorem Ready.raise (h : Ready d) {current : Semver.Version} {minimum : List Char}
    (hminimum : parseCanonicalVersion minimum = some current)
    (habove : ∀ observed, d.highestObserved = some observed →
      ∃ v, parseCanonicalVersion observed.version = some v ∧ current < v) :
    Ready { d with minimumVersion := minimum } := by
  obtain ⟨hschema, hchannel, m, -, hobserved⟩ := h
  refine ⟨hschema, hchannel, current, hminimum, ?_⟩
  simp only [StoredUpdatePolicy.validateObserved] at hobserved ⊢
  cases hhighest : d.highestObserved with
  | none =>
    rw [hhighest] at hobserved
    cases hdecision : d.decision with
    | none => rfl
    | some stored =>
      rw [hdecision] at hobserved
      cases hobserved
  | some observed =>
    obtain ⟨v, hv, hlt⟩ := habove observed hhighest
    simp only [hhighest, hv, Option.any_some, Bool.and_eq_true, decide_eq_true_eq] at hobserved ⊢
    exact ⟨⟨⟨hobserved.1.1.1, hlt⟩, hobserved.1.2⟩, hobserved.2⟩

/-- The found document under the installed version. -/
def raisedDocument (current : Semver.Version) (found : StoredUpdatePolicy × Bool) :
    Except UpdatePolicyErrorCode (StoredUpdatePolicy × Bool) :=
  match parseCanonicalVersion found.1.minimumVersion with
  | none => .error .storageUnavailable
  | some minimum =>
    if minimum < current then
      let raised := { found.1 with minimumVersion := Semver.toText current }
      match found.1.highestObserved with
      | none => .ok (raised, true)
      | some observed =>
        match parseCanonicalVersion observed.version with
        | none => .error .storageUnavailable
        | some version =>
          if version ≤ current then
            .ok ({ raised with highestObserved := none, decision := none }, true)
          else .ok (raised, true)
    else .ok found

theorem startingDocument_eq (file : PolicyFile) (current : Semver.Version) (channel : List Char) :
    startingDocument file current channel =
      raisedDocument current (foundDocument file current channel) := rfl

theorem up_raised {m current : Semver.Version} (hm : parseCanonicalVersion d.minimumVersion = some m)
    (hle : m ≤ current) (hminimum : parseCanonicalVersion d'.minimumVersion = some current)
    (hhighest : ∀ h, d.highestObserved = some h → Known h d') : Up d d' where
  floor m' hm' := by
    rw [hm] at hm'
    cases hm'
    exact ⟨current, hminimum, hle⟩
  known := hhighest

/-- The document raised: what it becomes, and what it keeps. -/
theorem raisedDocument_spec (needsSave : Bool)
    (hcurrent : parseCanonicalVersion version = some current) (hready : Ready d) :
    ∃ d' needsSave', raisedDocument current (d, needsSave) = .ok (d', needsSave') ∧ Ready d' ∧
      Up d d' ∧
      (d' = d ∧ needsSave' = needsSave ∨ needsSave' = true) ∧
      (d'.decision = none ∨ d'.highestObserved = d.highestObserved ∧ d'.decision = d.decision) ∧
      d'.revision = d.revision := by
  have htext := parse_toText hcurrent
  have hready' := hready
  obtain ⟨hschema, hsafe, m, hm, hobserved⟩ := hready
  simp only [raisedDocument, hm]
  split
  · rename_i hlt
    split
    · rename_i hhighest
      refine ⟨_, _, rfl, ?_, ?_, .inr rfl, .inr ⟨rfl, rfl⟩, rfl⟩
      · apply hready'.raise htext
        intro observed hsome
        rw [hhighest] at hsome
        cases hsome
      · apply up_raised hm hlt.le htext
        intro h hh
        exact .inl hh
    · rename_i observed hhighest
      have hparsed : ∃ v, parseCanonicalVersion observed.version = some v := by
        simp only [StoredUpdatePolicy.validateObserved, hhighest, Bool.and_eq_true,
          Option.any_eq_true] at hobserved
        obtain ⟨v, hv, -⟩ := hobserved.1.1.2
        exact ⟨v, hv⟩
      obtain ⟨v, hv⟩ := hparsed
      simp only [hv]
      split
      · rename_i hle
        refine ⟨_, _, rfl, ⟨hschema, hsafe, current, htext, rfl⟩, ?_, .inr rfl, .inl rfl, rfl⟩
        apply up_raised hm hlt.le htext
        intro h hh
        rw [hhighest] at hh
        cases hh
        exact .inr (.inr ⟨v, current, hv, htext, hle⟩)
      · rename_i hle
        refine ⟨_, _, rfl, ?_, ?_, .inr rfl, .inr ⟨rfl, rfl⟩, rfl⟩
        · apply hready'.raise htext
          intro observed' hsome
          rw [hhighest] at hsome
          cases hsome
          exact ⟨v, hv, not_le.1 hle⟩
        · apply up_raised hm hlt.le htext
          intro h hh
          exact .inl hh
  · exact ⟨d, needsSave, rfl, hready', .refl d, .inl ⟨rfl, rfl⟩, .inr ⟨rfl, rfl⟩, rfl⟩

/-- What a start makes of the file. -/
structure Started (file : PolicyFile) (channel : List Char) (d' : StoredUpdatePolicy) : Prop where
  up : ∀ d canonical, file = .document d canonical → d.configuredChannel = channel → Up d d'
  kept : d'.decision = none ∨ ∃ d canonical, file = .document d canonical ∧
    d'.highestObserved = d.highestObserved ∧ d'.decision = d.decision

/-- A start goes on with the document in the file: raised to the installed version, without a
release that it has reached, and without what another channel left; or with a new one. -/
theorem startingDocument_spec (hfile : file.Valid)
    (hcurrent : parseCanonicalVersion version = some current) (hchannel : isSafeChannel channel = true) :
    ∃ d' needsSave, startingDocument file current channel = .ok (d', needsSave) ∧ Ready d' ∧
      Started file channel d' ∧
      (needsSave = false → ∃ canonical, file = .document d' canonical) ∧
      (d'.revision = 0 ∨ ∃ d canonical, file = .document d canonical ∧
        d'.revision = d.revision) := by
  obtain ⟨b, needsSave, hfound, hready, hneeds, hsame, hold, hrevision⟩ :=
    foundDocument_spec hfile hcurrent hchannel
  obtain ⟨d', needsSave', hraised, hready', hup, hmust, hkept, hcounted⟩ :=
    raisedDocument_spec needsSave hcurrent hready
  rw [startingDocument_eq, hfound, hraised]
  refine ⟨d', needsSave', rfl, hready', ⟨?_, ?_⟩, ?_, by rwa [hcounted]⟩
  · intro d canonical hd hdch
    rw [← hsame d canonical hd hdch]
    exact hup
  · obtain hnone | ⟨hhighest, hdecision⟩ := hkept
    · exact .inl hnone
    · obtain hnone | ⟨canonical, hd⟩ := hold
      · exact .inl (hdecision.trans hnone)
      · exact .inr ⟨b, canonical, hd, hhighest, hdecision⟩
  · intro hfalse
    obtain ⟨rfl, rfl⟩ | htrue := hmust
    · exact hneeds hfalse
    · rw [hfalse] at htrue
      cases htrue

/-! ## Calls -/

theorem savedDocument_cases (save : SaveOutcome) (file : PolicyFile)
    (document : StoredUpdatePolicy) :
    (∃ code, savedDocument save file document = ⟨file, false, .error code⟩) ∨
      ({ document with revision := document.revision + 1 }.validate = true ∧
        (savedDocument save file document =
            ⟨.document { document with revision := document.revision + 1 } true, true,
              .ok { document with revision := document.revision + 1 }⟩ ∨
          save = .unsynced ∧ savedDocument save file document =
            ⟨.document { document with revision := document.revision + 1 } true, true,
              .error .storageUnavailable⟩)) := by
  simp only [savedDocument]
  split
  · exact .inl ⟨_, rfl⟩
  · rename_i hfits
    simp only [not_or, Bool.not_eq_false] at hfits
    cases save with
    | saved => exact .inr ⟨hfits.2, .inl rfl⟩
    | unsaved => exact .inl ⟨_, rfl⟩
    | unsynced => exact .inr ⟨hfits.2, .inr ⟨rfl, rfl⟩⟩

theorem initializePolicy_cases (readable : Bool) (save : SaveOutcome)
    (version channel : List Char) (hfile : file.Valid) :
    (∃ code, initializePolicy readable save file version channel = (file, .error code)) ∨
      ∃ d', Started file channel d' ∧ d'.validate = true ∧
        (initializePolicy readable save file version channel = (file, .ok ⟨d', none⟩) ∧
            (∃ canonical, file = .document d' canonical) ∨
          initializePolicy readable save file version channel =
            (.document d' true, .ok ⟨d', none⟩) ∨
          save = .unsynced ∧ initializePolicy readable save file version channel =
            (.document d' true, .error .storageUnavailable)) := by
  unfold initializePolicy
  split
  · exact .inl ⟨_, rfl⟩
  · rename_i current hcurrent
    split
    · exact .inl ⟨_, rfl⟩
    · rename_i hchannel
      split
      · exact .inl ⟨_, rfl⟩
      · obtain ⟨d', needsSave, hstart, -, hfound, hneeds, -⟩ :=
          startingDocument_spec hfile hcurrent (eq_true_of_ne_false hchannel)
        rw [hstart]
        cases needsSave with
        | false =>
          obtain ⟨canonical, hd⟩ := hneeds rfl
          exact .inr ⟨d', hfound, hfile d' canonical hd, .inl ⟨rfl, canonical, hd⟩⟩
        | true =>
          have hstarted : Started file channel { d' with revision := d'.revision + 1 } :=
            ⟨fun d c hd hdch => (hfound.up d c hd hdch).trans (.of_eq rfl rfl), hfound.kept⟩
          obtain ⟨code, hsaved⟩ | ⟨hvalid, hsaved | ⟨hunsynced, hsaved⟩⟩ :=
            savedDocument_cases save file d'
          · exact .inl ⟨code, by simp only [hsaved]; rfl⟩
          · exact .inr ⟨_, hstarted, hvalid, .inr (.inl (by simp only [hsaved]; rfl))⟩
          · exact .inr ⟨_, hstarted, hvalid, .inr (.inr ⟨hunsynced, by simp only [hsaved]; rfl⟩)⟩

/-- With working storage a start succeeds, until the revisions are used up. -/
theorem initializePolicy_ok (hfile : file.Valid) (hversion : (parseCanonicalVersion version).isSome) (hchannel : isSafeChannel channel = true)
    (hrevision : ∀ d canonical, file = .document d canonical → d.revision + 1 < 2 ^ 64) :
    ∃ state, (initializePolicy true .saved file version channel).2 = .ok state ∧
      ∀ d canonical, file = .document d canonical → d.configuredChannel = channel →
        Up d state.document := by
  obtain ⟨current, hcurrent⟩ := Option.isSome_iff_exists.1 hversion
  obtain ⟨d', needsSave, hstart, hready, ⟨hup, -⟩, -, hcounted⟩ :=
    startingDocument_spec hfile hcurrent hchannel
  have hfits : d'.revision + 1 < 2 ^ 64 := by
    obtain hzero | ⟨d, canonical, hd, hd'⟩ := hcounted
    · omega
    · have := hrevision d canonical hd
      omega
  simp only [initializePolicy, hcurrent, hchannel, hstart]
  cases needsSave with
  | false => exact ⟨_, rfl, hup⟩
  | true =>
    refine ⟨⟨{ d' with revision := d'.revision + 1 }, none⟩, ?_,
      fun d c hd hdch => (hup d c hd hdch).trans (.of_eq rfl rfl)⟩
    have hno : ¬(2 ^ 64 ≤ d'.revision + 1 ∨
        { d' with revision := d'.revision + 1 }.validate = false) := by
      rw [hready.next]
      intro h
      cases h with
      | inl h => omega
      | inr h => cases h
    simp only [savedDocument, if_neg hno]
    rfl

/-- The release replaces the newest one seen. -/
structure Replaced (release : UpdateRelease) (d next : StoredUpdatePolicy) : Prop where
  minimum : next.minimumVersion = d.minimumVersion
  highest : next.highestObserved = some (.fromRelease release)
  undecided : next.decision = none
  newer : ∀ h, d.highestObserved = some h → Newer release.version h.version

theorem replaceObserved_true {release : UpdateRelease}
    (h : d.replaceObserved release = .ok true) (g : StoredReleaseIdentity)
    (hg : d.highestObserved = some g) : Newer release.version g.version := by
  simp only [StoredUpdatePolicy.replaceObserved, hg] at h
  split at h
  · cases h
  · split at h
    · cases h
    · cases h
    · rename_i version minimum hversion hminimum
      split at h
      · cases h
      · split at h
        · cases h
        · split at h
          · cases h
          · rename_i seen hseen
            split at h
            · cases h
            · rename_i hlt
              split at h
              · split at h <;> cases h
              · rename_i hne
                exact ⟨version, seen, hversion, hseen, lt_of_le_of_ne (not_lt.1 hlt) (Ne.symm hne)⟩

/-- An observation is refused, finds the release to be the newest one seen, or makes it that. -/
theorem observeRelease_cases (state : UpdatePolicyState) (save : SaveOutcome) (file : PolicyFile)
    (release : UpdateRelease) :
    (∃ code, state.observeRelease save file release = ⟨file, state, false, .error code⟩) ∨
      (∃ action active, state.document.highestObserved = some (.fromRelease release) ∧
        actionForObservation state.document release.policy = .ok action ∧
        state.observeRelease save file release =
          ⟨file, ⟨state.document, active⟩, false, .ok ⟨release, action⟩⟩) ∨
      ∃ next, Replaced release state.document next ∧ next.validate = true ∧
        (save = .unsynced ∧ state.observeRelease save file release =
            ⟨.document next true, state, true, .error .storageUnavailable⟩ ∨
          ∃ action active, actionForObservation next release.policy = .ok action ∧
            state.observeRelease save file release =
              ⟨.document next true, ⟨next, active⟩, true, .ok ⟨release, action⟩⟩) := by
  unfold UpdatePolicyState.observeRelease
  cases hreplace : state.document.replaceObserved release with
  | error code => exact .inl ⟨code, rfl⟩
  | ok replace =>
    cases replace with
    | false =>
      have hsame := StoredUpdatePolicy.replaceObserved_false hreplace
      simp only [evaluated]
      cases haction : actionForObservation state.document release.policy with
      | error code => exact .inl ⟨code, rfl⟩
      | ok action => exact .inr (.inl ⟨action, _, hsame, rfl, rfl⟩)
    | true =>
      obtain ⟨code, hsaved⟩ | ⟨hvalid, hsaved⟩ := savedDocument_cases save file
        { state.document with highestObserved := some (.fromRelease release), decision := none }
      · exact .inl ⟨code, by simp only [hsaved]⟩
      · refine .inr (.inr ⟨{ state.document with
          highestObserved := some (.fromRelease release)
          decision := none
          revision := state.document.revision + 1 },
          ⟨rfl, rfl, rfl, replaceObserved_true hreplace⟩, hvalid, ?_⟩)
        obtain hsaved | ⟨hunsynced, hsaved⟩ := hsaved
        · right
          simp only [hsaved, evaluated]
          cases hpolicy : release.policy with
          | forced => exact ⟨.forced, _, rfl, rfl⟩
          | optional => exact ⟨.prompt, _, rfl, rfl⟩
        · exact .inl ⟨hunsynced, by simp only [hsaved]⟩

/-- A decision is refused, or is saved on the newest release seen. -/
theorem decide_outcome (state : UpdatePolicyState) (save : SaveOutcome) (file : PolicyFile)
    (decision : UpdateDecision) :
    (∃ code, state.decide save file decision = ⟨file, state, false, .error code⟩) ∨
      ∃ release next, state.activeRelease = some release ∧ release.policy ≠ .forced ∧
        state.document.highestObserved = some (.fromRelease release) ∧
        next = { state.decidedDocument release decision with
          revision := state.document.revision + 1 } ∧ next.validate = true ∧
        (save = .unsynced ∧ state.decide save file decision =
            ⟨.document next true, state, true, .error .storageUnavailable⟩ ∨
          state.decide save file decision =
            ⟨.document next true, ⟨next, none⟩, true, .ok ⟨release, decision.action⟩⟩) := by
  simp only [UpdatePolicyState.decide]
  split
  · exact .inl ⟨_, rfl⟩
  · rename_i release hactive
    split
    · exact .inl ⟨_, rfl⟩
    · rename_i hoptional
      split
      · exact .inl ⟨_, rfl⟩
      · rename_i seen hseen
        split
        · exact .inl ⟨_, rfl⟩
        · rename_i hsame
          rw [Decidable.of_not_not hsame] at hseen
          obtain ⟨code, hsaved⟩ | ⟨hvalid, hsaved⟩ :=
            savedDocument_cases save file
              { state.document with decision := some ⟨release.version, decision⟩ }
          · exact .inl ⟨code, by simp only [hsaved]⟩
          · refine .inr ⟨release, _, hactive, hoptional, hseen, rfl, hvalid, ?_⟩
            obtain hsaved | ⟨hunsynced, hsaved⟩ := hsaved
            · exact .inr (by simp only [hsaved]; rfl)
            · exact .inl ⟨hunsynced, by simp only [hsaved]; rfl⟩

/-! ## What holds of every state -/

/-- The decision was asked for on the release, and no newer one was judged since. -/
def Submitted (decision : UpdateDecision) (i : StoredReleaseIdentity) : List PolicyEntry → Prop
  | [] => False
  | .submitted asked release :: older =>
    asked = decision ∧ .fromRelease release = i ∨ Submitted decision i older
  | .observed release :: older => ¬Newer release.version i.version ∧ Submitted decision i older

/-- A stored decision is one on the newest release seen. -/
def Decided (history : List PolicyEntry) (d : StoredUpdatePolicy) : Prop :=
  ∀ stored, d.decision = some stored →
    ∃ i, d.highestObserved = some i ∧ Submitted stored.decision i history

/-- The document of the running service. -/
def PolicyRun.document (s : PolicyRun) : Option StoredUpdatePolicy :=
  s.service.map UpdatePolicyState.document

/-- The document is in the file, or in the running service. -/
def PolicyRun.Holds (s : PolicyRun) (d : StoredUpdatePolicy) : Prop :=
  (∃ canonical, s.file = .document d canonical) ∨ s.document = some d

/-- The file against the service: after a save that erred it may be one release ahead, or have a
decision more. -/
def Behind (m f : StoredUpdatePolicy) : Prop :=
  f.highestObserved = m.highestObserved ∨ f.decision = none ∧
    ∃ h, f.highestObserved = some h ∧ ∀ g, m.highestObserved = some g → Newer h.version g.version

structure Sound (s : PolicyRun) : Prop where
  valid : ∀ d, s.Holds d → d.validate = true
  decided : ∀ d, s.Holds d → Decided s.history d
  behind : ∀ m f canonical, s.document = some m → s.file = .document f canonical → Behind m f

theorem Decided.of_undecided {history : List PolicyEntry} (h : d.decision = none) :
    Decided history d := by
  intro stored hstored
  rw [h] at hstored
  cases hstored

theorem Decided.of_eq {history : List PolicyEntry} (h : Decided history d)
    (hhighest : d'.highestObserved = d.highestObserved) (hdecision : d'.decision = d.decision) :
    Decided history d' := by
  intro stored hstored
  rw [hhighest]
  exact h stored (hdecision ▸ hstored)

theorem Decided.submitted {history : List PolicyEntry} (h : Decided history d)
    (decision : UpdateDecision) (release : UpdateRelease) :
    Decided (.submitted decision release :: history) d := by
  intro stored hstored
  obtain ⟨i, hi, hsubmitted⟩ := h stored hstored
  exact ⟨i, hi, .inr hsubmitted⟩

theorem Decided.observed {history : List PolicyEntry} {release : UpdateRelease}
    (h : Decided history d) (hhighest : d.highestObserved = some (.fromRelease release)) :
    Decided (.observed release :: history) d := by
  intro stored hstored
  obtain ⟨i, hi, hsubmitted⟩ := h stored hstored
  refine ⟨i, hi, ?_, hsubmitted⟩
  rw [hhighest] at hi
  cases hi
  exact Newer.irrefl

/-! ## One step -/

/-- The file stays, and so does its channel. -/
def Steady : PolicyCall → PolicyRun → Prop
  | .start _ _ _ channel, s =>
    ∃ d canonical, s.file = .document d canonical ∧ d.configuredChannel = channel
  | .lose _, _ => False
  | _, _ => True

/-- How the call's save ends. -/
def PolicyCall.save : PolicyCall → SaveOutcome
  | .start _ save _ _ | .observeRelease save _ | .decide save _ => save
  | .lose _ => .saved

/-- The service's document while the call runs: a start begins without one. -/
def PolicyCall.begins (s : PolicyRun) : PolicyCall → Option StoredUpdatePolicy
  | .start .. => none
  | _ => s.document

/-- A document that the call saves. -/
structure Next (call : PolicyCall) (s s' : PolicyRun) (d : StoredUpdatePolicy) : Prop where
  valid : d.validate = true
  decided : Decided s'.history d
  behind : ∀ m, call.begins s = some m → Behind m d
  up : Steady call s → ∃ m, s.Holds m ∧ Up m d

/-- The history goes on accounting for the decisions. -/
def Accounted (s s' : PolicyRun) : Prop := ∀ d, s.Holds d → Decided s'.history d

/-- What a call leaves in the file and the service. -/
inductive Outcome (call : PolicyCall) (s s' : PolicyRun) : Prop
  | kept (file : s'.file = s.file) (document : s'.document = call.begins s)
      (accounted : Accounted s s')
  | read (d : StoredUpdatePolicy) (canonical : Bool) (found : s.file = .document d canonical)
      (file : s'.file = s.file) (document : s'.document = some d) (accounted : Accounted s s')
  | saved (d : StoredUpdatePolicy) (next : Next call s s' d) (file : s'.file = .document d true)
      (document : s'.document = some d)
  | replaced (d : StoredUpdatePolicy) (next : Next call s s' d) (unsynced : call.save = .unsynced)
      (file : s'.file = .document d true) (document : s'.document = call.begins s)
      (accounted : Accounted s s')
  | lost (file : ∀ d canonical, s'.file ≠ .document d canonical)
      (document : s'.document = s.document) (accounted : Accounted s s') (unsteady : ¬Steady call s)

/-- A step: what it leaves behind, and that a call that errs changes nothing, unless its save
replaced the file before it erred. -/
structure Stepped (call : PolicyCall) (s s' : PolicyRun) (answer : Answer) : Prop where
  outcome : Outcome call s s'
  erred : ∀ code, answer = .error code → (call.save ≠ .unsynced → s'.file = s.file) ∧
    (s'.service = s.service ∨ call.begins s = none)

theorem Replaced.up {release : UpdateRelease} (h : Replaced release d d') : Up d d' where
  floor m hm := ⟨m, by rw [h.minimum, hm], le_rfl⟩
  known g hg := .inr (.inl ⟨_, h.highest, h.newer g hg⟩)

theorem Sound.start {s s' : PolicyRun} (h : Sound s) {readable : Bool} {save : SaveOutcome}
    {version channel : List Char} {answer : Answer}
    (hcall : s.call (.start readable save version channel) = some (s', answer)) :
    Stepped (.start readable save version channel) s s' answer := by
  simp only [PolicyRun.call] at hcall
  obtain ⟨code, hinit⟩ | ⟨d', hstarted, hvalid, hinit⟩ := initializePolicy_cases readable save
    version channel fun d c hd => h.valid d (.inl ⟨c, hd⟩)
  · rw [hinit] at hcall
    cases hcall
    exact ⟨.kept rfl rfl h.decided, fun _ _ => ⟨fun _ => rfl, .inr rfl⟩⟩
  · have hnext : ∀ s'' : PolicyRun, s''.history = s.history →
        Next (.start readable save version channel) s s'' d' := by
      intro s'' hhistory
      refine ⟨hvalid, ?_, fun m hm => (nomatch hm), ?_⟩
      · rw [hhistory]
        obtain hnone | ⟨d, c, hd, hhighest, hdecision⟩ := hstarted.kept
        · exact .of_undecided hnone
        · exact (h.decided d (.inl ⟨c, hd⟩)).of_eq hhighest hdecision
      · intro ⟨d, c, hd, hchannel⟩
        exact ⟨d, .inl ⟨c, hd⟩, hstarted.up d c hd hchannel⟩
    obtain ⟨hinit, c, hd⟩ | hinit | ⟨hunsynced, hinit⟩ := hinit
    · rw [hinit] at hcall
      cases hcall
      exact ⟨.read d' c hd rfl rfl h.decided, fun code herror => (nomatch herror)⟩
    · rw [hinit] at hcall
      cases hcall
      exact ⟨.saved d' (hnext _ rfl) rfl rfl, fun code herror => (nomatch herror)⟩
    · rw [hinit] at hcall
      cases hcall
      exact ⟨.replaced d' (hnext _ rfl) hunsynced rfl rfl h.decided,
        fun _ _ => ⟨absurd hunsynced, .inr rfl⟩⟩

theorem Sound.observeRelease {s s' : PolicyRun} (h : Sound s) {save : SaveOutcome}
    {release : UpdateRelease} {answer : Answer}
    (hcall : s.call (.observeRelease save release) = some (s', answer)) :
    Stepped (.observeRelease save release) s s' answer := by
  simp only [PolicyRun.call, Option.map_eq_some_iff] at hcall
  obtain ⟨state, hstate, hcall⟩ := hcall
  have hdocument : s.document = some state.document := by rw [PolicyRun.document, hstate]; rfl
  obtain ⟨code, hj⟩ | ⟨action, active, hsame, -, hj⟩ | ⟨next, hreplaced, hvalid, hj⟩ :=
    observeRelease_cases state save s.file release
  · rw [hj] at hcall
    cases hcall
    exact ⟨.kept rfl hdocument.symm h.decided, fun _ _ => ⟨fun _ => rfl, .inl hstate.symm⟩⟩
  · rw [hj] at hcall
    cases hcall
    refine ⟨.kept rfl hdocument.symm ?_, fun _ herror => (nomatch herror)⟩
    intro d hd
    obtain ⟨c, hc⟩ | hd' := hd
    · obtain hhighest | ⟨hnone, -⟩ := h.behind _ d c hdocument hc
      · exact (h.decided d (.inl ⟨c, hc⟩)).observed (hhighest.trans hsame)
      · exact .of_undecided hnone
    · rw [hdocument] at hd'
      cases hd'
      exact (h.decided _ (.inr hdocument)).observed hsame
  · have hnext : ∀ s'', Next (.observeRelease save release) s s'' next := by
      intro s''
      refine ⟨hvalid, .of_undecided hreplaced.undecided, ?_,
        fun _ => ⟨_, .inr hdocument, hreplaced.up⟩⟩
      intro m hm
      cases hdocument.symm.trans hm
      exact .inr ⟨hreplaced.undecided, _, hreplaced.highest, hreplaced.newer⟩
    obtain ⟨hunsynced, hj⟩ | ⟨action, active, -, hj⟩ := hj
    · rw [hj] at hcall
      cases hcall
      exact ⟨.replaced next (hnext _) hunsynced rfl hdocument.symm h.decided,
        fun _ _ => ⟨absurd hunsynced, .inl hstate.symm⟩⟩
    · rw [hj] at hcall
      cases hcall
      exact ⟨.saved next (hnext _) rfl rfl, fun _ herror => (nomatch herror)⟩

theorem Sound.decide {s s' : PolicyRun} (h : Sound s) {save : SaveOutcome}
    {decision : UpdateDecision} {answer : Answer}
    (hcall : s.call (.decide save decision) = some (s', answer)) :
    Stepped (.decide save decision) s s' answer := by
  simp only [PolicyRun.call, Option.map_eq_some_iff] at hcall
  obtain ⟨state, hstate, hcall⟩ := hcall
  have hdocument : s.document = some state.document := by rw [PolicyRun.document, hstate]; rfl
  obtain ⟨code, hj⟩ | ⟨release, next, hactive, -, hsame, hnext, hvalid, hj⟩ :=
    decide_outcome state save s.file decision
  · rw [hj] at hcall
    cases hcall
    refine ⟨.kept rfl hdocument.symm ?_, fun _ _ => ⟨fun _ => rfl, .inl hstate.symm⟩⟩
    intro d hd
    cases state.activeRelease with
    | none => exact h.decided d hd
    | some release => exact (h.decided d hd).submitted decision release
  · rw [hactive] at hcall
    have haccounted : ∀ d, s.Holds d → Decided (.submitted decision release :: s.history) d :=
      fun d hd => (h.decided d hd).submitted decision release
    have hnext : ∀ s'' : PolicyRun, s''.history = .submitted decision release :: s.history →
        Next (.decide save decision) s s'' next := by
      intro s'' hhistory
      refine ⟨hvalid, ?_, ?_, fun _ => ⟨_, .inr hdocument, ?_⟩⟩
      · rw [hhistory, hnext]
        intro stored hstored
        cases hstored
        exact ⟨_, hsame, .inl ⟨rfl, rfl⟩⟩
      · intro m hm
        cases hdocument.symm.trans hm
        rw [hnext]
        exact .inl rfl
      · rw [hnext]
        exact .of_eq rfl rfl
    obtain ⟨hunsynced, hj⟩ | hj := hj
    · rw [hj] at hcall
      cases hcall
      exact ⟨.replaced next (hnext _ rfl) hunsynced rfl hdocument.symm haccounted,
        fun _ _ => ⟨absurd hunsynced, .inl hstate.symm⟩⟩
    · rw [hj] at hcall
      cases hcall
      exact ⟨.saved next (hnext _ rfl) rfl rfl, fun _ herror => (nomatch herror)⟩

theorem Sound.stepped {s s' : PolicyRun} (h : Sound s) {call : PolicyCall} {answer : Answer}
    (hcall : s.call call = some (s', answer)) : Stepped call s s' answer := by
  cases call with
  | start readable save version channel => exact h.start hcall
  | observeRelease save release => exact h.observeRelease hcall
  | decide save decision => exact h.decide hcall
  | lose removed =>
    cases hcall
    refine ⟨.lost ?_ rfl h.decided id, fun _ herror => (nomatch herror)⟩
    intro d canonical hd
    cases removed <;> cases hd

omit [Semver] in
theorem PolicyCall.document_of_begins {call : PolicyCall} {s : PolicyRun}
    (h : call.begins s = some d) : s.document = some d := by
  cases call with
  | start => cases h
  | observeRelease | decide | lose => exact h

/-- A document behind a step was there before, or was saved by it. -/
theorem Outcome.source {call : PolicyCall} {s s' : PolicyRun} (h : Outcome call s s')
    (hd : s'.Holds d) : s.Holds d ∧ Accounted s s' ∨ Next call s s' d := by
  cases h with
  | kept hfile hdocument haccounted =>
    obtain ⟨c, hd⟩ | hd := hd
    · exact .inl ⟨.inl ⟨c, hfile ▸ hd⟩, haccounted⟩
    · exact .inl ⟨.inr (call.document_of_begins (hdocument ▸ hd)), haccounted⟩
  | read d' c' hfound hfile hdocument haccounted =>
    obtain ⟨c, hd⟩ | hd := hd
    · exact .inl ⟨.inl ⟨c, hfile ▸ hd⟩, haccounted⟩
    · cases hdocument.symm.trans hd
      exact .inl ⟨.inl ⟨c', hfound⟩, haccounted⟩
  | saved d' hnext hfile hdocument =>
    obtain ⟨c, hd⟩ | hd := hd
    · cases hfile.symm.trans hd
      exact .inr hnext
    · cases hdocument.symm.trans hd
      exact .inr hnext
  | replaced d' hnext hunsynced hfile hdocument haccounted =>
    obtain ⟨c, hd⟩ | hd := hd
    · cases hfile.symm.trans hd
      exact .inr hnext
    · exact .inl ⟨.inr (call.document_of_begins (hdocument ▸ hd)), haccounted⟩
  | lost hfile hdocument haccounted hunsteady =>
    obtain ⟨c, hd⟩ | hd := hd
    · exact absurd hd (hfile d c)
    · exact .inl ⟨.inr (hdocument ▸ hd), haccounted⟩

theorem sound_inductive : policySystem.Inductive Sound where
  init s hs := by
    cases hs
    refine ⟨?_, ?_, fun _ _ _ hnone => (nomatch hnone)⟩
    · rintro d (⟨c, hd⟩ | hd) <;> cases hd
    · rintro d (⟨c, hd⟩ | hd) <;> cases hd
  step s call s' h hstep := by
    obtain ⟨answer, hcall⟩ := hstep
    obtain ⟨houtcome, -⟩ := h.stepped hcall
    refine ⟨?_, ?_, ?_⟩
    · intro d hd
      obtain ⟨hd, -⟩ | hnext := houtcome.source hd
      · exact h.valid d hd
      · exact hnext.valid
    · intro d hd
      obtain ⟨hd, haccounted⟩ | hnext := houtcome.source hd
      · exact haccounted d hd
      · exact hnext.decided
    · intro m f c hm hf
      cases houtcome with
      | kept hfile hdocument =>
        exact h.behind m f c (call.document_of_begins (hdocument ▸ hm)) (hfile ▸ hf)
      | read d c' hfound hfile hdocument =>
        cases hdocument.symm.trans hm
        cases (hfile.trans hfound).symm.trans hf
        exact .inl rfl
      | saved d hnext hfile hdocument =>
        cases hdocument.symm.trans hm
        cases hfile.symm.trans hf
        exact .inl rfl
      | replaced d hnext hunsynced hfile hdocument =>
        cases hfile.symm.trans hf
        exact hnext.behind m (hdocument ▸ hm)
      | lost hfile => exact absurd hf (hfile f c)

/-- Every document behind a steady step continues one before it. -/
theorem step_up {s s' : PolicyRun} (h : Sound s) {call : PolicyCall} {answer : Answer}
    (hcall : s.call call = some (s', answer)) (hsteady : Steady call s) (hd : s'.Holds d') :
    ∃ d, s.Holds d ∧ Up d d' := by
  obtain ⟨hd, -⟩ | hnext := (h.stepped hcall).outcome.source hd
  · exact ⟨d', hd, .refl d'⟩
  · exact hnext.up hsteady

/-! ## What the service answers -/

/-- An accepted observation: the release is the newest one seen in the service's document, which
the action is read off. -/
theorem observed_spec {s s' : PolicyRun} (h : Sound s) {save : SaveOutcome}
    {release : UpdateRelease} {e : UpdatePolicyEvaluation}
    (hcall : s.call (.observeRelease save release) = some (s', .ok (some e))) :
    ∃ m d, s.document = some m ∧ Up m d ∧ d.validate = true ∧
      d.highestObserved = some (.fromRelease release) ∧
      actionForObservation d release.policy = .ok e.action ∧ Decided s.history d ∧
      ∀ f, s'.Holds f → Known (.fromRelease release) f := by
  simp only [PolicyRun.call, Option.map_eq_some_iff] at hcall
  obtain ⟨state, hstate, hcall⟩ := hcall
  have hdocument : s.document = some state.document := by rw [PolicyRun.document, hstate]; rfl
  obtain ⟨code, hj⟩ | ⟨action, active, hsame, haction, hj⟩ | ⟨next, hreplaced, hvalid, hj⟩ :=
    observeRelease_cases state save s.file release
  · rw [hj] at hcall
    cases hcall
  · rw [hj] at hcall
    cases hcall
    refine ⟨_, _, hdocument, .refl _, h.valid _ (.inr hdocument), hsame, haction,
      h.decided _ (.inr hdocument), ?_⟩
    intro f hf
    obtain ⟨c, hc⟩ | hf := hf
    · obtain hhighest | ⟨-, g, hg, hnewer⟩ := h.behind _ f c hdocument hc
      · exact .inl (hhighest.trans hsame)
      · exact .inr (.inl ⟨g, hg, hnewer _ hsame⟩)
    · cases hf
      exact .inl hsame
  · obtain ⟨-, hj⟩ | ⟨action, active, haction, hj⟩ := hj
    · rw [hj] at hcall
      cases hcall
    · rw [hj] at hcall
      cases hcall
      refine ⟨_, next, hdocument, hreplaced.up, hvalid, hreplaced.highest, haction,
        .of_undecided hreplaced.undecided, ?_⟩
      intro f hf
      obtain ⟨c, hc⟩ | hf := hf
      · cases hc
        exact .inl hreplaced.highest
      · cases hf
        exact .inl hreplaced.highest

/-- The decision behind an action. -/
def UpdatePolicyAction.asked : UpdatePolicyAction → Option UpdateDecision
  | .suppressed => some .skipVersion
  | .installRequested => some .installNow
  | _ => none

omit [Semver] in
theorem decision_of_action {policy : UpdatePolicy} {action : UpdatePolicyAction}
    {decision : UpdateDecision} (h : actionForObservation d policy = .ok action)
    (hasked : action.asked = some decision) :
    ∃ stored, d.decision = some stored ∧ stored.decision = decision := by
  simp only [actionForObservation] at h
  split at h
  · split at h <;> cases h
    cases hasked
  · cases hdecision : d.decision with
    | none =>
      rw [hdecision] at h
      cases h
      cases hasked
    | some stored =>
      refine ⟨stored, rfl, ?_⟩
      rw [hdecision] at h
      cases hstored : stored.decision <;> rw [Option.map_some, hstored] at h <;> cases h <;>
        cases hasked <;> rfl

/-- The newest release seen is the only one of its version that is known. -/
theorem Known.eq_of_highest {j : StoredReleaseIdentity} (h : Known i d)
    (hvalid : d.validate = true) (hj : d.highestObserved = some j) (hversion : i.version = j.version) :
    i = j := by
  obtain hi | ⟨g, hg, hnewer⟩ | ⟨v, m, hv, hm, hle⟩ := h
  · rw [hi] at hj
    exact Option.some.inj hj
  · rw [hg] at hj
    cases hj
    rw [hversion] at hnewer
    exact absurd hnewer Newer.irrefl
  · obtain ⟨⟨-, -, m', hm', hobserved⟩, -⟩ := validate_iff.1 hvalid
    simp only [StoredUpdatePolicy.validateObserved, hj, Bool.and_eq_true, Option.any_eq_true,
      decide_eq_true_eq] at hobserved
    obtain ⟨w, hw, hlt⟩ := hobserved.1.1.2
    rw [hm] at hm'
    cases hm'
    rw [hversion, hw] at hv
    cases hv
    exact absurd hle (not_le.2 hlt)

/-- While no save errs after it replaced the file, file and service hold one document. -/
def Synchronous (s : PolicyRun) : Prop :=
  ∀ m f canonical, s.document = some m → s.file = .document f canonical → f = m

theorem synchronous_inductive :
    (policySystem.restrict fun call _ => call.save ≠ .unsynced).Inductive fun s =>
      Sound s ∧ Synchronous s where
  init s hs := by
    refine ⟨sound_inductive.init s hs, ?_⟩
    cases hs
    exact fun _ _ _ hnone => (nomatch hnone)
  step s call s' h hstep := by
    obtain ⟨⟨answer, hcall⟩, hsynced⟩ := hstep
    refine ⟨sound_inductive.step s call s' h.1 ⟨answer, hcall⟩, ?_⟩
    intro m f c hm hf
    cases (h.1.stepped hcall).outcome with
    | kept hfile hdocument =>
      exact h.2 m f c (call.document_of_begins (hdocument ▸ hm)) (hfile ▸ hf)
    | read d c' hfound hfile hdocument =>
      cases hdocument.symm.trans hm
      cases (hfile.trans hfound).symm.trans hf
      rfl
    | saved d hnext hfile hdocument =>
      cases hdocument.symm.trans hm
      cases hfile.symm.trans hf
      rfl
    | replaced d hnext hunsynced => exact absurd hunsynced hsynced
    | lost hfile => exact absurd hf (hfile f c)

/-- The document in the file continues the one that was there. -/
theorem file_up {s s' : PolicyRun} (h : Sound s ∧ Synchronous s) {call : PolicyCall}
    {answer : Answer} (hcall : s.call call = some (s', answer))
    (hsteady : Steady call s) {canonical : Bool} (hd : s.file = .document d canonical) :
    ∃ d' canonical', s'.file = .document d' canonical' ∧ Up d d' := by
  have hsaved : ∀ d', Next call s s' d' → Up d d' := by
    intro d' hnext
    obtain ⟨m, ⟨c, hm⟩ | hm, hup⟩ := hnext.up hsteady
    · cases hd.symm.trans hm
      exact hup
    · cases h.2 m d canonical hm hd
      exact hup
  cases (h.1.stepped hcall).outcome with
  | kept hfile => exact ⟨d, canonical, hfile.trans hd, .refl d⟩
  | read d' c' hfound hfile => exact ⟨d, canonical, hfile.trans hd, .refl d⟩
  | saved d' hnext hfile => exact ⟨d', true, hfile, hsaved d' hnext⟩
  | replaced d' hnext hunsynced hfile => exact ⟨d', true, hfile, hsaved d' hnext⟩
  | lost hfile hdocument haccounted hunsteady => exact absurd hsteady hunsteady

theorem covered_run {s s' : PolicyRun} {calls : List PolicyCall}
    (hrun : (policySystem.restrict Steady).Run s calls s') (h : Sound s)
    (hknown : ∀ d, s.Holds d → Known i d) : Sound s' ∧ ∀ d, s'.Holds d → Known i d := by
  induction hrun with
  | nil => exact ⟨h, hknown⟩
  | cons hstep _ ih =>
    obtain ⟨⟨answer, hcall⟩, hsteady⟩ := hstep
    apply ih (sound_inductive.step _ _ _ h ⟨answer, hcall⟩)
    intro d' hd'
    obtain ⟨d, hd, hup⟩ := step_up h hcall hsteady hd'
    exact (hknown d hd).up hup

/-- **Decisions are respected**, in every run, whichever saves err: a release is suppressed, or its
installation requested, only on such a decision on this very release with no newer one judged since;
a forced release is only ever forced, and no decision on it is accepted. -/
theorem decisions_respected :
    (∀ s, policySystem.Reachable s → ∀ save release s' e,
      s.call (.observeRelease save release) = some (s', .ok (some e)) →
      (∀ decision, e.action.asked = some decision →
        Submitted decision (.fromRelease release) s.history) ∧
      (release.policy = .forced → e.action = .forced)) ∧
    ∀ s : PolicyRun, ∀ save decision s' e,
      s.call (.decide save decision) = some (s', .ok (some e)) → e.release.policy ≠ .forced := by
  constructor
  · intro s hs save release s' e hcall
    obtain ⟨m, d, -, -, -, hhighest, haction, hdecided, -⟩ :=
      observed_spec (sound_inductive.reachable hs) hcall
    constructor
    · intro decision hasked
      obtain ⟨stored, hstored, rfl⟩ := decision_of_action haction hasked
      obtain ⟨i, hi, hsubmitted⟩ := hdecided stored hstored
      rw [hhighest] at hi
      cases hi
      exact hsubmitted
    · intro hforced
      rw [hforced, actionForObservation, if_pos rfl] at haction
      split at haction
      · exact (Except.ok.inj haction).symm
      · cases haction
  · intro s save decision s' e hcall
    simp only [PolicyRun.call, Option.map_eq_some_iff] at hcall
    obtain ⟨state, -, hcall⟩ := hcall
    have hresult : (state.decide save s.file decision).result = .ok e := by
      cases hr : (state.decide save s.file decision).result with
      | error code => rw [hr] at hcall; cases hcall
      | ok e' => rw [hr] at hcall; cases hcall; rfl
    exact (UpdatePolicyState.decide_ok hresult).2.1

/-- **The document is kept**, in every run: a start with working storage goes on with the stored
one; a call that errs leaves the service as it is, and the file too unless its save replaced it
first; and where no save does that, the file's document only goes up. -/
theorem documents_kept :
    (∀ s, policySystem.Reachable s →
      (∀ version channel, (parseCanonicalVersion version).isSome → isSafeChannel channel = true →
        (∀ d canonical, s.file = .document d canonical → d.revision + 1 < 2 ^ 64) →
        ∃ state, (initializePolicy true .saved s.file version channel).2 = .ok state ∧
          ∀ d canonical, s.file = .document d canonical → d.configuredChannel = channel →
            Up d state.document) ∧
      ∀ call s' code, s.call call = some (s', .error code) →
        (call.save ≠ .unsynced → s'.file = s.file) ∧
        (s'.service = s.service ∨ call.begins s = none)) ∧
    ∀ s calls s', (policySystem.restrict fun call _ => call.save ≠ .unsynced).Reachable s →
      (policySystem.restrict fun call s => call.save ≠ .unsynced ∧ Steady call s).Run s calls s' →
      ∀ d canonical, s.file = .document d canonical →
        ∃ d' canonical', s'.file = .document d' canonical' ∧ Up d d' := by
  constructor
  · intro s hs
    have h := sound_inductive.reachable hs
    refine ⟨?_, fun call s' code hcall => (h.stepped hcall).erred code rfl⟩
    intro version channel hversion hchannel hrevision
    exact initializePolicy_ok (fun d c hd => h.valid d (.inl ⟨c, hd⟩)) hversion hchannel hrevision
  · intro s calls s' hs hrun d canonical hd
    have h := synchronous_inductive.reachable hs
    clear hs
    induction hrun generalizing d canonical with
    | nil => exact ⟨d, canonical, hd, .refl d⟩
    | cons hstep _ ih =>
      obtain ⟨⟨answer, hcall⟩, hsynced, hsteady⟩ := hstep
      obtain ⟨d', c', hd', hup⟩ := file_up h hcall hsteady hd
      obtain ⟨d'', c'', hd'', hup'⟩ := ih d' c' hd'
        (synchronous_inductive.step _ _ _ h ⟨⟨answer, hcall⟩, hsynced⟩)
      exact ⟨d'', c'', hd'', hup.trans hup'⟩

/-- **One release for each version**: while the file and its channel stay, of two releases of one
version that are judged the second is the first, over any number of starts and failed saves. -/
theorem versions_fixed {s s' t t' : PolicyRun} {save save' : SaveOutcome}
    {release release' : UpdateRelease} {e e' : UpdatePolicyEvaluation} {calls : List PolicyCall}
    (hs : policySystem.Reachable s)
    (hfirst : s.call (.observeRelease save release) = some (s', .ok (some e)))
    (hrun : (policySystem.restrict Steady).Run s' calls t)
    (hsecond : t.call (.observeRelease save' release') = some (t', .ok (some e')))
    (hversion : release'.version = release.version) :
    StoredReleaseIdentity.fromRelease release' = .fromRelease release := by
  have h := sound_inductive.reachable hs
  obtain ⟨-, -, -, -, -, -, -, -, hknown⟩ := observed_spec h hfirst
  obtain ⟨ht, hknown'⟩ :=
    covered_run hrun (sound_inductive.step _ _ _ h ⟨_, hfirst⟩) hknown
  obtain ⟨m, d, hm, hup, hvalid, hhighest, -⟩ := observed_spec ht hsecond
  have hnow : Known (.fromRelease release) d := (hknown' m (.inr hm)).up hup
  exact (hnow.eq_of_highest hvalid hhighest hversion.symm).symm

end AutomationTool.Desktop.AppUpdates

namespace AutomationTool.Desktop.AppUpdates.Concrete

def start : PolicyCall := .start true .saved putOff.minimumVersion release.channel

def started : PolicyRun := (PolicyRun.call ⟨.missing, none, []⟩ start).elim ⟨.missing, none, []⟩ (·.1)

def judged : PolicyRun := (started.call (.observeRelease .saved release)).elim started (·.1)

def restarted : PolicyRun := (judged.call start).elim judged (·.1)

/-- After a restart it is judged again, with other notes. -/
theorem restarted_fixed :
    StoredReleaseIdentity.fromRelease { release with notes := some [] } = .fromRelease release := by
  have hstarted : policySystem.Reachable started := ⟨_, [start], rfl, .single ⟨.ok none, rfl⟩⟩
  have hfirst : started.call (.observeRelease .saved release) =
      some (judged, .ok (some ⟨release, .prompt⟩)) := rfl
  have hrun : (policySystem.restrict Steady).Run judged [start] restarted :=
    .single ⟨⟨.ok none, rfl⟩, _, _, rfl, rfl⟩
  have hsecond : ∃ t, restarted.call (.observeRelease .saved { release with notes := some [] }) =
      some (t, .ok (some ⟨{ release with notes := some [] }, .prompt⟩)) := ⟨_, rfl⟩
  obtain ⟨t, hsecond⟩ := hsecond
  exact versions_fixed hstarted hfirst hrun hsecond rfl

end AutomationTool.Desktop.AppUpdates.Concrete
