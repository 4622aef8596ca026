import AutomationTool.Executor.Ledger.Gate

/-!
# Side effects and publish dispatches

The two instances of `Dispatch.Book`. A side effect belongs to an admitted
comment or direct message and its dispatch is gated by the latch, the
transport, and the stored controls of its attempt (`dispatchBlocked`). A
publish dispatch has no attempt: it is gated by the latch and an interval.

Each write is one lemma here (`prepareSideEffect_some`, `begin…`, `settle…`):
either the stored record is replayed and nothing changes, or the book changes
by one `prepare?`, `grant` or `settle`.
-/
namespace AutomationTool.Executor

open Protocol Dispatch

namespace Ledger

/-- The columns `_SIDE_EFFECT_SELECT` reads: the record and its admission.
mirrors side_effect_ledger.py:21-119 -/
structure LocalSideEffect where
  admission : LocalActionAdmission
  record : EffectRecord
  deriving DecidableEq

/-- `_side_effect`: a record whose admission is missing or is a browse is refused.
mirrors ledger.py:3285-3304 -/
def sideEffectRow (s : Ledger) (a : ActionId) (r : EffectRecord) : Option LocalSideEffect :=
  (s.admission a).bind fun ad => require (ad.action ≠ .browse) (some ⟨ad, r⟩)

/-- mirrors ledger.py:599-609 -/
def getSideEffect (s : Ledger) (a : ActionId) : Option (Option LocalSideEffect) :=
  match s.effect a with
  | none => some none
  | some r => (s.sideEffectRow a r).map some

theorem sideEffectRow_some {s : Ledger} {a : ActionId} {r : EffectRecord} {e : LocalSideEffect}
    (h : s.sideEffectRow a r = some e) :
    s.admission a = some e.admission ∧ e.admission.action ≠ .browse ∧ e.record = r := by
  obtain ⟨ad, had, h⟩ := Option.bind_eq_some_iff.1 h
  obtain ⟨hb, h⟩ := require_eq_some.1 h
  cases h
  exact ⟨had, hb, rfl⟩

/-! ## Side effects -/

/-- mirrors ledger.py:694-775 -/
def prepareSideEffect (s : Ledger) (a : ActionId) (effectFingerprint : Digest)
    (preparedAt : Time) : Option (Reply LocalSideEffect × Ledger) :=
  match s.effect a with
  | some r => do
    let e ← s.sideEffectRow a r
    require (r.intent = effectFingerprint) <| some (⟨e, true⟩, s)
  | none => do
    let ad ← s.admission a
    require ((ad.action = .comment ∨ ad.action = .directMessage) ∧
        ad.admittedAt ≤ preparedAt ∧ preparedAt < ad.deadlineAt ∧ s.guard.engaged = false) <| do
      let b ← Book.prepare? s.sideEffects a effectFingerprint preparedAt
      some (⟨⟨ad, .prepare effectFingerprint preparedAt⟩, false⟩, { s with sideEffects := b })

def isStop : CommandType → Bool
  | .taskPause | .taskCancel | .taskEmergencyStop => true
  | _ => false

/-- `dispatch_blocked`: some command of the attempt joins its checkpoint and
either the checkpoint is finished or the command is its latest and a stop.
mirrors ledger.py:807-826 -/
def dispatchBlocked (s : Ledger) (e : ExecutionAttemptId) : Bool :=
  match s.checkpoint e with
  | none => false
  | some p => s.commands.rows.any fun c => c.executionAttemptId = e &&
      (p.state = .terminal || p.state = .outcomeUncertain ||
        (c.sequence = p.lastCommandSequence && isStop c.messageType &&
          (p.state = .running || p.state = .paused)))

/-- mirrors ledger.py:777-867 -/
def beginSideEffectDispatch (s : Ledger) (a : ActionId) (effectFingerprint : Digest)
    (dispatchedAt : Time) : Option (Reply LocalSideEffect × Ledger) := do
  let r ← s.effect a
  let e ← s.sideEffectRow a r
  require (r.intent = effectFingerprint) <|
    if r.state ≠ .prepared then some (⟨e, true⟩, s)
    else require (r.preparedAt ≤ dispatchedAt ∧ dispatchedAt < e.admission.deadlineAt ∧
        s.dispatchBlocked e.admission.executionAttemptId = false ∧ s.guard.engaged = false ∧
        s.guard.networkConnected = true) <|
      some (⟨⟨e.admission, r.grant dispatchedAt⟩, false⟩,
        { s with sideEffects := Book.sweep s.sideEffects (· = a) (Record.grant dispatchedAt) })

/-- `_settle_side_effect`; a verification fingerprint is given exactly when the
target is `verified`. mirrors ledger.py:902-974 -/
def settleSideEffect (s : Ledger) (a : ActionId) (effectFingerprint : Digest)
    (verificationFingerprint : Option Digest) (settledAt : Time) :
    Option (Reply LocalSideEffect × Ledger) := do
  let r ← s.effect a
  let e ← s.sideEffectRow a r
  require (r.intent = effectFingerprint) <|
    if r.state = .outcome verificationFingerprint then
      require (r.verification = verificationFingerprint) <| some (⟨e, true⟩, s)
    else require (r.state = .dispatched ∧ ∀ d, r.dispatchedAt = some d → d ≤ settledAt) <|
      some (⟨⟨e.admission, r.settle verificationFingerprint settledAt⟩, false⟩,
        { s with sideEffects :=
            Book.sweep s.sideEffects (· = a) (Record.settle verificationFingerprint settledAt) })

/-- mirrors ledger.py:869-884 -/
def verifySideEffect (s : Ledger) (a : ActionId) (effectFingerprint : Digest)
    (verificationFingerprint : Digest) (verifiedAt : Time) :
    Option (Reply LocalSideEffect × Ledger) :=
  s.settleSideEffect a effectFingerprint (some verificationFingerprint) verifiedAt

/-- mirrors ledger.py:886-900 -/
def markSideEffectUncertain (s : Ledger) (a : ActionId) (effectFingerprint : Digest)
    (uncertainAt : Time) : Option (Reply LocalSideEffect × Ledger) :=
  s.settleSideEffect a effectFingerprint none uncertainAt

theorem prepareSideEffect_some {s s' : Ledger} {a : ActionId} {f : Digest} {t : Time}
    {r : Reply LocalSideEffect} (h : s.prepareSideEffect a f t = some (r, s')) :
    (r.replayed = true ∧ s' = s ∧ s.effect a = some r.value.record) ∨
      (r.replayed = false ∧ s.effect a = none ∧ s.guard.engaged = false ∧
        s.admission a = some r.value.admission ∧ r.value.admission.action ≠ .browse ∧
        r.value.record = .prepare f t ∧
        ∃ b, Book.prepare? s.sideEffects a f t = some b ∧ s' = { s with sideEffects := b }) := by
  unfold prepareSideEffect at h
  split at h
  · rename_i x hx
    obtain ⟨e, he, h⟩ := Option.bind_eq_some_iff.1 h
    obtain ⟨-, h⟩ := require_eq_some.1 h
    cases h
    exact .inl ⟨rfl, rfl, by rw [(sideEffectRow_some he).2.2, hx]⟩
  · rename_i hx
    obtain ⟨ad, had, h⟩ := Option.bind_eq_some_iff.1 h
    obtain ⟨⟨hact, -, -, hg⟩, h⟩ := require_eq_some.1 h
    obtain ⟨b, hb, h⟩ := Option.bind_eq_some_iff.1 h
    cases h
    refine .inr ⟨rfl, hx, hg, had, fun hbr => ?_, rfl, b, hb, rfl⟩
    change ad.action = .browse at hbr
    rw [hbr] at hact
    rcases hact with h | h <;> cases h

/-- A new grant: every check it passed, and the one record it moves. -/
theorem beginSideEffectDispatch_some {s s' : Ledger} {a : ActionId} {f : Digest} {t : Time}
    {r : Reply LocalSideEffect} (h : s.beginSideEffectDispatch a f t = some (r, s')) :
    ∃ x, s.effect a = some x ∧ s.admission a = some r.value.admission ∧
      r.value.admission.action ≠ .browse ∧ x.intent = f ∧
      ((r.replayed = true ∧ s' = s ∧ x.state ≠ .prepared ∧ r.value.record = x) ∨
        (r.replayed = false ∧ x.state = .prepared ∧ x.preparedAt ≤ t ∧
          t < r.value.admission.deadlineAt ∧
          s.dispatchBlocked r.value.admission.executionAttemptId = false ∧
          s.guard.engaged = false ∧ s.guard.networkConnected = true ∧
          r.value.record = x.grant t ∧
          s' = { s with sideEffects := Book.sweep s.sideEffects (· = a) (Record.grant t) })) := by
  obtain ⟨x, hx, h⟩ := Option.bind_eq_some_iff.1 h
  obtain ⟨e, he, h⟩ := Option.bind_eq_some_iff.1 h
  obtain ⟨hf, h⟩ := require_eq_some.1 h
  obtain ⟨had, hact, hrec⟩ := sideEffectRow_some he
  refine ⟨x, hx, ?_⟩
  split at h
  · rename_i hs
    cases h
    exact ⟨had, hact, hf, .inl ⟨rfl, rfl, hs, hrec⟩⟩
  · rename_i hs
    obtain ⟨⟨hp, hd, hb, hg, hn⟩, h⟩ := require_eq_some.1 h
    cases h
    exact ⟨had, hact, hf, .inr ⟨rfl, by simpa using hs, hp, hd, hb, hg, hn, rfl, rfl⟩⟩

theorem settleSideEffect_some {s s' : Ledger} {a : ActionId} {f : Digest} {v : Option Digest}
    {t : Time} {r : Reply LocalSideEffect} (h : s.settleSideEffect a f v t = some (r, s')) :
    ∃ x, s.effect a = some x ∧ s.admission a = some r.value.admission ∧
      r.value.admission.action ≠ .browse ∧ x.intent = f ∧
      ((r.replayed = true ∧ s' = s ∧ r.value.record = x ∧
          x.state = .outcome v) ∨
        (r.replayed = false ∧ x.state = .dispatched ∧ (∀ d, x.dispatchedAt = some d → d ≤ t) ∧
          r.value.record = x.settle v t ∧
          s' = { s with sideEffects := Book.sweep s.sideEffects (· = a) (Record.settle v t) })) := by
  obtain ⟨x, hx, h⟩ := Option.bind_eq_some_iff.1 h
  obtain ⟨e, he, h⟩ := Option.bind_eq_some_iff.1 h
  obtain ⟨hf, h⟩ := require_eq_some.1 h
  obtain ⟨had, hact, hrec⟩ := sideEffectRow_some he
  refine ⟨x, hx, ?_⟩
  split at h
  · rename_i hs
    obtain ⟨-, h⟩ := require_eq_some.1 h
    cases h
    exact ⟨had, hact, hf, .inl ⟨rfl, rfl, hrec, hs⟩⟩
  · obtain ⟨⟨hs, hd⟩, h⟩ := require_eq_some.1 h
    cases h
    exact ⟨had, hact, hf, .inr ⟨rfl, hs, hd, rfl, rfl⟩⟩

/-! ## Publish dispatches -/

/-- mirrors ledger.py:988-1040 -/
def preparePublishDispatch (s : Ledger) (j : PublishJobId) (contentHash : Digest)
    (preparedAt : Time) : Option (Reply EffectRecord × Ledger) :=
  match Book.lookup s.publishDispatches j with
  -- a job identifier is never reusable for different content
  | some r => require (r.intent = contentHash) <| some (⟨r, true⟩, s)
  | none => require (s.guard.engaged = false) <| do
    let b ← Book.prepare? s.publishDispatches j contentHash preparedAt
    some (⟨.prepare contentHash preparedAt, false⟩, { s with publishDispatches := b })

/-- `SELECT dispatched_at … WHERE publish_job_id != ? ORDER BY dispatched_at DESC`. -/
def latestPublishDispatchedAt (s : Ledger) (j : PublishJobId) : Option Time :=
  ((s.publishDispatches.rows.filter fun e => e.key ≠ j).filterMap fun e =>
    e.record.dispatchedAt).max?

/-- mirrors ledger.py:1042-1113 -/
def beginPublishDispatch (s : Ledger) (j : PublishJobId) (contentHash : Digest)
    (dispatchedAt : Time) (minimumIntervalSeconds : Nat) : Option (Reply EffectRecord × Ledger) := do
  let r ← Book.lookup s.publishDispatches j
  require (r.intent = contentHash) <|
    -- already spent: report the recorded outcome, never regrant
    if r.state ≠ .prepared then some (⟨r, true⟩, s)
    else require (s.guard.engaged = false ∧ r.preparedAt ≤ dispatchedAt ∧
        ∀ l, s.latestPublishDispatchedAt j = some l →
          l + seconds minimumIntervalSeconds ≤ dispatchedAt) <|
      some (⟨r.grant dispatchedAt, false⟩, { s with
        publishDispatches := Book.sweep s.publishDispatches (· = j) (Record.grant dispatchedAt) })

/-- `_settle_publish_dispatch`.
mirrors ledger.py:1148-1219 -/
def settlePublishDispatch (s : Ledger) (j : PublishJobId) (contentHash : Digest)
    (verificationFingerprint : Option Digest) (settledAt : Time) :
    Option (Reply EffectRecord × Ledger) := do
  let r ← Book.lookup s.publishDispatches j
  require (r.intent = contentHash) <|
    if r.state = .outcome verificationFingerprint then
      require (r.verification = verificationFingerprint) <| some (⟨r, true⟩, s)
    else require (r.state = .dispatched ∧ ∀ d, r.dispatchedAt = some d → d ≤ settledAt) <|
      some (⟨r.settle verificationFingerprint settledAt, false⟩, { s with
        publishDispatches := Book.sweep s.publishDispatches (· = j)
          (Record.settle verificationFingerprint settledAt) })

theorem preparePublishDispatch_some {s s' : Ledger} {j : PublishJobId} {h₀ : Digest} {t : Time}
    {r : Reply EffectRecord} (h : s.preparePublishDispatch j h₀ t = some (r, s')) :
    (r.replayed = true ∧ s' = s) ∨ (r.replayed = false ∧ r.value.state = .prepared ∧
      ∃ b, Book.prepare? s.publishDispatches j h₀ t = some b ∧
        s' = { s with publishDispatches := b }) := by
  unfold preparePublishDispatch at h
  split at h
  · obtain ⟨-, h⟩ := require_eq_some.1 h
    cases h
    exact .inl ⟨rfl, rfl⟩
  · obtain ⟨-, h⟩ := require_eq_some.1 h
    obtain ⟨b, hb, h⟩ := Option.bind_eq_some_iff.1 h
    cases h
    exact .inr ⟨rfl, rfl, b, hb, rfl⟩

theorem beginPublishDispatch_some {s s' : Ledger} {j : PublishJobId} {h₀ : Digest} {t : Time}
    {i : Nat} {r : Reply EffectRecord} (h : s.beginPublishDispatch j h₀ t i = some (r, s')) :
    ∃ x, Book.lookup s.publishDispatches j = some x ∧
      ((r.replayed = true ∧ s' = s) ∨
        (r.replayed = false ∧ x.state = .prepared ∧ x.preparedAt ≤ t ∧ r.value = x.grant t ∧
          s' = { s with
            publishDispatches := Book.sweep s.publishDispatches (· = j) (Record.grant t) })) := by
  obtain ⟨x, hx, h⟩ := Option.bind_eq_some_iff.1 h
  obtain ⟨-, h⟩ := require_eq_some.1 h
  refine ⟨x, hx, ?_⟩
  split at h
  · cases h
    exact .inl ⟨rfl, rfl⟩
  · rename_i hs
    obtain ⟨⟨-, hp, -⟩, h⟩ := require_eq_some.1 h
    cases h
    exact .inr ⟨rfl, by simpa using hs, hp, rfl, rfl⟩

theorem settlePublishDispatch_some {s s' : Ledger} {j : PublishJobId} {h₀ : Digest}
    {v : Option Digest} {t : Time} {r : Reply EffectRecord}
    (h : s.settlePublishDispatch j h₀ v t = some (r, s')) :
    (r.replayed = true ∧ s' = s) ∨ (r.replayed = false ∧ s' = { s with
      publishDispatches := Book.sweep s.publishDispatches (· = j) (Record.settle v t) }) := by
  obtain ⟨x, hx, h⟩ := Option.bind_eq_some_iff.1 h
  obtain ⟨-, h⟩ := require_eq_some.1 h
  split at h
  · obtain ⟨-, h⟩ := require_eq_some.1 h
    cases h
    exact .inl ⟨rfl, rfl⟩
  · obtain ⟨-, h⟩ := require_eq_some.1 h
    cases h
    exact .inr ⟨rfl, rfl⟩

end Ledger
end AutomationTool.Executor
