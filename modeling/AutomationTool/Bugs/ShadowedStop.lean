import AutomationTool.Executor.System

/-!
# A later command hides a pause, a cancel or an emergency stop

Behaviour: `begin_side_effect_dispatch` (executor/
ledger.py:807-826) and `pending_task_controls` (ledger.py:1764-1816) look
at a control only while it is the command with its attempt's highest sequence. The
ledger goes on storing offers, discoveries and actions for a running attempt
(ledger.py:1413-1425), and the next one stored takes that place: dispatch
opens again and the control is never projected.

Evidence: README H8-01, a pause "blocks every new prepared→dispatched as soon as it
is in the ledger" and dispatch reopens only once the resume is projected; README
H8-02, a cancel is persisted, acknowledged and "immediately blocks new dispatch".

Counterexample: an attempt is running and has a prepared comment; a pause is stored
and acknowledged, then another `action.execute` is stored. The comment is
dispatched, and no listing shows the pause.

* `granted_iff`: a new grant is what the README allows exactly when no outstanding
  stop of the attempt is followed by a command that is not a stop.
* `stop_listed_iff`: an accepted stop is listed exactly while it is the latest
  command of its attempt, provided every listed row can be built.
-/
namespace AutomationTool.Bugs.ShadowedStop

open Executor Protocol Ledger

/-! ## Dispatch -/

/-- A later resume of the attempt took effect. -/
def Lifted (s : Ledger) (c : Command) : Prop :=
  c.messageType = .taskPause ∧ ∃ r ∈ s.journal.commandsOf c.executionAttemptId,
    r.messageType = .taskResume ∧ c.sequence < r.sequence ∧
      ∃ f ∈ s.sent, f.sourceMessageId = r.messageId ∧ f.message.eventType = some .taskResumed

/-- A stop that is stored for the attempt and not lifted. -/
structure Outstanding (s : Ledger) (e : ExecutionAttemptId) (c : Command) : Prop where
  stored : c ∈ s.journal.commandsOf e
  stop : isStop c.messageType = true
  unlifted : ¬Lifted s c

/-- When an effect of the attempt may be dispatched. -/
structure MayDispatch (s : Ledger) (e : ExecutionAttemptId) : Prop where
  released : s.guard.engaged = false
  connected : s.guard.networkConnected = true
  state : ∀ p, s.checkpoint e = some p →
    p.state ≠ .paused ∧ p.state ≠ .terminal ∧ p.state ≠ .outcomeUncertain
  stops : ∀ c, ¬Outstanding s e c

/-- An outstanding stop is followed by a command that is not a stop. -/
def Shadowed (s : Ledger) (e : ExecutionAttemptId) : Prop :=
  ∃ c d, Outstanding s e c ∧ d ∈ s.journal.commandsOf e ∧ c.sequence < d.sequence ∧
    isStop d.messageType = false

theorem dispatchBlocked_eq_false {s : Ledger} {e : ExecutionAttemptId} {p : AttemptCheckpoint}
    (hb : s.dispatchBlocked e = false) (hp : s.checkpoint e = some p) {c : Command}
    (hc : c ∈ s.journal.commandsOf e) : p.state ≠ .terminal ∧ p.state ≠ .outcomeUncertain ∧
      (c.sequence = p.lastCommandSequence → isStop c.messageType = true →
        p.state ≠ .running ∧ p.state ≠ .paused) := by
  obtain ⟨hc, hce⟩ := Journal.mem_commandsOf.1 hc
  unfold dispatchBlocked at hb
  rw [hp] at hb
  have hno := List.any_eq_false.1 hb c hc
  simp only [hce, decide_true, Bool.true_and, Bool.or_eq_true, Bool.and_eq_true,
    decide_eq_true_eq, not_or] at hno
  refine ⟨hno.1.1, hno.1.2, fun hseq hstop => ?_⟩
  constructor
  · intro h
    exact hno.2 ⟨⟨hseq, hstop⟩, .inl h⟩
  · intro h
    exact hno.2 ⟨⟨hseq, hstop⟩, .inr h⟩

section Grants

variable {I : Site} {s : Ledger} {e : ExecutionAttemptId} {p : AttemptCheckpoint}

/-- Where dispatch is not blocked, an outstanding stop is hidden by the latest command. -/
theorem Outstanding.shadowed (hs : s.journal.Inv) (hb : s.dispatchBlocked e = false)
    (hp : s.checkpoint e = some p) {c : Command} (hc : Outstanding s e c) : Shadowed s e := by
  have hg := hs.good hp
  obtain ⟨l, hl, hlast⟩ := hg.exists_latest
  obtain ⟨hterminal, huncertain, hlatest⟩ := dispatchBlocked_eq_false hb hp hc.stored
  have hstate : p.state = .running ∨ p.state = .paused := by
    cases hst : p.state with
    | received =>
      cases hg.phase with
      | received _ _ hopen =>
        have h1 := hopen c hc.stored
        have h2 := hc.stop
        cases hty : c.messageType <;> rw [hty] at h1 h2 <;> simp [opensAttempt, isStop] at h1 h2
      | discovered h => rw [hst] at h; cases h
      | started _ _ _ _ h => exact absurd hst h
    | running => exact .inl rfl
    | paused => exact .inr rfl
    | terminal => exact absurd hst hterminal
    | outcomeUncertain => exact absurd hst huncertain
  have hlive : ∀ d ∈ s.journal.commandsOf e, d.sequence = p.lastCommandSequence →
      isStop d.messageType = false := by
    intro d hd hseq
    cases hstop : isStop d.messageType with
    | false => rfl
    | true =>
      obtain ⟨hr, hp'⟩ := (dispatchBlocked_eq_false hb hp hd).2.2 hseq hstop
      rcases hstate with h | h
      · exact absurd h hr
      · exact absurd h hp'
  refine ⟨c, l, hc, hl, ?_, hlive l hl hlast⟩
  have hle := hg.sequence_le hc.stored
  have hne : c.sequence ≠ p.lastCommandSequence := by
    intro hseq
    have := hlive c hc.stored hseq
    rw [hc.stop] at this
    cases this
  omega

/-- The pause that paused an attempt is outstanding. -/
theorem outstanding_of_paused (hs : s.journal.Inv) (hp : s.checkpoint e = some p)
    (hst : p.state = .paused) : ∃ c, Outstanding s e c := by
  obtain ⟨o, ho⟩ := (hs.good hp).paused hst
  obtain ⟨hmem, rfl⟩ := Journal.mem_commandsOf.1 ho.stored
  refine ⟨o, ho.stored, by rw [ho.pause]; rfl, ?_⟩
  rintro ⟨-, r, hr, hty, hlt, hsent⟩
  obtain ⟨hrmem, hre⟩ := Journal.mem_commandsOf.1 hr
  have hsent' := (hs.sent_iff hrmem).2 hsent
  rw [hre] at hsent'
  exact (ho.after r hr hlt).2.2 hty hsent'

/-- **When a grant is allowed.** In every ledger the executor's operations reach, a
dispatch that is newly granted is one the attempt may make exactly when no
outstanding stop of it is hidden. -/
theorem granted_iff (hs : (issuedCalls I).Reachable s) {a : ActionId} {f : Digest} {t : Time}
    {r : Reply LocalSideEffect}
    (hb : (exec I (.beginSideEffectDispatch a f t) s).1 = some r) (hr : r.replayed = false) :
    MayDispatch s r.value.admission.executionAttemptId ↔
      ¬Shadowed s r.value.admission.executionAttemptId := by
  have hinv := inv_reachable hs
  dsimp only [exec] at hb
  cases h : s.beginSideEffectDispatch a f t with
  | none => rw [h] at hb; cases hb
  | some q =>
    obtain ⟨r', s'⟩ := q
    rw [h] at hb
    cases hb
    obtain ⟨x, -, -, -, -, ⟨hr', -⟩ | ⟨-, -, -, -, hblock, hg, hn, -⟩⟩ :=
      beginSideEffectDispatch_some h
    · rw [hr] at hr'
      cases hr'
    constructor
    · rintro hmay ⟨c, -, hc, -⟩
      exact hmay.stops c hc
    · intro hno
      refine ⟨hg, hn, fun p hp => ?_, fun c hc => ?_⟩
      · obtain ⟨l, hl, -⟩ := (hinv.good hp).exists_latest
        obtain ⟨hterminal, huncertain, -⟩ := dispatchBlocked_eq_false hblock hp hl
        refine ⟨fun hst => ?_, hterminal, huncertain⟩
        obtain ⟨c, hc⟩ := outstanding_of_paused hinv hp hst
        exact hno (hc.shadowed hinv hblock hp)
      · cases hp : s.checkpoint r.value.admission.executionAttemptId with
        | none =>
          have hmem := hc.stored
          rw [(hinv.nothing hp).1] at hmem
          cases hmem
        | some p => exact hno (hc.shadowed hinv hblock hp)

end Grants

/-! ## Listing -/

/-- A stop that was accepted and can take effect now. -/
structure Accepted (s : Ledger) (c : Command) : Prop where
  stored : c ∈ s.commands
  stop : isStop c.messageType = true
  acknowledged : s.acknowledged c.messageId = true
  unprojected : s.projected c = false
  live : ∀ p, s.checkpoint c.executionAttemptId = some p → p.state = .running ∨ p.state = .paused
  unsuperseded : ∀ d ∈ s.journal.commandsOf c.executionAttemptId, c.sequence < d.sequence →
    d.messageType ≠ .taskCancel ∧ d.messageType ≠ .taskEmergencyStop
  settled : s.hasEffect c.executionAttemptId .dispatched = false

/-- `pending_task_controls` lists the control. -/
def Listed (s : Ledger) (limit : Nat) (c : Command) : Prop :=
  ∃ qs, s.pendingTaskControls limit = some qs ∧ ∃ q ∈ qs, q.command = c

/-- No command of the attempt was stored after it. -/
def Latest (s : Ledger) (c : Command) : Prop :=
  ∀ d ∈ s.journal.commandsOf c.executionAttemptId, d.sequence ≤ c.sequence

/-- The control waits to be projected, from checkpoint `p`. -/
structure Waiting (s : Ledger) (c : Command) (p : AttemptCheckpoint) : Prop where
  stored : c ∈ s.commands
  checkpoint : s.checkpoint c.executionAttemptId = some p
  latest : c.sequence = p.lastCommandSequence
  state : p.state ∈ controlStates c.messageType
  acknowledged : s.acknowledged c.messageId = true
  unprojected : s.projected c = false
  settled : waitsForEffects c.messageType = true → s.hasEffect c.executionAttemptId .dispatched = false

section Listings

variable {I : Site} {s : Ledger} {c : Command} {p : AttemptCheckpoint} {limit : Nat}

def pendingOf (s : Ledger) (c : Command) (p : AttemptCheckpoint) : PendingTaskControl :=
  ⟨c, p.revision, p.lastEventSequence + 1, s.outcomeUncertain c⟩

theorem mem_selectedControls_iff {q : PendingTaskControl} :
    q ∈ s.selectedControls ↔ ∃ p, Waiting s q.command p ∧ q = pendingOf s q.command p := by
  rw [mem_selectedControls, selectedControl_some]
  constructor
  · rintro ⟨hc, p, hp, hseq, hst, hack, hpro, hset, hq⟩
    exact ⟨p, ⟨hc, hp, hseq, hst, hack, hpro, hset⟩, hq⟩
  · rintro ⟨p, hw, hq⟩
    exact ⟨hw.stored, p, hw.checkpoint, hw.latest, hw.state, hw.acknowledged, hw.unprojected,
      hw.settled, hq⟩

/-- A waiting control can be built as long as its next event has a number. -/
theorem valid_iff (hs : s.journal.Inv) (hw : Waiting s c p) :
    (pendingOf s c p).valid = true ↔ p.lastEventSequence < maxExecutorSequence := by
  have hrev : 1 ≤ p.revision := (hs.good hw.checkpoint).revision
  have hst := hw.state
  unfold pendingOf PendingTaskControl.valid outcomeUncertain
  cases hty : c.messageType <;> rw [hty] at hst <;>
    simp [controlStates] at hst ⊢ <;> omega

/-- An accepted stop that is the latest command of its attempt waits. -/
theorem Accepted.waiting (hs : s.journal.Inv) (hc : Accepted s c) (hl : Latest s c)
    (hp : s.checkpoint c.executionAttemptId = some p) : Waiting s c p where
  stored := hc.stored
  checkpoint := hp
  latest := by
    obtain ⟨l, hmem, hlast⟩ := (hs.good hp).exists_latest
    have h1 := hl l hmem
    have h2 := (hs.good hp).sequence_le (Journal.mem_commandsOf.2 ⟨hc.stored, rfl⟩)
    omega
  state := by
    have hlive := hc.live p hp
    have hstop := hc.stop
    cases hty : c.messageType <;> rw [hty] at hstop <;> simp [isStop] at hstop
    · -- a pause waits in a running attempt: what paused it would be this very pause
      rcases hlive with h | h
      · simp [controlStates, h]
      · obtain ⟨o, ho⟩ := (hs.good hp).paused h
        obtain ⟨homem, hoe⟩ := Journal.mem_commandsOf.1 ho.stored
        have hcmem : c ∈ s.journal.commandsOf c.executionAttemptId :=
          Journal.mem_commandsOf.2 ⟨hc.stored, rfl⟩
        rcases Nat.lt_or_ge o.sequence c.sequence with hlt | hge
        · exact absurd hty (ho.after c hcmem hlt).1
        · have hle := hl o ho.stored
          have hco : c = o := Table.eq_of_not_apart hc.stored homem fun hab =>
            hab.2.2 ⟨hoe.symm, Nat.le_antisymm hge hle⟩
          subst hco
          obtain ⟨f, hf, hsrc, ht⟩ := (hs.sent_iff hc.stored).1 ho.sent
          have hproj := hc.unprojected
          unfold projected hasEvent at hproj
          have := List.any_eq_false.1 hproj f hf
          simp [hsrc, ht, hty, controlEvents] at this
    · rcases hlive with h | h <;> simp [controlStates, h]
    · rcases hlive with h | h <;> simp [controlStates, h]
  acknowledged := hc.acknowledged
  unprojected := hc.unprojected
  settled _ := hc.settled

/-- **When an accepted stop is listed.** In every ledger the executor's operations
reach, and with a limit that takes every waiting control, it is listed exactly when it
is the latest command of its attempt and every waiting control's next event still has a
number. -/
theorem stop_listed_iff (hs : (issuedCalls I).Reachable s) (hc : Accepted s c)
    (hlimit : 1 ≤ limit ∧ limit ≤ maxOutboxBatch) (hroom : s.selectedControls.length ≤ limit) :
    Listed s limit c ↔ Latest s c ∧
      ∀ d p, Waiting s d p → p.lastEventSequence < maxExecutorSequence := by
  have hinv := inv_reachable hs
  have htake : s.selectedControls.take limit = s.selectedControls := List.take_of_length_le hroom
  unfold Listed pendingTaskControls
  rw [htake]
  constructor
  · rintro ⟨qs, hqs, q, hq, rfl⟩
    obtain ⟨⟨-, -, hvalid⟩, hqs⟩ := require_eq_some.1 hqs
    cases hqs
    obtain ⟨p, hw, -⟩ := mem_selectedControls_iff.1 hq
    refine ⟨fun d hd => ?_, fun d p' hd => ?_⟩
    · rw [hw.latest]
      exact (hinv.good hw.checkpoint).sequence_le hd
    · have hmem : pendingOf s d p' ∈ s.selectedControls := mem_selectedControls_iff.2 ⟨p', hd, rfl⟩
      exact (valid_iff hinv hd).1 (hvalid _ hmem)
  · rintro ⟨hlatest, hnumbers⟩
    obtain ⟨p, hp⟩ := hinv.linked c hc.stored
    refine ⟨s.selectedControls, require_eq_some.2 ⟨⟨hlimit.1, hlimit.2, fun q hq => ?_⟩, rfl⟩,
      pendingOf s c p, mem_selectedControls_iff.2 ⟨p, hc.waiting hinv hlatest hp, rfl⟩, rfl⟩
    obtain ⟨p', hw, hq⟩ := mem_selectedControls_iff.1 hq
    rw [hq]
    exact (valid_iff hinv hw).2 (hnumbers _ _ hw)

end Listings

/-! ## A hidden pause -/

section HiddenPause

open Sample

/-- The acknowledgement of the pause. -/
def acknowledgement : Outbound :=
  (ExecutorCommandProcessor.controlAck site pause 13 (some ⟨seconds 3, 300⟩)).get (by rfl)

/-- Running, with a prepared comment. -/
def prepared : Ledger := after (exec site) started (prepareOps (seconds 2))

/-- Then paused, and the pause acknowledged. -/
def pausing : Ledger :=
  after (exec site) prepared [.receiveCommand pause, .enqueueOutbox 13 acknowledgement]

/-- Then another action is stored. -/
def another : Command :=
  command 14 1 4 (.action (comment 8).actionId) (.actionExecute (comment 8))

def hidden : Ledger := after (exec site) pausing [.receiveCommand another]

theorem prepared_reachable : (issuedCalls site).Reachable prepared :=
  reachable_harmless (executor_issued started_reachable)
    ⟨fun _ => trivial, fun _ => trivial, fun _ => trivial⟩

theorem pausing_reachable : (issuedCalls site).Reachable pausing :=
  reachable_harmless prepared_reachable ⟨fun _ => trivial, fun _ => rfl⟩

theorem hidden_reachable : (issuedCalls site).Reachable hidden :=
  have hstore : [Op.receiveCommand another].Forall ExecutorCrashRecoveryCoordinator.Harmless :=
    fun _ => trivial
  reachable_harmless pausing_reachable hstore

/-- A dispatch of the prepared comment. -/
def dispatch : Op := .beginSideEffectDispatch 7 fingerprint (seconds 4)

/-- Before the pause, the grant is an allowed one. -/
theorem prepared_grant : ∃ r, (exec site dispatch prepared).1 = some r ∧
    MayDispatch prepared r.value.admission.executionAttemptId := by
  have hsome : (exec site dispatch prepared).1.isSome = true := by decide
  obtain ⟨r, hr⟩ := Option.isSome_iff_exists.1 hsome
  have hreply : (exec site dispatch prepared).1.map (fun r =>
      (r.replayed, r.value.admission.executionAttemptId)) = some (false, 1) := by decide
  rw [hr] at hreply
  obtain ⟨hnew, he⟩ := Prod.mk.inj (Option.some.inj hreply)
  refine ⟨r, hr, (granted_iff prepared_reachable hr hnew).2 ?_⟩
  rw [he]
  rintro ⟨c, -, hc, -⟩
  have hno : ∀ c ∈ prepared.journal.commandsOf 1, isStop c.messageType = false := by decide
  have hstop := hc.stop
  rw [hno c hc.stored] at hstop
  cases hstop

/-- **Counterexample** for dispatch: the pause is stored and acknowledged, and the
prepared comment is dispatched. -/
theorem hidden_pause_dispatches : ¬∀ (I : Site) (s : Ledger) (a : ActionId) (f : Digest) (t : Time)
    (r : Reply LocalSideEffect), (issuedCalls I).Reachable s →
      (exec I (.beginSideEffectDispatch a f t) s).1 = some r → r.replayed = false →
        MayDispatch s r.value.admission.executionAttemptId := by
  intro h
  have hsome : (exec site dispatch hidden).1.isSome = true := by decide
  obtain ⟨r, hr⟩ := Option.isSome_iff_exists.1 hsome
  have hreply : (exec site dispatch hidden).1.map (fun r =>
      (r.replayed, r.value.admission.executionAttemptId)) = some (false, 1) := by decide
  rw [hr] at hreply
  obtain ⟨hnew, he⟩ := Prod.mk.inj (Option.some.inj hreply)
  have hmay := h _ _ _ _ _ r hidden_reachable hr hnew
  rw [he] at hmay
  refine hmay.stops pause ⟨by decide, rfl, ?_⟩
  rintro ⟨-, c, hc, hty, -⟩
  have hno : ∀ c ∈ hidden.journal.commandsOf 1, c.messageType ≠ .taskResume := by decide
  exact hno c hc hty

theorem accepted_pause {s : Ledger} (hstored : pause ∈ s.commands.rows)
    (hack : s.acknowledged 13 = true) (hpro : s.projected pause = false)
    (hst : (s.checkpoint 1).map (·.state) = some .running)
    (hcmds : ∀ d ∈ s.journal.commandsOf 1, d.messageType ≠ .taskCancel ∧
      d.messageType ≠ .taskEmergencyStop) (hset : s.hasEffect 1 .dispatched = false) :
    Accepted s pause where
  stored := hstored
  stop := rfl
  acknowledged := hack
  unprojected := hpro
  live p hp := by
    have hp' : s.checkpoint 1 = some p := hp
    rw [hp'] at hst
    exact .inl (Option.some.inj hst)
  unsuperseded d hd _ := hcmds d hd
  settled := hset

/-- Before the other action, the pause is listed. -/
theorem pausing_listed : Listed pausing 100 pause := by
  have hacc : Accepted pausing pause :=
    accepted_pause (by decide) (by decide) (by decide) (by decide) (by decide) (by decide)
  have hlatest : ∀ d ∈ pausing.journal.commandsOf 1, d.sequence ≤ 3 := by decide
  refine (stop_listed_iff pausing_reachable hacc (by decide) (by decide)).2 ⟨hlatest, ?_⟩
  intro d p hw
  have hsmall : ∀ p ∈ pausing.checkpoints.rows, p.lastEventSequence < maxExecutorSequence := by
    decide
  exact hsmall p (checkpoint_eq_some.1 hw.checkpoint).1

/-- **Counterexample** for the listing: the pause is accepted and not listed. -/
theorem hidden_pause_unlisted : ¬∀ (I : Site) (s : Ledger) (c : Command) (limit : Nat),
    (issuedCalls I).Reachable s → Accepted s c → 1 ≤ limit ∧ limit ≤ maxOutboxBatch →
      s.selectedControls.length ≤ limit → Listed s limit c := by
  intro h
  have hacc : Accepted hidden pause :=
    accepted_pause (by decide) (by decide) (by decide) (by decide) (by decide) (by decide)
  obtain ⟨qs, hqs, q, hq, -⟩ := h _ _ _ 100 hidden_reachable hacc (by decide) (by decide)
  have hnone : hidden.pendingTaskControls 100 = some [] := by decide
  rw [hnone] at hqs
  cases hqs
  cases hq

end HiddenPause

end AutomationTool.Bugs.ShadowedStop
