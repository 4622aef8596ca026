import AutomationTool.Executor.CommandProcessor

/-!
# Crash recovery

After a supervisor restart the coordinator runs once. It lists the side effects of
unfinished attempts, keeps the events that were already recovered, reads the outcome
of every other effect that was dispatched (settling what is still dispatched), and
projects what it read: the first uncertain outcome alone when there is one, and
nothing when an earlier recovery was uncertain.

`run_uses`: it never commits an outcome, acknowledges or projects a control.
-/
namespace AutomationTool.Executor

open Protocol Dispatch Ledger

namespace ExecutorCrashRecoveryCoordinator

/-- What the outside answers during one run. -/
structure Surroundings where
  /-- What the recovery of an action has at hand; the window is the same for all. -/
  context : ActionId → RecoveryContext
  stamp : ActionId → Option Stamp

variable (I : Site) (w : Surroundings)

/-- The loop over the listed effects: events recovered before, and new facts.
mirrors crash_recovery.py:85-106 -/
def scan : List LocalSideEffect → Prog Op Op.Ret (List Outbound × List DouyinActionResultFact)
  | [] => pure ([], [])
  | x :: xs => do
    let found : Option (Option Outbound) ←
      Op.call (.getSideEffectRecoveryEvent x.admission.actionId)
    let existing ← Prog.ofOption found
    match existing with
    | some m => do
      let rest ← scan xs
      pure (m :: rest.1, rest.2)
    | none =>
      if x.record.state = .prepared then scan xs
      else do
        let fact ← recoverFact (w.context x.admission.actionId) x.admission.actionId
        let rest ← scan xs
        pure (rest.1, fact :: rest.2)

/-- `_project`. mirrors crash_recovery.py:122-163 -/
def project (fact : DouyinActionResultFact) : Prog Op Op.Ret Outbound := do
  let found : Option (Option LocalSideEffect) ← Op.call (.getSideEffect fact.actionId)
  let effect ← Prog.ofOption found.join
  Prog.require (effect.admission.targetId = fact.targetId)
  let initial : Option Command ← Op.call (.initialTaskCommand effect.admission.executionAttemptId)
  let source ← Prog.ofOption initial
  let current : Option AttemptCheckpoint ← Op.call (.getCheckpoint source.executionAttemptId)
  let p ← Prog.ofOption current
  Prog.require (p.state = .running ∨ p.state = .paused)
  let event ← Prog.ofOption (envelope I source (w.stamp fact.actionId) (.recovery fact.actionId)
    (p.lastEventSequence + 1) (.taskEvent fact.messageType.eventType fact.payload))
  let committed : Option OutboxEntry ←
    Op.call (.commitSideEffectRecovery fact.actionId p.revision event)
  let entry ← Prog.ofOption committed
  Prog.require (entry.message.isTaskEvent = true)
  pure entry.message

def projectAll : List DouyinActionResultFact → Prog Op Op.Ret (List Outbound)
  | [] => pure []
  | fact :: facts => do
    let m ← project I w fact
    let ms ← projectAll facts
    pure (m :: ms)

/-- mirrors crash_recovery.py:108-120 -/
def report (existing : List Outbound) (facts : List DouyinActionResultFact) :
    Prog Op Op.Ret (List Outbound) :=
  if existing.any (fun m => m.eventType = some .taskOutcomeUncertain) then pure existing
  else
    match facts.find? (fun fact => fact.messageType = .taskOutcomeUncertain) with
    | some fact => do
      let m ← project I w fact
      pure (existing ++ [m])
    | none => do
      let ms ← projectAll I w facts
      pure (existing ++ ms)

/-- Raising is `ExecutorCrashRecoveryRejected`.
mirrors crash_recovery.py:72-120 -/
def run : Prog Op Op.Ret (List Outbound) := do
  let listed : Option (List LocalSideEffect) ← Op.call (.listCrashRecoverySideEffects 100)
  let effects ← Prog.ofOption listed
  let scanned ← scan w effects
  report I w scanned.1 scanned.2

/-! ## What it issues -/

open Prog

/-- An operation that is issued in whatever state the ledger is. -/
def Harmless (o : Op) : Prop := ∀ s, issued o s

theorem actionCall_harmless {o : Op} (h : actionCall o) : Harmless o :=
  fun s => ExecutorCommandProcessor.actionCall_issued s h

theorem scan_uses (xs : List LocalSideEffect) : (scan w xs).uses Harmless := by
  induction xs with
  | nil => exact trivial
  | cons x xs ih =>
    refine uses_bind (uses_op.2 fun _ => trivial) fun found => ?_
    refine uses_bind (uses_ofOption _) fun existing => ?_
    cases existing with
    | some m => exact uses_bind ih fun _ => trivial
    | none =>
      dsimp only
      split
      · exact ih
      · refine uses_bind (uses_mono (fun _ => actionCall_harmless) (recoverFact_uses _ _))
          fun fact => ?_
        exact uses_bind ih fun _ => trivial

theorem project_uses (fact : DouyinActionResultFact) : (project I w fact).uses Harmless := by
  refine uses_bind (uses_op.2 fun _ => trivial) fun found => ?_
  refine uses_bind (uses_ofOption _) fun effect => ?_
  refine uses_bind (uses_require _) fun _ => ?_
  refine uses_bind (uses_op.2 fun _ => trivial) fun initial => ?_
  refine uses_bind (uses_ofOption _) fun source => ?_
  refine uses_bind (uses_op.2 fun _ => trivial) fun current => ?_
  refine uses_bind (uses_ofOption _) fun p => ?_
  refine uses_bind (uses_require _) fun _ => ?_
  refine uses_bind (uses_ofOption _) fun event => ?_
  refine uses_bind (uses_op.2 fun _ => trivial) fun committed => ?_
  refine uses_bind (uses_ofOption _) fun entry => ?_
  exact uses_bind (uses_require _) fun _ => trivial

theorem projectAll_uses (facts : List DouyinActionResultFact) :
    (projectAll I w facts).uses Harmless := by
  induction facts with
  | nil => exact trivial
  | cons fact facts ih =>
    exact uses_bind (project_uses I w fact) fun _ => uses_bind ih fun _ => trivial

theorem run_uses : (run I w).uses Harmless := by
  refine uses_bind (uses_op.2 fun _ => trivial) fun listed => ?_
  refine uses_bind (uses_ofOption _) fun effects => ?_
  refine uses_bind (scan_uses w effects) fun scanned => ?_
  unfold report
  split
  · exact trivial
  · split
    · exact uses_bind (project_uses I w _) fun _ => trivial
    · exact uses_bind (projectAll_uses I w _) fun _ => trivial

/-! ## A run without a page, alone -/

/-- The event that reported the action before, by its recovery key. -/
def recoveryEvent (s : Ledger) (a : ActionId) : Option Outbound :=
  (s.sent.find? fun f => f.message.idempotencyKey = .recovery a).map (·.message)

/-- The effect has an outcome to read and no event yet. -/
def isOpen (s : Ledger) (x : LocalSideEffect) : Bool :=
  (recoveryEvent s x.admission.actionId).isNone && x.record.state ≠ .prepared

/-- The effect as it stands in the ledger. -/
structure Stands (s : Ledger) (x : LocalSideEffect) : Prop where
  admission : s.admission x.admission.actionId = some x.admission
  effect : s.effect x.admission.actionId = some x.record
  action : x.admission.action ≠ .browse

/-- The ledger after every open effect of the list was settled, with the clock
reading of its action. -/
def settleOpen (u : ActionId → Option Time) (p : LocalSideEffect → Bool) :
    List LocalSideEffect → Ledger → Ledger
  | [], s => s
  | x :: xs, s => settleOpen u p xs
      (if p x then s.settledUncertain x.admission.actionId (u x.admission.actionId) else s)

section Alone

variable {I : Site} {s s' : Ledger} {u : ActionId → Option Time} {stamp : ActionId → Option Stamp}

theorem getSideEffectRecoveryEvent_eq {a : ActionId} {e : Option Outbound}
    (h : s.getSideEffectRecoveryEvent a = some e) : e = recoveryEvent s a := by
  unfold getSideEffectRecoveryEvent at h
  unfold recoveryEvent
  split at h
  · rename_i hf
    rw [hf]
    cases h
    rfl
  · rename_i f hf
    rw [hf]
    obtain ⟨-, h⟩ := require_eq_some.1 h
    cases h
    rfl

theorem settled_isOpen (s : Ledger) (a : ActionId) (u : Option Time) (x : LocalSideEffect) :
    isOpen (s.settledUncertain a u) x = isOpen s x := by
  unfold isOpen recoveryEvent
  rw [settledUncertain_sent]

theorem settled_stands {x y : LocalSideEffect} (hx : Stands s x)
    (hne : x.admission.actionId ≠ y.admission.actionId) (u : Option Time) :
    Stands (s.settledUncertain y.admission.actionId u) x where
  admission := by
    unfold admission
    rw [settledUncertain_admissions]
    exact hx.admission
  effect := by
    rw [settledUncertain_effect, if_neg hne]
    exact hx.effect
  action := hx.action

/-- The scan returns the earlier events and a fact for every open effect, and
settles these. -/
theorem scan_run {xs : List LocalSideEffect} (hxs : ∀ x ∈ xs, Stands s x)
    (hnodup : (xs.map (·.admission.actionId)).Nodup)
    {r : List Outbound × List DouyinActionResultFact}
    (h : (scan ⟨fun a => .withoutPage (u a), stamp⟩ xs).run (Ledger.exec I) s = (some r, s')) :
    r.1 = xs.filterMap (fun x => recoveryEvent s x.admission.actionId) ∧
      r.2 = (xs.filter (isOpen s)).map (fun x => reportedFact x.admission x.record) ∧
        s' = settleOpen u (isOpen s) xs s := by
  induction xs generalizing s r with
  | nil =>
    cases h
    exact ⟨rfl, rfl, rfl⟩
  | cons x xs ih =>
    rw [List.map_cons, List.nodup_cons] at hnodup
    have hrest : ∀ y ∈ xs, Stands s y := fun y hy => hxs y (List.mem_cons_of_mem _ hy)
    obtain ⟨existing, hread, h⟩ := Prog.run_ofOption_bind _ h
    have hevent := getSideEffectRecoveryEvent_eq hread
    cases existing with
    | some m =>
      obtain ⟨rest, t, hscan, h⟩ := Prog.run_bind_some _ h
      cases h
      obtain ⟨h1, h2, h3⟩ := ih hrest hnodup.2 hscan
      have hclosed : isOpen s x = false := by simp [isOpen, ← hevent]
      simp [h1, h2, h3, settleOpen, hclosed, ← hevent]
    | none =>
      dsimp only at h
      by_cases hp : x.record.state = .prepared
      · rw [if_pos hp] at h
        obtain ⟨h1, h2, h3⟩ := ih hrest hnodup.2 h
        have hclosed : isOpen s x = false := by simp [isOpen, hp]
        simp [h1, h2, h3, settleOpen, hclosed, ← hevent]
      · rw [if_neg hp] at h
        have hopen : isOpen s x = true := by simp [isOpen, ← hevent, hp]
        have hst := hxs x List.mem_cons_self
        obtain ⟨fact, t, hrec, h⟩ := Prog.run_bind_some _ h
        have hreport := recoverFact_run (I := I) hst.effect hst.admission hst.action hp
          (u x.admission.actionId)
        cases hreport.symm.trans hrec
        obtain ⟨rest, t, hscan, h⟩ := Prog.run_bind_some _ h
        cases h
        have hmoved : ∀ y ∈ xs,
            Stands (s.settledUncertain x.admission.actionId (u x.admission.actionId)) y := by
          intro y hy
          refine settled_stands (hrest y hy) (fun he => hnodup.1 ?_) _
          exact List.mem_map.2 ⟨y, hy, he⟩
        obtain ⟨h1, h2, h3⟩ := ih hmoved hnodup.2 hscan
        have hisOpen : isOpen (s.settledUncertain x.admission.actionId (u x.admission.actionId)) =
            isOpen s := funext fun y => settled_isOpen s _ _ y
        have hevents : recoveryEvent (s.settledUncertain x.admission.actionId
            (u x.admission.actionId)) = recoveryEvent s := by
          funext a
          unfold recoveryEvent
          rw [settledUncertain_sent]
        rw [hisOpen] at h2 h3
        rw [hevents] at h1
        simp [h1, h2, h3, settleOpen, hopen, ← hevent]

theorem settleOpen_same (p : LocalSideEffect → Bool) (xs : List LocalSideEffect) (s : Ledger) :
    (settleOpen u p xs s).sent = s.sent ∧ (settleOpen u p xs s).checkpoints = s.checkpoints ∧
      (settleOpen u p xs s).admissions = s.admissions := by
  induction xs generalizing s with
  | nil => exact ⟨rfl, rfl, rfl⟩
  | cons x xs ih =>
    unfold settleOpen
    obtain ⟨h1, h2, h3⟩ := ih
      (if p x then s.settledUncertain x.admission.actionId (u x.admission.actionId) else s)
    rw [h1, h2, h3]
    split <;> simp

theorem settleOpen_effect {p : LocalSideEffect → Bool} {xs : List LocalSideEffect}
    (hnodup : (xs.map (·.admission.actionId)).Nodup) (s : Ledger) (a : ActionId) :
    (settleOpen u p xs s).effect a =
      if xs.any (fun x => x.admission.actionId = a && p x) then
        (s.effect a).map (settledRecord · (u a))
      else s.effect a := by
  induction xs generalizing s with
  | nil => rfl
  | cons x xs ih =>
    rw [List.map_cons, List.nodup_cons] at hnodup
    unfold settleOpen
    rw [ih hnodup.2, List.any_cons]
    by_cases ha : x.admission.actionId = a
    · -- the head is the only effect of this action
      subst ha
      have hno : xs.any (fun y => y.admission.actionId = x.admission.actionId && p y) = false := by
        refine List.any_eq_false.2 fun y hy he => hnodup.1 ?_
        rw [Bool.and_eq_true, decide_eq_true_eq] at he
        exact List.mem_map.2 ⟨y, hy, he.1⟩
      rw [hno]
      cases hp : p x with
      | false => simp
      | true => simp [settledUncertain_effect]
    · have hne : ¬a = x.admission.actionId := fun h => ha h.symm
      have hsame : (if p x then s.settledUncertain x.admission.actionId (u x.admission.actionId)
          else s).effect a = s.effect a := by
        split
        · rw [settledUncertain_effect, if_neg hne]
        · rfl
      rw [hsame]
      simp [ha]

/-- What a projection did: nothing, for an action reported before, or one event for
the attempt of the action, whose checkpoint it moves. -/
theorem project_some {w : Surroundings} {fact : DouyinActionResultFact} {m : Outbound}
    (h : (project I w fact).run (Ledger.exec I) s = (some m, s')) :
    s'.admissions = s.admissions ∧ s'.sideEffects = s.sideEffects ∧
      ((s' = s ∧ recoveryEvent s fact.actionId ≠ none) ∨
        ∃ ad p f, s.admission fact.actionId = some ad ∧
          s.checkpoint ad.executionAttemptId = some p ∧ (p.state = .running ∨ p.state = .paused) ∧
          s'.sent = s.sent ++ [f] ∧ f.message.executionAttemptId = ad.executionAttemptId ∧
          f.message.eventType = some fact.messageType.eventType ∧
          ∀ e, s'.checkpoint e = if e = ad.executionAttemptId then some { p with
              state := if fact.messageType = .taskOutcomeUncertain then .outcomeUncertain
                else p.state
              lastEventSequence := p.lastEventSequence + 1
              revision := p.revision + 1 }
            else s.checkpoint e) := by
  obtain ⟨effect, -, h⟩ := Prog.run_ofOption_bind _ h
  obtain ⟨-, h⟩ := Prog.run_require_bind _ h
  obtain ⟨source, -, h⟩ := Prog.run_ofOption_bind _ h
  obtain ⟨p, -, h⟩ := Prog.run_ofOption_bind _ h
  obtain ⟨-, h⟩ := Prog.run_require_bind _ h
  obtain ⟨event, hevent, h⟩ := Prog.run_ofOption_bind _ h
  obtain ⟨entry, hentry, h⟩ := Prog.run_ofOption_bind _ h
  obtain ⟨-, h⟩ := Prog.run_require_bind _ h
  have hcommit : (s.atomic (s.commitSideEffectRecovery I fact.actionId p.revision event)).1 =
      some entry := hentry
  have hs' : (s.atomic (s.commitSideEffectRecovery I fact.actionId p.revision event)).2 = s' :=
    congrArg Prod.snd h
  have hbody := (envelope_some hevent).1
  cases hc : s.commitSideEffectRecovery I fact.actionId p.revision event with
  | none => rw [hc] at hcommit; cases hcommit
  | some q =>
    obtain ⟨r, t⟩ := q
    rw [hc] at hs'
    cases hs'
    obtain ⟨-, hkey, ⟨-, rfl, f, hf, -, hfkey, -⟩ | ⟨-, -, -, x, ad, p', c, O, -, had, hp', hoffer,
      -, hatt, -, hseq, hst, -, -, -, hO, rfl⟩⟩ := commitSideEffectRecovery_some hc
    · refine ⟨rfl, rfl, .inl ⟨rfl, fun hnone => ?_⟩⟩
      have := Option.map_eq_none_iff.1 hnone
      exact List.find?_eq_none.1 this f hf (decide_eq_true hfkey)
    · refine ⟨rfl, rfl, .inr ⟨ad, p', ⟨_, event, c.messageId⟩, had, hp', hst, append?_some hO,
        hatt.symm, Outbound.eventType_of_body hbody, fun e => ?_⟩⟩
      have hty : event.eventType = some .taskOutcomeUncertain ↔
          fact.messageType = .taskOutcomeUncertain := by
        rw [Outbound.eventType_of_body hbody]
        cases fact.messageType <;> simp [ActionResultType.eventType]
      unfold checkpoint
      rw [atomic_some, Journal.checkpoint_put hp' _ (by rfl)]
      simp only [hty, hseq]

/-- Facts that are not uncertain leave every attempt in its state. -/
theorem projectAll_some {w : Surroundings} {facts : List DouyinActionResultFact}
    (hno : ∀ fact ∈ facts, fact.messageType ≠ .taskOutcomeUncertain) {ms : List Outbound}
    (h : (projectAll I w facts).run (Ledger.exec I) s = (some ms, s')) :
    s'.admissions = s.admissions ∧ s'.sideEffects = s.sideEffects ∧
      ∀ e, (s'.checkpoint e).map (·.state) = (s.checkpoint e).map (·.state) := by
  induction facts generalizing s ms with
  | nil =>
    cases h
    exact ⟨rfl, rfl, fun _ => rfl⟩
  | cons fact facts ih =>
    obtain ⟨m, t, hm, h⟩ := Prog.run_bind_some _ h
    obtain ⟨rest, t', hrest, h⟩ := Prog.run_bind_some _ h
    cases h
    obtain ⟨ha, hx, hst⟩ := ih (fun f hf => hno f (List.mem_cons_of_mem _ hf)) hrest
    obtain ⟨ha', hx', hproj⟩ := project_some hm
    refine ⟨ha.trans ha', hx.trans hx', fun e => (hst e).trans ?_⟩
    obtain ⟨rfl, -⟩ | ⟨ad, p, f, -, hp, -, -, -, -, hcheck⟩ := hproj
    · rfl
    · rw [hcheck e, if_neg (hno fact List.mem_cons_self)]
      split
      · rename_i he
        rw [he, hp]
        rfl
      · rfl

/-- The effects a run looks at. -/
def listed (s : Ledger) : List LocalSideEffect :=
  (s.recoverableEffects.insertionSort recoveryOrder).take 100

/-- A listed action was reported as uncertain by an earlier recovery. -/
def EarlierDoubt (s : Ledger) : Prop :=
  ∃ x ∈ listed s, ∃ m, recoveryEvent s x.admission.actionId = some m ∧
    m.eventType = some .taskOutcomeUncertain

/-- How the attempts stand after a run from `s`. -/
inductive Ends (s s' : Ledger) : Prop where
  /-- None of them changed its state. -/
  | quiet (hwhy : EarlierDoubt s ∨ ∀ x ∈ listed s, isOpen s x = true → x.record.state = .verified)
      (hstate : ∀ e, (s'.checkpoint e).map (·.state) = (s.checkpoint e).map (·.state))
  /-- The attempt of the first open effect that is not verified became uncertain. -/
  | doubted (y : LocalSideEffect) (hy : y ∈ listed s) (hopen : isOpen s y = true)
      (hunverified : y.record.state ≠ .verified) (hno : ¬EarlierDoubt s)
      (hlive : ∃ p, s.checkpoint y.admission.executionAttemptId = some p ∧
        (p.state = .running ∨ p.state = .paused))
      (hstate : ∀ e, (s'.checkpoint e).map (·.state) =
        if e = y.admission.executionAttemptId then some .outcomeUncertain
        else (s.checkpoint e).map (·.state))
      (hsent : ∃ f ∈ s'.sent, f.message.executionAttemptId = y.admission.executionAttemptId ∧
        f.message.eventType = some .taskOutcomeUncertain)

theorem listed_stands (h : s.listCrashRecoverySideEffects 100 = some (listed s)) :
    ∀ x ∈ listed s, Stands s x := by
  obtain ⟨⟨-, -, hact⟩, -⟩ := require_eq_some.1 h
  intro x hx
  have hmem : x ∈ s.recoverableEffects :=
    (List.mem_insertionSort recoveryOrder).1 (List.mem_of_mem_take hx)
  obtain ⟨ha, he, -⟩ := mem_recoverableEffects.1 hmem
  exact ⟨ha, he, hact x hx⟩

/-- An action is listed once. -/
theorem listed_nodup (s : Ledger) : ((listed s).map (·.admission.actionId)).Nodup := by
  have hrows : s.recoverableEffects.Pairwise fun x y =>
      x.admission.actionId ≠ y.admission.actionId := by
    refine s.sideEffects.distinct.filterMap _ fun e e' hne x hx y hy => ?_
    have hkey : ∀ (e : Entry ActionId Digest Digest) (x : LocalSideEffect),
        (do
          let ad ← s.admission e.key
          let p ← s.checkpoint ad.executionAttemptId
          Ledger.require (recoverable p.state = true) (some ⟨ad, e.record⟩)) = some x →
        x.admission.actionId = e.key := by
      intro e x h
      obtain ⟨ad, had, h⟩ := Option.bind_eq_some_iff.1 h
      obtain ⟨p, -, h⟩ := Option.bind_eq_some_iff.1 h
      obtain ⟨-, h⟩ := require_eq_some.1 h
      cases h
      exact (admission_eq_some.1 had).2
    rw [hkey e x hx, hkey e' y hy]
    exact hne
  have hperm := (List.perm_insertionSort recoveryOrder s.recoverableEffects).map
    (·.admission.actionId)
  have hall := hperm.nodup_iff.2 (List.pairwise_map.2 hrows)
  exact hall.sublist ((List.take_sublist 100 _).map _)

theorem reportedFact_uncertain {x : LocalSideEffect} :
    (reportedFact x.admission x.record).messageType = .taskOutcomeUncertain ↔
      x.record.state ≠ .verified := by
  unfold reportedFact
  split <;> simp [*]

/-- **What a run leaves behind.** Every open effect it listed is settled as far as the
clock allows, and at most one attempt becomes uncertain. -/
theorem run_some {r : List Outbound}
    (h : (run I ⟨fun a => .withoutPage (u a), stamp⟩).run (Ledger.exec I) s = (some r, s')) :
    (∀ x ∈ listed s, Stands s x) ∧ s'.admissions = s.admissions ∧
      (∀ a, s'.effect a = (settleOpen u (isOpen s) (listed s) s).effect a) ∧ Ends s s' := by
  obtain ⟨effects, hlist, h⟩ := Prog.run_ofOption_bind _ h
  have hlist' : s.listCrashRecoverySideEffects 100 = some effects := hlist
  have heffects : listed s = effects := by
    obtain ⟨-, he⟩ := require_eq_some.1 hlist'
    exact Option.some.inj he
  subst heffects
  have hstands := listed_stands hlist'
  obtain ⟨scanned, t, hscan, h⟩ := Prog.run_bind_some _ h
  obtain ⟨h1, h2, rfl⟩ := scan_run hstands (listed_nodup s) hscan
  obtain ⟨hsent, hcheck, hadm⟩ := settleOpen_same (u := u) (isOpen s) (listed s) s
  have hcheckpoint : ∀ e, (settleOpen u (isOpen s) (listed s) s).checkpoint e = s.checkpoint e := by
    intro e
    unfold checkpoint
    rw [hcheck]
  refine ⟨hstands, ?_⟩
  have hdoubt : scanned.1.any (fun m => m.eventType = some .taskOutcomeUncertain) = true ↔
      EarlierDoubt s := by
    rw [h1, List.any_eq_true]
    unfold EarlierDoubt
    simp only [List.mem_filterMap, decide_eq_true_eq]
    constructor
    · rintro ⟨m, ⟨x, hx, hm⟩, ht⟩
      exact ⟨x, hx, m, hm, ht⟩
    · rintro ⟨x, hx, m, hm, ht⟩
      exact ⟨m, ⟨x, hx, hm⟩, ht⟩
  unfold report at h
  split at h
  · rename_i hany
    cases h
    exact ⟨hadm, fun _ => rfl, .quiet (.inl (hdoubt.1 hany)) fun e => by rw [hcheckpoint]⟩
  · rename_i hany
    have hno : ¬EarlierDoubt s := fun hd => hany (hdoubt.2 hd)
    split at h
    · rename_i fact hfact
      obtain ⟨m, t, hm, h⟩ := Prog.run_bind_some _ h
      cases h
      have htype : fact.messageType = .taskOutcomeUncertain := by
        have := List.find?_some hfact
        exact of_decide_eq_true this
      have hmem := List.mem_of_find?_eq_some hfact
      rw [h2] at hmem
      obtain ⟨y, hy, rfl⟩ := List.mem_map.1 hmem
      obtain ⟨hy, hopen⟩ := List.mem_filter.1 hy
      have hunverified := reportedFact_uncertain.1 htype
      have hid : (reportedFact y.admission y.record).actionId = y.admission.actionId := by
        unfold reportedFact
        split <;> rfl
      have hnone : recoveryEvent s y.admission.actionId = none := by
        unfold isOpen at hopen
        rw [Bool.and_eq_true, Option.isNone_iff_eq_none] at hopen
        exact hopen.1
      obtain ⟨ha, hx, ⟨-, hevent⟩ | ⟨ad, p, f, had, hp, hlive, hsent', hfe, hft, hcheck'⟩⟩ :=
        project_some hm
      · -- the action has no recovery event, so this is not a replay
        rw [hid] at hevent
        unfold recoveryEvent at hevent hnone
        rw [hsent] at hevent
        exact absurd hnone hevent
      · rw [hid] at had
        have hadm' : (settleOpen u (isOpen s) (listed s) s).admission y.admission.actionId =
            some y.admission := by
          unfold admission
          rw [hadm]
          exact (hstands y hy).admission
        rw [hadm'] at had
        cases had
        rw [hcheckpoint] at hp
        refine ⟨ha.trans hadm, fun a => ?_, .doubted y hy hopen hunverified hno ⟨p, hp, hlive⟩
          (fun e => ?_) ⟨f, ?_, hfe, ?_⟩⟩
        · unfold effect
          rw [hx]
        · rw [hcheck', hcheckpoint, if_pos htype]
          split <;> rfl
        · rw [hsent']
          exact List.mem_append_right _ (List.mem_singleton_self f)
        · rw [hft, htype]
          rfl
    · rename_i hnone
      obtain ⟨ms, t, hms, h⟩ := Prog.run_bind_some _ h
      cases h
      have hverified : ∀ fact ∈ scanned.2, fact.messageType ≠ .taskOutcomeUncertain :=
        fun fact hf ht => List.find?_eq_none.1 hnone fact hf (decide_eq_true ht)
      obtain ⟨ha, hx, hst⟩ := projectAll_some hverified hms
      refine ⟨ha.trans hadm, fun a => ?_, .quiet (.inr fun x hx hopen => ?_) fun e => ?_⟩
      · unfold effect
        rw [hx]
      · refine Classical.byContradiction fun hv => ?_
        refine hverified (reportedFact x.admission x.record) ?_ (reportedFact_uncertain.2 hv)
        rw [h2]
        exact List.mem_map.2 ⟨x, List.mem_filter.2 ⟨hx, hopen⟩, rfl⟩
      · rw [hst, hcheckpoint]

end Alone

end ExecutorCrashRecoveryCoordinator
end AutomationTool.Executor
