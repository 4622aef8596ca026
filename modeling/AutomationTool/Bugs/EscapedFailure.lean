import AutomationTool.Executor.Skills.SkillOrchestrator

/-!
# An exception of the page after a dispatch loses the dispatch

Behaviour (skill_replayer.py:160-212): only the call of `page.act` is guarded. A condition, an
anchor, the path of the success evidence are looked up unguarded, before the external action and
after it; an exception there leaves `replay_skill`, and then `execute`, as it is
(skill_orchestrator.py:183-191 catches `ReplayFailed` only). `PlaywrightReplayPage.holds` raises
so when the page is closed while it waits (skill_replay_page.py:185-200).

Evidence: "`dispatched` is monotone for the whole run: once any external action has been
performed, every later failure is outcome-uncertain, no matter how many internal steps sit in
between" and "a real page adapter raises native driver errors … Escaping raw would strip the
checkpoint and dispatched semantics SA-05 decides by" (skill_replayer.py:155-159, 199-203).

Counterexample: the page goes away while the postcondition of the external step is checked.

`orderly_iff`: the order, the bound and the announcements hold of every call; the report is
right just when no exception passes once an external action has been attempted.
-/
namespace AutomationTool.Bugs.EscapedFailure

open Executor.Skills

variable {η : Type}

/-- The actions are a prefix of the skill's steps, no more external ones than its boundary, each
right after a call of the hook of its own. -/
structure Obeys (skill : AutomationSkill) (hook : Option (Hook η)) (L : Transcript η) : Prop where
  inOrder : performedSteps L <+: skill.steps
  bounded : (performedSteps L).countP (·.external) ≤ skill.maxExternalSteps
  announced : hook.isSome → ∀ before c, before ++ [c] <+: L → c.dispatches = true →
    (∃ earlier, before = earlier ++ [.hook (.ok ())]) ∧
      before.countP Call.isHook = before.countP Call.dispatches + 1

/-- Once an external action has been attempted, the call ends in a report that says so. -/
def Settled (result : Except Raised SkillExecutionReport) (L : Transcript η) : Prop :=
  Attempted L → ∃ report, result = .ok report ∧
    (report.kind = .replayed ∨ report.kind = .reconcileRequired)

/-- An exception that itself says what was dispatched, and names a checkpoint of the skill. -/
def Says (skill : AutomationSkill) (e : Raised) : Prop :=
  ∃ f, e = .replayFailed f ∧ f.dispatched = true ∧ f.checkpointIndex ∈ 0 :: skill.stepIndexes

/-- The skill a call of `execute` replays. -/
def chosen (o : SkillOrchestrator) (skillId : String) (context : Option PageContext) :
    Option AutomationSkill :=
  match o.route skillId context with
  | .error _ => none
  | .ok version => (o.registry.at skillId version).map (·.skill)

section

variable (o : SkillOrchestrator) (skillId : String) (page : ReplayPage η)
  (parameters : String → Option String) (context : Option PageContext) (hook : Option (Hook η))

/-- What a call of `execute` is to obey. -/
def Orderly : Prop :=
  let x := o.execute skillId page parameters context hook
  (match chosen o skillId context with
    | none => x.calls = []
    | some skill => Obeys skill hook x.calls) ∧
  Settled x.result x.calls

/-- Once an external action has been attempted, no exception of the page or the hook passes, one
apart that itself says what was dispatched. -/
def Undisturbed : Prop :=
  ∀ skill, chosen o skillId context = some skill → ∀ before c,
    before ++ [c] <+: (o.execute skillId page parameters context hook).calls →
    Attempted (before ++ [c]) → ∀ e, c.escapes = some e → Says skill e

end

theorem obeys_of_closed {skill : AutomationSkill} {hook : Option (Hook η)}
    {done : List SkillStep} {L : Transcript η} (h : Closed skill hook done L)
    (hdone : done <+: skill.steps) : Obeys skill hook L where
  inOrder := h.performed ▸ hdone
  bounded := h.performed ▸ h.bounded
  announced hh _ _ hc hd := h.each_announced hh hc hd

/-- A failure is reported as one after a dispatch just when it says so and names a checkpoint of
the skill. -/
theorem failureReport_settles (skill : AutomationSkill) (skillId : String) (version : Nat)
    (f : ReplayFailed) :
    (∃ report, SkillOrchestrator.failureReport skill skillId version f = .ok report ∧
      (report.kind = .replayed ∨ report.kind = .reconcileRequired)) ↔
    Says skill (.replayFailed f) := by
  have hreport : Says skill (.replayFailed f) ↔
      f.dispatched = true ∧ f.checkpointIndex ∈ 0 :: skill.stepIndexes := by
    simp [Says]
  rw [hreport, SkillOrchestrator.failureReport, decideHandback]
  by_cases hf : f.checkpointIndex ∈ 0 :: skill.stepIndexes
  · rw [if_neg (not_not_intro hf)]
    cases f.dispatched with
    | true => exact ⟨fun _ => ⟨rfl, hf⟩, fun _ => ⟨_, rfl, .inr rfl⟩⟩
    | false =>
      constructor
      · rintro ⟨report, h, hkind⟩
        cases h
        simp at hkind
      · rintro ⟨h, -⟩
        cases h
  · rw [if_pos hf]
    constructor
    · rintro ⟨report, h, -⟩
      cases h
    · rintro ⟨-, h⟩
      exact absurd h hf

/-- What a replay that raised is reported as. -/
theorem broken_settled {skill : AutomationSkill} {hook : Option (Hook η)} {e : Raised}
    {L : Transcript η} {result : Except Raised SkillExecutionReport}
    (h : Broken skill hook e L)
    (hresult : (∃ report, result = .ok report ∧
        (report.kind = .replayed ∨ report.kind = .reconcileRequired)) ↔ Says skill e) :
    Settled result L ↔ ∀ before c, before ++ [c] <+: L → Attempted (before ++ [c]) →
      ∀ e, c.escapes = some e → Says skill e := by
  unfold Settled
  rw [hresult]
  obtain ⟨done, -, -, howned | ⟨L', c, rfl, hwhole, hc⟩⟩ := h
  · obtain ⟨f, rfl, hd, hcp⟩ := howned.failure
    refine ⟨fun _ before c hpre _ e he => ?_, fun _ ha => ⟨f, rfl, hd.2 ha, hcp⟩⟩
    have hmem : c ∈ L := hpre.subset (by simp)
    rw [howned.whole c hmem] at he
    cases he
  · refine ⟨fun h before d hpre ha e' he' => ?_, fun h ha => h L' c (List.prefix_refl _) ha e hc⟩
    rcases List.prefix_concat_iff.1 hpre with heq | hpre
    · obtain ⟨rfl, rfl⟩ := List.append_singleton_inj.1 heq
      cases hc.symm.trans he'
      exact h ha
    · have hmem : d ∈ L' := hpre.subset (by simp)
      rw [hwhole d hmem] at he'
      cases he'

/-- An exception that is no `ReplayFailed` leaves `execute` as it is. -/
theorem raised_settles {skill : AutomationSkill} {e : Raised} (he : ∀ f, e ≠ .replayFailed f) :
    (∃ report : SkillExecutionReport, Except.error e = .ok report ∧
      (report.kind = .replayed ∨ report.kind = .reconcileRequired)) ↔ Says skill e := by
  constructor
  · rintro ⟨report, h, -⟩
    cases h
  · rintro ⟨f, rfl, -⟩
    exact absurd rfl (he f)

/-- **What holds**, for every skill that is published, every page and every hook. -/
theorem orderly_iff (o : SkillOrchestrator) (skillId : String) (page : ReplayPage η)
    (parameters : String → Option String) (context : Option PageContext)
    (hook : Option (Hook η)) :
    Orderly o skillId page parameters context hook ↔
      Undisturbed o skillId page parameters context hook := by
  unfold Orderly Undisturbed chosen SkillOrchestrator.execute
  cases o.route skillId context with
  | error reason => simp [Settled, Attempted]
  | ok version =>
    cases hat : o.registry.at skillId version with
    | none => simp [hat, Settled, Attempted]
    | some record =>
      have hspec : Talk.Ends (fun _ L => Conduct record.skill hook record.skill.steps L ∧ Whole L)
          (Broken record.skill hook) (replaySkill record.skill page parameters hook []) :=
        replaySkill_spec [] rfl
      simp only [hat, Option.map_some, Option.some.injEq, forall_eq']
      cases hrun : replaySkill record.skill page parameters hook [] with
      | mk r L =>
        rw [hrun] at hspec
        cases r with
        | ok outcome =>
          obtain ⟨hconduct, hwhole⟩ := hspec
          refine ⟨fun _ before c hpre _ e he => ?_, fun _ => ⟨?_, fun _ => ⟨_, rfl, .inl rfl⟩⟩⟩
          · have hmem : c ∈ L := hpre.subset (by simp)
            rw [hwhole c hmem] at he
            cases he
          · exact obeys_of_closed (.conduct hconduct) (List.prefix_refl _)
        | error e =>
          have hobeys : Obeys record.skill hook L := by
            obtain ⟨done, hdone, hclosed, -⟩ := hspec
            exact obeys_of_closed hclosed hdone
          cases e with
          | replayFailed f =>
            exact (and_iff_right hobeys).trans
              (broken_settled hspec (failureReport_settles record.skill skillId version f))
          | exception type message =>
            exact (and_iff_right hobeys).trans (broken_settled hspec (raised_settles fun _ h => by cases h))
          | exit type message =>
            exact (and_iff_right hobeys).trans (broken_settled hspec (raised_settles fun _ h => by cases h))

namespace Concrete

/-- A skill that clicks once, and waits for the toast. -/
def publish : AutomationSkill :=
  { skillId := "3f2a9c4e-5b6d-4e7f-8a9b-0c1d2e3f4a5b"
    version := 1
    parentVersion := none
    platform := .douyin
    domain := "creator.douyin.com"
    pathPattern := "/creator-micro/content/post"
    fingerprintKind := .domOutlineV1
    fingerprintSha256 := "9f86d081884c7d659a2feaa0c55ad015a3bf4f1b2b0b822cd15d6c15b0f00a08"
    language := .zhCN
    viewportWidth := 1280
    viewportHeight := 800
    riskLevel := .high
    maxExternalSteps := 1
    steps :=
      [{ index := 1
         goal := { role := .button, name := "发布", nearText := none, relativePosition := none }
         action := { kind := .click, parameter := none, key := none, direction := none }
         preconditions := []
         postconditions :=
           [{ kind := .elementVisible, role := some .status, name := some "发布成功"
              pattern := none }]
         timeoutSeconds := 60
         external := true
         checkpoint := true }]
    successEvidence :=
      [{ kind := .urlMatches, pattern := some "/creator-micro/content/manage", role := none
         name := none, stepIndex := none, x := none, y := none }] }

def orchestrator : SkillOrchestrator :=
  { registry := ⟨[⟨publish, 1, rfl⟩], List.pairwise_singleton _ _⟩
    stats := ⟨fun _ _ => none, 0⟩
    disabled := [] }

/-- The click goes through, and the page is closed while the toast is awaited. -/
def closingPage : ReplayPage Unit :=
  { find := fun _ _ => .ok (some ())
    holds := fun _ _ => .error (.exception "TargetClosedError" "Page.wait_for_timeout: closed")
    act := fun _ _ _ _ => .ok ()
    currentPath := fun _ => .ok "/creator-micro/content/post" }

/-- The call of `execute`, with a ledger that accepts every dispatch. -/
def attempt : Execution Unit :=
  orchestrator.execute publish.skillId closingPage (fun _ => none) none (some fun _ => .ok ())

theorem attempt_result :
    attempt.result =
      .error (.exception "TargetClosedError" "Page.wait_for_timeout: closed") := by
  decide +kernel

/-- **Counterexample**: the post has been clicked, and `execute` raises the driver's error. -/
theorem dispatch_lost :
    ¬Orderly orchestrator publish.skillId closingPage (fun _ => none) none
      (some fun _ => .ok ()) := by
  intro h
  have hattempted : Attempted attempt.calls :=
    ⟨.act _ () none (.ok ()), .tail _ (.tail _ (.head _)), rfl⟩
  obtain ⟨report, hreport, -⟩ := h.2 hattempted
  cases attempt_result.symm.trans hreport

end Concrete

end AutomationTool.Bugs.EscapedFailure
