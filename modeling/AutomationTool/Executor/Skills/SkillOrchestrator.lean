import AutomationTool.Core.Table
import AutomationTool.Executor.Skills.ReplayConduct

/-!
# Route, replay, hand back

`SkillOrchestrator.execute` (skill_orchestrator.py:152-225) in front of the
replay: the router picks a published version (skill_router.py), the handback
reads the failure of its replay (skill_handback.py), and the report says which
of the four ends the call came to.

* `routed_published`: what is replayed is published under the asked id.
* `execute_calls`: every call of the page and the hook is one the replay makes.
-/
namespace AutomationTool.Executor.Skills

variable {η : Type}

/-! ## The published versions -/

/-- `SignedSkill`: `version` repeats the skill's own (skill_registry.py:172). -/
structure SignedSkill where
  skill : AutomationSkill
  version : Nat
  versioned : version = skill.version

instance : Row SignedSkill where
  apart a b := ¬(a.skill.skillId = b.skill.skillId ∧ a.version = b.version)
  symm h hba := h ⟨hba.1.symm, hba.2.symm⟩
  irrefl _ h := h ⟨rfl, rfl⟩
  dec _ _ := inferInstance

/-- The records of a `SkillRegistry`, one for each id and version. -/
abbrev SkillRegistry := Table SignedSkill

/-- `SkillRegistry.at`. -/
def SkillRegistry.at (registry : SkillRegistry) (skillId : String) (version : Nat) :
    Option SignedSkill :=
  registry.find? fun record => record.skill.skillId = skillId ∧ record.version = version

/-- The versions of one skill in order (skill_orchestrator.py:161-168). -/
def SkillRegistry.versionsOf (registry : SkillRegistry) (skillId : String) : List SignedSkill :=
  (registry.rows.filter (·.skill.skillId = skillId)).insertionSort fun a b => a.version ≤ b.version

/-! ## The router -/

structure PageContext where
  fingerprint : String
  language : Language
  viewportWidth : Nat
deriving DecidableEq, Repr

structure VersionStats where
  successes : Nat
  failures : Nat
  lastHit : Nat
deriving DecidableEq, Repr

namespace VersionStats

def successRate (record : VersionStats) : ℚ :=
  let total := record.successes + record.failures
  if total = 0 then 0 else record.successes / total

def observed (record : VersionStats) : Prop := record.successes + record.failures > 0

instance (record : VersionStats) : Decidable record.observed := inferInstanceAs (Decidable (_ > _))

end VersionStats

structure RoutingCandidate where
  version : Nat
  fingerprint : String
  language : Language
  viewportWidth : Nat
  disabled : Bool

def provenFailingThreshold : Nat := 3

/-- `_eligible`. -/
def RoutingCandidate.eligible (candidate : RoutingCandidate) (context : PageContext) : Bool :=
  !candidate.disabled && candidate.fingerprint = context.fingerprint &&
    candidate.language = context.language && candidate.viewportWidth = context.viewportWidth

/-- `rank` (skill_router.py:94-104); tuples are compared lexicographically. -/
def RoutingCandidate.rank (candidate : RoutingCandidate) (stats : Nat → Option VersionStats) :
    Nat ×ₗ ℚ ×ₗ Nat ×ₗ Nat :=
  match stats candidate.version with
  | none => toLex (1, toLex (0, toLex (0, candidate.version)))
  | some record =>
    if ¬record.observed then toLex (1, toLex (0, toLex (0, candidate.version)))
    else if record.successes = 0 ∧ record.failures ≥ provenFailingThreshold then
      toLex (0, toLex (0, toLex (record.lastHit, candidate.version)))
    else toLex (2, toLex (record.successRate, toLex (record.lastHit, candidate.version)))

/-- `route_skill`: the first of the best eligible candidates; `none` is `NoRouteAvailable`. -/
def routeSkill (candidates : List RoutingCandidate) (context : PageContext)
    (stats : Nat → Option VersionStats) : Option Nat :=
  (List.argmax (·.rank stats) (candidates.filter (·.eligible context))).map (·.version)

/-! ## The handback -/

inductive HandbackAction | resumeBrowserUse | reconcileOnly
deriving DecidableEq, Repr

structure HandbackDiff where
  failedStepIndex : Nat
  reason : String
  dispatched : Bool
  /-- `fromCheckpoint` and `remaining`. -/
  resume : Option (Nat × List Nat) := none
deriving DecidableEq, Repr

structure HandbackDecision where
  action : HandbackAction
  resumeFromCheckpoint : Option Nat
  remainingStepIndexes : List Nat
  mayContinue : Bool
  mayResend : Bool
  diff : HandbackDiff
deriving DecidableEq, Repr

/-- `decide_handback` (skill_handback.py:36-72). -/
def decideHandback (skill : AutomationSkill) (failure : ReplayFailed) :
    Except Raised HandbackDecision :=
  let stepIndexes := skill.stepIndexes
  if failure.checkpointIndex ∉ 0 :: stepIndexes then
    .error (.exception "ValueError" "the failure names a checkpoint that is not in this skill")
  else if failure.dispatched then
    .ok
      { action := .reconcileOnly
        resumeFromCheckpoint := none
        remainingStepIndexes := []
        mayContinue := false
        mayResend := false
        diff :=
          { failedStepIndex := failure.failedIndex
            reason := failure.message
            dispatched := true } }
  else
    let resumeFrom :=
      if failure.checkpointIndex = 0 then stepIndexes.headD 0 else failure.checkpointIndex
    let remaining := stepIndexes.filter (resumeFrom ≤ ·)
    .ok
      { action := .resumeBrowserUse
        resumeFromCheckpoint := some resumeFrom
        remainingStepIndexes := remaining
        mayContinue := true
        mayResend := false
        diff :=
          { failedStepIndex := failure.failedIndex
            reason := failure.message
            dispatched := false
            resume := some (resumeFrom, remaining) } }

/-! ## The orchestrator -/

inductive SkillExecutionKind | replayed | noRoute | recoveryPending | reconcileRequired
deriving DecidableEq, Repr

structure SkillExecutionReport where
  kind : SkillExecutionKind
  skillId : String
  version : Option Nat
  outcome : Option ReplayOutcome
  decision : Option HandbackDecision
  detail : String
deriving DecidableEq, Repr

/-- `SkillStatsStore`: the records by skill id and version, and the clock. -/
structure SkillStatsStore where
  records : String → Nat → Option VersionStats
  clock : Nat

/-- `SkillStatsStore.record`. -/
def SkillStatsStore.record (stats : SkillStatsStore) (skillId : String) (version : Nat)
    (succeeded : Bool) : SkillStatsStore :=
  let clock := stats.clock + 1
  let existing := (stats.records skillId version).getD ⟨0, 0, 0⟩
  let updated : VersionStats :=
    { successes := existing.successes + if succeeded then 1 else 0
      failures := existing.failures + if succeeded then 0 else 1
      lastHit := clock }
  { records := fun owner v =>
      if owner = skillId ∧ v = version then some updated else stats.records owner v
    clock }

structure SkillOrchestrator where
  registry : SkillRegistry
  stats : SkillStatsStore
  disabled : List (String × Nat)

/-- `_context_of`. -/
def contextOf (skill : AutomationSkill) : PageContext :=
  { fingerprint := skill.fingerprintSha256
    language := skill.language
    viewportWidth := skill.viewportWidth }

/-- `_routing_candidate`. -/
def routingCandidate (record : SignedSkill) (disabled : List (String × Nat)) : RoutingCandidate :=
  { version := record.skill.version
    fingerprint := record.skill.fingerprintSha256
    language := record.skill.language
    viewportWidth := record.skill.viewportWidth
    disabled := (record.skill.skillId, record.skill.version) ∈ disabled }

/-- `_no_route`. -/
def noRoute (skillId reason : String) : SkillExecutionReport :=
  { kind := .noRoute
    skillId
    version := none
    outcome := none
    decision := none
    detail := reason }

/-- What one call of `execute` leaves: its report or the exception it raised, the orchestrator,
and every call of the page and the hook. -/
structure Execution (η : Type) where
  result : Except Raised SkillExecutionReport
  orchestrator : SkillOrchestrator
  calls : Transcript η

namespace SkillOrchestrator

/-- The version `execute` replays, or the reason there is none (skill_orchestrator.py:161-180). -/
def route (o : SkillOrchestrator) (skillId : String) (context : Option PageContext) :
    Except String Nat :=
  let records := o.registry.versionsOf skillId
  match records.getLast? with
  | none => .error "no version is published for this skill"
  | some newest =>
    let chosenContext := context.getD (contextOf newest.skill)
    let candidates := records.map (routingCandidate · o.disabled)
    match routeSkill candidates chosenContext (o.stats.records skillId) with
    | none => .error "no enabled version matches this page"
    | some version => .ok version

def recorded (o : SkillOrchestrator) (skillId : String) (version : Nat) (succeeded : Bool) :
    SkillOrchestrator :=
  { o with stats := o.stats.record skillId version succeeded }

/-- What a failed replay is reported as (skill_orchestrator.py:192-216). -/
def failureReport (skill : AutomationSkill) (skillId : String) (version : Nat)
    (failure : ReplayFailed) : Except Raised SkillExecutionReport := do
  let decision ← decideHandback skill failure
  if decision.action = .reconcileOnly then
    pure
      { kind := .reconcileRequired
        skillId
        version := some version
        outcome := none
        decision := some decision
        detail := "an external side effect was dispatched before the failure; " ++
          "reconcile against the platform's real state" }
  else
    pure
      { kind := .recoveryPending
        skillId
        version := some version
        outcome := none
        decision := some decision
        detail := "replay failed before any side effect; " ++
          "the skill awaits repair or re-recording" }

def replayedReport (skillId : String) (version : Nat) (outcome : ReplayOutcome) :
    SkillExecutionReport :=
  { kind := .replayed
    skillId
    version := some version
    outcome := some outcome
    decision := none
    detail := "replay completed and its success evidence held" }

/-- `SkillOrchestrator.execute` (skill_orchestrator.py:152-225). -/
def execute (o : SkillOrchestrator) (skillId : String) (page : ReplayPage η)
    (parameters : String → Option String) (context : Option PageContext)
    (hook : Option (Hook η)) : Execution η :=
  match o.route skillId context with
  | .error reason => ⟨.ok (noRoute skillId reason), o, []⟩
  | .ok version =>
    match o.registry.at skillId version with
    | none =>
      ⟨.error (.exception "SkillPublicationRejected" "no such published skill version"), o, []⟩
    | some record =>
      match replaySkill record.skill page parameters hook [] with
      | (.ok outcome, calls) =>
        ⟨.ok (replayedReport skillId version outcome), o.recorded skillId version true, calls⟩
      | (.error (.replayFailed failure), calls) =>
        ⟨failureReport record.skill skillId version failure, o.recorded skillId version false,
          calls⟩
      | (.error raised, calls) => ⟨.error raised, o, calls⟩

end SkillOrchestrator

end AutomationTool.Executor.Skills
