import AutomationTool.Core.Talk
import AutomationTool.Executor.Skills.AutomationSkill

/-!
# Deterministic replay of a skill

`replaySkill` (skill_replayer.py:115-212) walks the steps of a skill on a page
it knows nothing about: each call of the page and of the dispatch hook is a
question (`Call`), answered by a function of everything that was asked before.

* `Conduct`: the records a replay can leave, step by step.
* `replaySkill_spec`: what a replay leaves: the steps it performed are a prefix
  of the skill's, each external one announced; and when it fails, either by
  itself, saying truly whether an external action was attempted (`Owned`), or
  because an exception of the page or the hook passed through it as it is
  (`Escaped`).
-/
namespace AutomationTool.Executor.Skills

/-- `ReplayFailed` (skill_replayer.py:73-96). -/
structure ReplayFailed where
  message : String
  checkpointIndex : Nat
  failedIndex : Nat := 0
  dispatched : Bool := false
deriving DecidableEq, Repr

/-- What a call may raise: a `ReplayFailed`, another `Exception`, or what
`except Exception` does not catch. -/
inductive Raised
  | replayFailed (failure : ReplayFailed)
  | exception (type message : String)
  | exit (type message : String)
deriving DecidableEq, Repr

namespace Raised

/-- `str(error)`. -/
def message : Raised → String
  | .replayFailed failure => failure.message
  | .exception _ message => message
  | .exit _ message => message

/-- `isinstance(error, Exception)`. -/
def isException : Raised → Bool
  | .exit _ _ => false
  | _ => true

end Raised

/-- A call of the page or of the hook, beside its answer; `act` says for which
step it was made. `η` is the type of the page's handles. -/
inductive Call (η : Type)
  | find (goal : SkillGoal) (answer : Except Raised (Option η))
  | holds (condition : SkillCondition) (answer : Except Raised Bool)
  | hook (answer : Except Raised Unit)
  | act (step : SkillStep) (handle : η) (value : Option String) (answer : Except Raised Unit)
  | currentPath (answer : Except Raised String)

abbrev Transcript (η : Type) := List (Call η)

/-- `ReplayPage` (skill_replayer.py:37-70). -/
structure ReplayPage (η : Type) where
  find : SkillGoal → Transcript η → Except Raised (Option η)
  holds : SkillCondition → Transcript η → Except Raised Bool
  act : ActionKind → η → Option String → Transcript η → Except Raised Unit
  currentPath : Transcript η → Except Raised String

/-- `on_external_dispatch`. -/
abbrev Hook (η : Type) := Transcript η → Except Raised Unit

structure ReplayOutcome where
  passed : Bool
  completedSteps : Nat
  externalSideEffects : Nat
deriving DecidableEq, Repr

abbrev Replay (η α : Type) := Talk (Call η) Raised α

variable {η : Type}

/-! ## The replay -/

/-- The variables `fail` and the loop of `replay_skill` share. -/
structure Progress where
  lastCheckpoint : Nat := 0
  externalPerformed : Nat := 0
  currentIndex : Nat := 0
  dispatched : Bool := false
deriving DecidableEq, Repr

def fail {α : Type} (p : Progress) (message : String) : Replay η α :=
  .raise (.replayFailed
    { message
      checkpointIndex := p.lastCheckpoint
      failedIndex := p.currentIndex
      dispatched := p.dispatched })

/-- `repr` of a parameter name: a lowercase identifier, so the quotes need no escape. -/
def reprName : Option String → String
  | none => "None"
  | some name => "'" ++ name ++ "'"

def needsParameter (step : SkillStep) : String :=
  s!"step {step.index} needs runtime parameter {reprName step.action.parameter}"

/-- The value of a `fill`: `none` when nobody supplied it. -/
def suppliedParameter (parameters : String → Option String) (step : SkillStep) : Option String :=
  step.action.parameter.bind parameters

/-- The pre-flight over the runtime parameters (skill_replayer.py:149-153). -/
def preflight (parameters : String → Option String) (p : Progress) : List SkillStep → Replay η Unit
  | [] => pure ()
  | step :: steps =>
    if step.action.kind = .fill ∧ suppliedParameter parameters step = none then
      fail p (needsParameter step)
    else preflight parameters p steps

/-- `_action_payload` (skill_replayer.py:215-230). -/
def actionPayload (parameters : String → Option String) (p : Progress) (step : SkillStep) :
    Replay η (Option String) :=
  match step.action.kind with
  | .fill =>
    match suppliedParameter parameters step with
    | none => fail p (needsParameter step)
    | some value => pure (some value)
  | .pressKey => pure (step.action.key.map Vocabulary.value)
  | .scroll => pure (step.action.direction.map Vocabulary.value)
  | _ => pure none

/-- `_condition_holds`. -/
def conditionHolds (page : ReplayPage η) (condition : SkillCondition) : Replay η Bool :=
  .ask (page.holds condition) (.holds condition)

/-- `for condition in …: if not _condition_holds(page, condition): fail(message)`. -/
def checkConditions (page : ReplayPage η) (p : Progress) (message : String) :
    List SkillCondition → Replay η Unit
  | [] => pure ()
  | condition :: conditions => do
    if ← conditionHolds page condition then checkConditions page p message conditions
    else fail p message

/-- `if on_external_dispatch is not None: on_external_dispatch()`. -/
def callHook : Option (Hook η) → Replay η Unit
  | some onExternalDispatch => .ask onExternalDispatch .hook
  | none => pure ()

/-- What stands before the action of an external step (skill_replayer.py:180-196). -/
def announce (skill : AutomationSkill) (hook : Option (Hook η)) (p : Progress) (step : SkillStep) :
    Replay η Progress :=
  if step.external then
    let p := { p with externalPerformed := p.externalPerformed + 1 }
    if p.externalPerformed > skill.maxExternalSteps then
      fail p "replay would exceed the external side-effect boundary"
    else do
      callHook hook
      pure { p with dispatched := true }
  else pure p

/-- The action itself: an `Exception` of the page becomes a failure of the
replay, anything else passes (skill_replayer.py:197-204). -/
def perform (page : ReplayPage η) (p : Progress) (step : SkillStep) (handle : η)
    (value : Option String) : Replay η Unit :=
  (Talk.ask (page.act step.action.kind handle value) (.act step handle value)).rescue fun error =>
    if error.isException then fail p s!"step {step.index} action failed: {error.message}"
    else .raise error

/-- One step of the main loop (skill_replayer.py:160-208). -/
def replayStep (skill : AutomationSkill) (page : ReplayPage η)
    (parameters : String → Option String) (hook : Option (Hook η)) (p : Progress)
    (step : SkillStep) : Replay η Progress := do
  let p := { p with
    currentIndex := step.index
    lastCheckpoint := if step.checkpoint then step.index else p.lastCheckpoint }
  let value ← actionPayload parameters p step
  checkConditions page p s!"precondition not met before step {step.index}" step.preconditions
  match ← Talk.ask (page.find step.goal) (.find step.goal) with
  | none => fail p s!"anchor not found for step {step.index}: {Vocabulary.value step.goal.role}"
  | some handle =>
    let p ← announce skill hook p step
    perform page p step handle value
    checkConditions page p s!"postcondition not met after step {step.index}" step.postconditions
    pure p

/-- All elements of the evidence are visible (skill_replayer.py:259-264). -/
def elementsVisible (page : ReplayPage η) : List SkillEvidence → Replay η Bool
  | [] => pure true
  | evidence :: rest =>
    if evidence.kind = .elementVisible then do
      let condition :=
        { kind := .elementVisible, role := evidence.role, name := evidence.name, pattern := none }
      if ← conditionHolds page condition then elementsVisible page rest else pure false
    else elementsVisible page rest

/-- `_success_evidence_holds` (skill_replayer.py:233-266): any path of the
alternatives, and all the elements. -/
def successEvidenceHolds (skill : AutomationSkill) (page : ReplayPage η) : Replay η Bool := do
  let urlPatterns := (skill.successEvidence.filter (·.kind = .urlMatches)).map (·.pattern)
  let prefixPatterns := (skill.successEvidence.filter (·.kind = .urlPrefixMatches)).map (·.pattern)
  if urlPatterns = [] ∧ prefixPatterns = [] then elementsVisible page skill.successEvidence
  else do
    let path ← Talk.ask page.currentPath .currentPath
    if some path ∈ urlPatterns ∨
        prefixPatterns.any (·.any fun pattern => pattern.toList.isPrefixOf path.toList) then
      elementsVisible page skill.successEvidence
    else pure false

/-- `replay_skill` (skill_replayer.py:115-212). -/
def replaySkill (skill : AutomationSkill) (page : ReplayPage η)
    (parameters : String → Option String) (hook : Option (Hook η)) : Replay η ReplayOutcome :=
  if skill.externalStepCount > skill.maxExternalSteps then
    .raise (.replayFailed
      { message := "skill declares more external steps than its boundary allows"
        checkpointIndex := 0 })
  else do
    preflight parameters {} skill.steps
    let p ← skill.steps.foldlM (replayStep skill page parameters hook) {}
    if ← successEvidenceHolds skill page then
      pure
        { passed := true
          completedSteps := skill.steps.length
          externalSideEffects := p.externalPerformed }
    else fail p "success evidence did not hold after the final step"

/-! ## Records -/

namespace Call

/-- The step this call performs. -/
def performed : Call η → Option SkillStep
  | .act step _ _ _ => some step
  | _ => none

def isHook : Call η → Bool
  | .hook _ => true
  | _ => false

/-- An attempt of an external action. -/
def dispatches (c : Call η) : Bool := c.performed.any (·.external)

/-- A look at the page. -/
def quiet : Call η → Bool
  | .hook _ | .act _ _ _ _ => false
  | _ => true

/-- The exception of this call that nobody catches. -/
def escapes : Call η → Option Raised
  | .find _ (.error e) | .holds _ (.error e) | .hook (.error e) | .currentPath (.error e) => some e
  | .act _ _ _ (.error e) => if e.isException then none else some e
  | _ => none

theorem quiet_performed {c : Call η} (h : c.quiet = true) : c.performed = none := by
  cases c <;> first | rfl | cases h

theorem quiet_isHook {c : Call η} (h : c.quiet = true) : c.isHook = false := by
  cases c <;> first | rfl | cases h

end Call

/-- The steps performed, in the order of their actions. -/
def performedSteps (L : Transcript η) : List SkillStep := L.filterMap Call.performed

/-- An external action has been attempted. -/
def Attempted (L : Transcript η) : Prop := ∃ c ∈ L, c.dispatches = true

/-- No exception has passed. -/
def Whole (L : Transcript η) : Prop := ∀ c ∈ L, c.escapes = none

theorem whole_snoc {L : Transcript η} {c : Call η} :
    Whole (L ++ [c]) ↔ Whole L ∧ c.escapes = none := by
  simp [Whole, or_imp, forall_and]

theorem attempted_snoc {L : Transcript η} {c : Call η} :
    Attempted (L ++ [c]) ↔ Attempted L ∨ c.dispatches = true := by
  simp [Attempted, or_and_right, exists_or]

section

variable (skill : AutomationSkill) (hook : Option (Hook η))

/-- The records in which the steps `done` have been performed. -/
inductive Conduct : List SkillStep → Transcript η → Prop
  | start : Conduct [] []
  | look {done : List SkillStep} {L : Transcript η} {c : Call η} (h : Conduct done L)
    (hc : c.quiet = true) : Conduct done (L ++ [c])
  | inner {done : List SkillStep} {L : Transcript η} {s : SkillStep} {handle : η}
    {value : Option String} {answer : Except Raised Unit} (h : Conduct done L)
    (hs : s.external = false) : Conduct (done ++ [s]) (L ++ [.act s handle value answer])
  | unannounced {done : List SkillStep} {L : Transcript η} {s : SkillStep} {handle : η}
    {value : Option String} {answer : Except Raised Unit} (h : Conduct done L)
    (hs : s.external = true) (hlt : done.countP (·.external) < skill.maxExternalSteps)
    (hh : hook = none) : Conduct (done ++ [s]) (L ++ [.act s handle value answer])
  | announced {done : List SkillStep} {L : Transcript η} {s : SkillStep} {handle : η}
    {value : Option String} {answer : Except Raised Unit} (h : Conduct done L)
    (hs : s.external = true) (hlt : done.countP (·.external) < skill.maxExternalSteps) :
    Conduct (done ++ [s]) (L ++ [.hook (.ok ())] ++ [.act s handle value answer])

/-- A record a replay may end with: the hook may have refused. -/
inductive Closed : List SkillStep → Transcript η → Prop
  | conduct {done : List SkillStep} {L : Transcript η} (h : Conduct skill hook done L) :
    Closed done L
  | refused {done : List SkillStep} {L : Transcript η} {e : Raised}
    (h : Conduct skill hook done L) : Closed done (L ++ [.hook (.error e)])

end

end AutomationTool.Executor.Skills
