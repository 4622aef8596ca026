import Mathlib

/-!
# The declarative automation skill

The parsed document of `automation_skill.py`: a skill walks its steps by
semantic anchors, checks conditions around each of them, and is proved by its
success evidence. The closed vocabularies are those of
`contracts/browser-use/automation-skill.v1.json`.
-/
namespace AutomationTool.Executor.Skills

inductive Platform | douyin | bilibili
deriving DecidableEq, Repr

inductive Language | zhCN
deriving DecidableEq, Repr

inductive FingerprintKind | domOutlineV1
deriving DecidableEq, Repr

inductive ActionKind | click | fill | pressKey | scroll | wait
deriving DecidableEq, Repr

inductive PressKey | enter | escape | tab | arrowDown | arrowUp
deriving DecidableEq, Repr

inductive ScrollDirection | up | down
deriving DecidableEq, Repr

inductive ConditionKind | elementVisible | elementAbsent | urlMatches | urlPrefixMatches
deriving DecidableEq, Repr

inductive EvidenceKind | urlMatches | urlPrefixMatches | elementVisible | clickPointV1
deriving DecidableEq, Repr

inductive GoalRole
  | button | link | textbox | combobox | checkbox | radio | tab | menuitem | listitem | dialog
  | img | status
deriving DecidableEq, Repr

inductive RelativePosition | above | below | leftOf | rightOf | inside
deriving DecidableEq, Repr

inductive RiskLevel | low | medium | high
deriving DecidableEq, Repr

/-- A closed vocabulary of the contract: its words in order, and their spelling. -/
class Vocabulary (τ : Type) where
  words : List τ
  value : τ → String

instance : Vocabulary Platform where
  words := [.douyin, .bilibili]
  value
    | .douyin => "douyin"
    | .bilibili => "bilibili"

instance : Vocabulary Language where
  words := [.zhCN]
  value
    | .zhCN => "zh-CN"

instance : Vocabulary FingerprintKind where
  words := [.domOutlineV1]
  value
    | .domOutlineV1 => "dom_outline_v1"

instance : Vocabulary ActionKind where
  words := [.click, .fill, .pressKey, .scroll, .wait]
  value
    | .click => "click"
    | .fill => "fill"
    | .pressKey => "press_key"
    | .scroll => "scroll"
    | .wait => "wait"

instance : Vocabulary PressKey where
  words := [.enter, .escape, .tab, .arrowDown, .arrowUp]
  value
    | .enter => "Enter"
    | .escape => "Escape"
    | .tab => "Tab"
    | .arrowDown => "ArrowDown"
    | .arrowUp => "ArrowUp"

instance : Vocabulary ScrollDirection where
  words := [.up, .down]
  value
    | .up => "up"
    | .down => "down"

instance : Vocabulary ConditionKind where
  words := [.elementVisible, .elementAbsent, .urlMatches, .urlPrefixMatches]
  value
    | .elementVisible => "element_visible"
    | .elementAbsent => "element_absent"
    | .urlMatches => "url_matches"
    | .urlPrefixMatches => "url_prefix_matches"

instance : Vocabulary EvidenceKind where
  words := [.urlMatches, .urlPrefixMatches, .elementVisible, .clickPointV1]
  value
    | .urlMatches => "url_matches"
    | .urlPrefixMatches => "url_prefix_matches"
    | .elementVisible => "element_visible"
    | .clickPointV1 => "click_point_v1"

instance : Vocabulary GoalRole where
  words := [.button, .link, .textbox, .combobox, .checkbox, .radio, .tab, .menuitem, .listitem,
    .dialog, .img, .status]
  value
    | .button => "button"
    | .link => "link"
    | .textbox => "textbox"
    | .combobox => "combobox"
    | .checkbox => "checkbox"
    | .radio => "radio"
    | .tab => "tab"
    | .menuitem => "menuitem"
    | .listitem => "listitem"
    | .dialog => "dialog"
    | .img => "img"
    | .status => "status"

instance : Vocabulary RelativePosition where
  words := [.above, .below, .leftOf, .rightOf, .inside]
  value
    | .above => "above"
    | .below => "below"
    | .leftOf => "left_of"
    | .rightOf => "right_of"
    | .inside => "inside"

instance : Vocabulary RiskLevel where
  words := [.low, .medium, .high]
  value
    | .low => "low"
    | .medium => "medium"
    | .high => "high"

structure SkillGoal where
  role : GoalRole
  name : String
  nearText : Option String
  relativePosition : Option RelativePosition
deriving DecidableEq, Repr

structure SkillCondition where
  kind : ConditionKind
  role : Option GoalRole
  name : Option String
  pattern : Option String
deriving DecidableEq, Repr

structure SkillAction where
  kind : ActionKind
  parameter : Option String
  key : Option PressKey
  direction : Option ScrollDirection
deriving DecidableEq, Repr

structure SkillStep where
  index : Nat
  goal : SkillGoal
  action : SkillAction
  preconditions : List SkillCondition
  postconditions : List SkillCondition
  timeoutSeconds : Nat
  external : Bool
  checkpoint : Bool
deriving DecidableEq, Repr

structure SkillEvidence where
  kind : EvidenceKind
  pattern : Option String
  role : Option GoalRole
  name : Option String
  stepIndex : Option Nat
  x : Option Nat
  y : Option Nat
deriving DecidableEq, Repr

structure AutomationSkill where
  skillId : String
  version : Nat
  parentVersion : Option Nat
  platform : Platform
  domain : String
  pathPattern : String
  fingerprintKind : FingerprintKind
  fingerprintSha256 : String
  language : Language
  viewportWidth : Nat
  viewportHeight : Nat
  riskLevel : RiskLevel
  maxExternalSteps : Nat
  steps : List SkillStep
  successEvidence : List SkillEvidence
deriving DecidableEq, Repr

namespace AutomationSkill

variable (skill : AutomationSkill)

def externalStepCount : Nat := skill.steps.countP (·.external)

/-- `[step.index for step in skill.steps]`. -/
def stepIndexes : List Nat := skill.steps.map (·.index)

end AutomationSkill

end AutomationTool.Executor.Skills
