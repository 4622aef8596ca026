import AutomationTool.Core.Json
import AutomationTool.ControlPlane.Domain

/-!
# What the client takes for a task

`task-projections.ts`: the schemas of a task's snapshot and of its events. A value that
does not meet its schema is refused as a whole; what is read is a record with the checked
fields. `event_version` is a literal and left out of the record.
-/
namespace AutomationTool.Desktop.TaskRuns

open ControlPlane (TaskStatus TaskEventType)

/-! ## Texts -/

def isDigit (c : Char) : Bool := '0' ≤ c && c ≤ '9'

def isLowerHex (c : Char) : Bool := isDigit c || ('a' ≤ c && c ≤ 'f')

/-- `canonicalUuidV4`.
mirrors task-projections.ts:4-5 -/
def isCanonicalUuidV4 (value : List Char) : Bool :=
  value.length = 36 && value.zipIdx.all fun (c, i) =>
    if i = 8 || i = 13 || i = 18 || i = 23 then c = '-'
    else if i = 14 then c = '4'
    else if i = 19 then c = '8' || c = '9' || c = 'a' || c = 'b'
    else isLowerHex c

/-- `\d{count}`, as a number, and the rest. -/
def readDigits (count : Nat) (value : List Char) : Option (Nat × List Char) :=
  let digits := value.take count
  if digits.length = count && digits.all isDigit then
    some (digits.foldl (fun n c => 10 * n + (c.toNat - '0'.toNat)) 0, value.drop count)
  else none

def skip (c : Char) : List Char → Option (List Char)
  | d :: rest => if c = d then some rest else none
  | [] => none

/-- `(?:\.(\d{1,6}))?`, as microseconds, and the rest. -/
def readFraction : List Char → Option (Nat × List Char)
  | '.' :: rest => do
    let digits := rest.takeWhile isDigit
    if 1 ≤ digits.length ∧ digits.length ≤ 6 then
      let (n, rest) ← readDigits digits.length rest
      return (n * 10 ^ (6 - digits.length), rest)
    else none
  | rest => some (0, rest)

def isLeap (year : Nat) : Bool := year % 4 = 0 && (year % 100 ≠ 0 || year % 400 = 0)

def monthDays (year month : Nat) : Nat :=
  if month = 2 then (if isLeap year then 29 else 28)
  else if month = 4 || month = 6 || month = 9 || month = 11 then 30 else 31

/-- The days from the first of January of the year 1 to a date. -/
def daysBefore (year month day : Nat) : Nat :=
  365 * (year - 1) + (year - 1) / 4 - (year - 1) / 100 + (year - 1) / 400 +
    ((List.range' 1 (month - 1)).map (monthDays year)).sum + (day - 1)

/-- Microseconds since 1970. `Date` carries what is too large over to the next unit, which
the source finds by reading the units back.
mirrors task-projections.ts:14-52 -/
def parseCanonicalUtcTimestamp (value : List Char) : Option Int := do
  let (year, rest) ← readDigits 4 value
  let (month, rest) ← readDigits 2 (← skip '-' rest)
  let (day, rest) ← readDigits 2 (← skip '-' rest)
  let (hour, rest) ← readDigits 2 (← skip 'T' rest)
  let (minute, rest) ← readDigits 2 (← skip ':' rest)
  let (second, rest) ← readDigits 2 (← skip ':' rest)
  let (fraction, rest) ← readFraction rest
  if ¬(rest = "Z".toList ∨ rest = "+00:00".toList) then none
  else if year < 1 ∨ month < 1 ∨ 12 < month ∨ day < 1 ∨ monthDays year month < day ∨
      24 ≤ hour ∨ 60 ≤ minute ∨ 60 ≤ second then none
  else
    let days : Int := (daysBefore year month day : Int) - 719162
    some (((days * 24 + hour) * 60 + minute) * 60 * 1000000 + second * 1000000 + fraction)

/-- mirrors task-projections.ts:54-65 -/
def containsControlOrBidi (value : List Char) : Bool :=
  value.any fun c =>
    let point := c.toNat
    point < 0x20 || point = 0x7f || (0x202a ≤ point && point ≤ 0x202e) ||
      (0x2066 ≤ point && point ≤ 0x2069)

/-- What `\s` matches. -/
def isSpace (c : Char) : Bool :=
  let n := c.toNat
  (9 ≤ n && n ≤ 13) || n = 0x20 || n = 0xa0 || n = 0x1680 || (0x2000 ≤ n && n ≤ 0x200a) ||
    n = 0x2028 || n = 0x2029 || n = 0x202f || n = 0x205f || n = 0x3000 || n = 0xfeff

/-- A character of `[a-z0-9_]`, in a text whose ASCII letters are small. -/
def isWord (c : Char) : Bool := ('a' ≤ c && c ≤ 'z') || isDigit c || c = '_'

/-- `RegExp.test`: some place of the text, after the character before it, matches. -/
def search (matchesAt : Option Char → List Char → Bool) : Option Char → List Char → Bool
  | before, [] => matchesAt before []
  | before, c :: rest => matchesAt before (c :: rest) || search matchesAt (some c) rest

def includes (part : String) (value : List Char) : Bool :=
  search (fun _ rest => part.toList.isPrefixOf rest) none value

/-- One of several words at the start of a text, and what follows it. -/
def afterWord (words : List String) (rest : List Char) (follows : List Char → Bool) : Bool :=
  words.any fun w => w.toList.isPrefixOf rest && follows (rest.drop w.length)

/-- The names that `sensitiveMessage` lists, with the optional separators written out. -/
def sensitiveNames : List String :=
  ["access_token", "access-token", "accesstoken", "api_key", "api-key", "apikey", "authorization",
    "cookie", "credential", "password", "private_key", "private-key", "privatekey",
    "refresh_token", "refresh-token", "refreshtoken", "secret", "session_cookie",
    "session-cookie", "sessioncookie", "token"]

/-- mirrors task-projections.ts:8-9 -/
def sensitiveMessage (value : List Char) : Bool :=
  search (fun before rest => !before.any isWord &&
    afterWord sensitiveNames rest fun rest =>
      ((rest.dropWhile isSpace).head?.any fun c => c = ':' || c = '=')) none value

/-- `[a-z0-9.+-]`. -/
def isMediaType (c : Char) : Bool :=
  ('a' ≤ c && c ≤ 'z') || isDigit c || c = '.' || c = '+' || c = '-'

/-- mirrors task-projections.ts:10 -/
def inlineDataUri (value : List Char) : Bool :=
  search (fun before rest => !before.any isWord &&
    afterWord ["data:"] rest fun rest =>
      !(rest.takeWhile isMediaType).isEmpty &&
        match rest.dropWhile isMediaType with
        | '/' :: rest => rest.head?.any isMediaType && rest.contains ','
        | _ => false) none value

/-- The start of a text, a space, a quotation mark or an equals sign. -/
def opens (before : Option Char) : Bool :=
  before.all fun c => isSpace c || c.toNat = 0x22 || c.toNat = 0x27 || c = '='

/-- mirrors task-projections.ts:11 -/
def privatePosixPath (value : List Char) : Bool :=
  search (fun before rest => opens before &&
    afterWord ["/users", "/home", "/root", "/tmp", "/var/folders"] rest fun rest =>
      rest.head?.all (· = '/')) none value

/-- mirrors task-projections.ts:12 -/
def windowsAbsolutePath (value : List Char) : Bool :=
  search (fun before rest => opens before &&
    match rest with
    | drive :: ':' :: slash :: _ => 'a' ≤ drive && drive ≤ 'z' && (slash.toNat = 0x5c || slash = '/')
    | _ => false) none value

/-- The length of a JavaScript string. -/
def utf16Length (value : List Char) : Nat := (value.map fun c => if c.toNat < 0x10000 then 1 else 2).sum

/-- `safeMessageSchema`. The patterns ignore the case of ASCII letters.
mirrors task-projections.ts:116-130 -/
def safeMessage (value : List Char) : Bool :=
  let lower := value.map Char.toLower
  1 ≤ utf16Length value && utf16Length value ≤ 1024 && !containsControlOrBidi value &&
    !includes "bearer " lower && !includes "file://" lower && !sensitiveMessage lower &&
    !inlineDataUri lower && !privatePosixPath lower && !windowsAbsolutePath lower

/-! ## Vocabularies -/

/-- mirrors task-projections.ts:67-84 -/
def taskStatuses : List (String × TaskStatus) :=
  [("draft", .draft), ("validating", .validating), ("awaiting_device", .awaitingDevice),
    ("awaiting_platform_login", .awaitingPlatformLogin),
    ("discovering_targets", .discoveringTargets),
    ("awaiting_confirmation", .awaitingConfirmation), ("queued", .queued), ("running", .running),
    ("paused", .paused), ("awaiting_human", .awaitingHuman), ("cancelling", .cancelling),
    ("succeeded", .succeeded), ("partially_succeeded", .partiallySucceeded), ("failed", .failed),
    ("cancelled", .cancelled), ("outcome_uncertain", .outcomeUncertain)]

/-- mirrors task-projections.ts:85-108 -/
def taskEventTypes : List (String × TaskEventType) :=
  [("task.created", .taskCreated), ("task.validation_started", .taskValidationStarted),
    ("task.validation_failed", .taskValidationFailed),
    ("task.awaiting_platform_login", .taskAwaitingPlatformLogin),
    ("task.discovery_started", .taskDiscoveryStarted),
    ("task.awaiting_confirmation", .taskAwaitingConfirmation),
    ("task.target_selection_updated", .taskTargetSelectionUpdated),
    ("task.targets_confirmed", .taskTargetsConfirmed), ("task.started", .taskStarted),
    ("step.started", .stepStarted), ("step.progress", .stepProgress),
    ("step.completed", .stepCompleted), ("step.failed", .stepFailed),
    ("task.awaiting_human", .taskAwaitingHuman), ("task.paused", .taskPaused),
    ("task.resumed", .taskResumed), ("task.cancelling", .taskCancelling),
    ("task.cancelled", .taskCancelled), ("task.completed", .taskCompleted),
    ("task.partially_completed", .taskPartiallyCompleted), ("task.failed", .taskFailed),
    ("task.outcome_uncertain", .taskOutcomeUncertain)]

/-- `z.enum`. -/
def enum {α : Type} (table : List (String × α)) : Json → Option α
  | .str text => (table.find? fun e => e.1.toList = text).map (·.2)
  | _ => none

def maxSafeInteger : Nat := 2 ^ 53 - 1

/-- `z.number().int().min(least).max(greatest)`. -/
def integer (least greatest : Nat) : Json → Option Nat
  | .int n => if (least : Int) ≤ n ∧ n ≤ greatest then some n.toNat else none
  | .float x => if x.den = 1 ∧ (least : Int) ≤ x.num ∧ x.num ≤ greatest then some x.num.toNat else none
  | _ => none

/-- A string that meets a check. -/
def text (check : List Char → Bool) (j : Json) : Option (List Char) := j.str?.filter check

def uuid : Json → Option (List Char) := text isCanonicalUuidV4

def timestamp : Json → Option (List Char) := text fun t => (parseCanonicalUtcTimestamp t).isSome

/-! ## Snapshots and events -/

structure TaskSnapshot where
  taskId : List Char
  status : TaskStatus
  revision : Nat
  lastEventSequence : Nat
  createdAt : List Char
  updatedAt : List Char
  deriving DecidableEq

/-- `parseTaskSnapshot`: a value that misses its schema is none.
mirrors task-projections.ts:131-150 -/
def parseTaskSnapshot (value : Json) : Option TaskSnapshot := do
  let members ← Json.fields
    ["taskId", "status", "revision", "lastEventSequence", "createdAt", "updatedAt"] value
  let s : TaskSnapshot :=
    { taskId := ← Json.required members "taskId" uuid
      status := ← Json.required members "status" (enum taskStatuses)
      revision := ← Json.required members "revision" (integer 1 maxSafeInteger)
      lastEventSequence := ← Json.required members "lastEventSequence" (integer 0 maxSafeInteger)
      createdAt := ← Json.required members "createdAt" timestamp
      updatedAt := ← Json.required members "updatedAt" timestamp }
  let createdAt ← parseCanonicalUtcTimestamp s.createdAt
  let updatedAt ← parseCanonicalUtcTimestamp s.updatedAt
  if createdAt ≤ updatedAt ∧ s.lastEventSequence ≤ s.revision then some s else none

structure TaskEvent where
  taskId : List Char
  sequence : Nat
  eventType : TaskEventType
  taskRevision : Nat
  taskStatus : TaskStatus
  executionAttemptId : Option (List Char)
  actionId : Option (List Char)
  progressPercent : Option Nat
  occurredAt : List Char
  recordedAt : List Char
  message : Option (List Char)
  deriving DecidableEq

def eventKeys : List String :=
  ["taskId", "sequence", "eventVersion", "eventType", "taskRevision", "taskStatus",
    "executionAttemptId", "actionId", "progressPercent", "occurredAt", "recordedAt", "message"]

/-- `parseTaskEvent`: a value that misses its schema is none.
mirrors task-projections.ts:152-179 -/
def parseTaskEvent (value : Json) : Option TaskEvent := do
  let members ← Json.fields eventKeys value
  let _ ← Json.required members "eventVersion" (text fun t => t = "1.0".toList)
  let e : TaskEvent :=
    { taskId := ← Json.required members "taskId" uuid
      sequence := ← Json.required members "sequence" (integer 1 maxSafeInteger)
      eventType := ← Json.required members "eventType" (enum taskEventTypes)
      taskRevision := ← Json.required members "taskRevision" (integer 1 maxSafeInteger)
      taskStatus := ← Json.required members "taskStatus" (enum taskStatuses)
      executionAttemptId := ← Json.required members "executionAttemptId" (Json.option? uuid)
      actionId := ← Json.required members "actionId" (Json.option? uuid)
      progressPercent := ← Json.required members "progressPercent" (Json.option? (integer 0 100))
      occurredAt := ← Json.required members "occurredAt" timestamp
      recordedAt := ← Json.required members "recordedAt" timestamp
      message := ← Json.required members "message" (Json.option? (text safeMessage)) }
  let occurredAt ← parseCanonicalUtcTimestamp e.occurredAt
  let recordedAt ← parseCanonicalUtcTimestamp e.recordedAt
  if recordedAt < occurredAt then none
  else if e.actionId ≠ none ∧ e.executionAttemptId = none then none
  else if e.eventType ≠ .stepProgress ∧ e.progressPercent ≠ none then none
  else some e

end AutomationTool.Desktop.TaskRuns
