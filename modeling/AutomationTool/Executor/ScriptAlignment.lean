import AutomationTool.Core.MemoSearch

/-!
# A transcript against its script

A recording of a script is approved when its transcript can be cut into one slice for every
sentence, where each slice proves its sentence: it is near enough to it, nearer than to any
other, and what its neighbours might have lent it does not explain it. The texts are
normalized, over any characters.

The search for the cuts tries ends near the expected ones first, only those that leave the
other sentences as much as they need, remembers where it has failed, and works on three
budgets. `limits` are the budgets, `none` for none.
-/
namespace AutomationTool.Executor.ScriptAlignment

open MemoSearch

variable {α : Type} [DecidableEq α]

/-! ## Budgets -/

structure Limits where
  candidateChecks : Option Nat
  distanceDpCells : Option Nat
  adjacentDpCells : Option Nat

def alignmentLimits : Limits where
  candidateChecks := some 1024
  distanceDpCells := some 40000000
  adjacentDpCells := some 4000000

def unlimited : Limits := ⟨none, none, none⟩

/-- The variables of `_sentences_align`. `stopped`: a candidate was not looked at because there had
been too many. A state is the sentence and the last three ends, the last one first. -/
structure Work where
  candidateChecks : Nat := 0
  distanceDpCells : Nat := 0
  adjacentDpCells : Nat := 0
  failedStates : List (Nat × List Nat) := []
  stopped : Bool := false

/-- A computation on the budgets, which breaks off with `_AlignmentBudgetExhausted`. -/
abbrev Alignment := Search Work

section

variable (limits : Limits)

/-- mirrors script_recording.py:462-467 -/
def consumeWork : Alignment Bool := fun w =>
  if limits.candidateChecks.any (w.candidateChecks ≥ ·) then some (false, { w with stopped := true })
  else some (true, { w with candidateChecks := w.candidateChecks + 1 })

/-- mirrors script_recording.py:430-439 -/
def consumeDistanceDpCells (required : Nat) : Alignment Unit := fun w =>
  if required < 1 ∨ limits.distanceDpCells.any (w.distanceDpCells + required > ·) then none
  else some ((), { w with distanceDpCells := w.distanceDpCells + required })

/-- mirrors script_recording.py:469-478 -/
def consumeAdjacentDpCells (required : Nat) : Alignment Unit := fun w =>
  if required < 1 ∨ limits.adjacentDpCells.any (w.adjacentDpCells + required > ·) then none
  else some ((), { w with adjacentDpCells := w.adjacentDpCells + required })

end

/-! ## Distances -/

/-- The rest of a row of the table, behind a value that has been computed. The row is that of the
`index`-th character, and its entries further than `maximum` from there are left out. -/
def advanceFrom (maximum index : Nat) (character : α) : Nat → Nat → List α → List Nat → List Nat
  | position, left, expected :: rest, diagonal :: above :: previous =>
    let value :=
      if index ≤ position + maximum ∧ position ≤ index + maximum then
        min (min (left + 1) (above + 1)) (diagonal + if expected ≠ character then 1 else 0)
      else maximum + 1
    value :: advanceFrom maximum index character (position + 1) value rest (above :: previous)
  | _, _, _, _ => []

/-- mirrors script_recording.py:286-299 -/
def advance (expected : List α) (maximum : Nat) (previous : List Nat) (index : Nat)
    (character : α) : List Nat :=
  let first := if index ≤ maximum then index else maximum + 1
  first :: advanceFrom maximum index character 1 first expected previous

/-- The row before the first character. -/
def firstRow (expected : List α) (maximum : Nat) : List Nat :=
  (List.range (expected.length + 1)).map fun index =>
    if index ≤ min expected.length maximum then index else maximum + 1

/-- The rows behind `previous`, for the characters of `actual` in turn. -/
def rows (expected : List α) (maximum : Nat) : List Nat → Nat → List α → List (List Nat)
  | _, _, [] => []
  | previous, index, character :: actual =>
    let row := advance expected maximum previous index character
    row :: rows expected maximum row (index + 1) actual

/-- mirrors script_recording.py:147-173 -/
def levenshteinDistance (left right : List α) (maximum : Nat) : Nat :=
  let (left, right) := if left.length > right.length then (right, left) else (left, right)
  let first := firstRow left maximum
  ((rows left maximum first 1 right).getLast?.getD first).getLast?.getD 0

/-- mirrors script_recording.py:272-310 -/
def boundedExtensionDistances (expected baseActual extension : List α) (maximum : Nat) : List Nat :=
  let first := firstRow expected maximum
  let table := first :: rows expected maximum first 1 (baseActual ++ extension)
  (table.drop baseActual.length).map fun row => row.getLast?.getD 0

/-- mirrors script_recording.py:176-204 -/
def alignmentDistance (limits : Limits) (scriptText transcript : List α)
    (maximumDistance : Option Nat) : Alignment (Option Nat) :=
  let maximum := max scriptText.length transcript.length
  if scriptText = [] ∨ transcript = [] then pure none
  else if scriptText = transcript then pure (some 0)
  else if maximum ≤ 4 then pure none
  else
    let allowed := maximum * 15 / 100
    let allowed := match maximumDistance with
      | none => allowed
      | some distance => min allowed distance
    if maximum - min scriptText.length transcript.length > allowed then pure none
    else do
      consumeDistanceDpCells limits (maximum * (min scriptText.length transcript.length + 1))
      let distance := levenshteinDistance scriptText transcript allowed
      pure (if distance > allowed then none else some distance)

/-- mirrors script_recording.py:222-229 -/
def alignedSliceLengthBounds (expected : List α) : Nat × Nat :=
  (max 1 (expected.length - expected.length * 15 / 100), expected.length * 100 / (100 - 15))

/-! ## Slices -/

section

variable (limits : Limits) (sentences : List (List α))

/-- The distance to another sentence, where it can be as small. -/
def otherDistance (other actual : List α) (expectedDistance : Nat) : Alignment (Option Nat) :=
  if expectedDistance = 0 then pure none
  else alignmentDistance limits other actual (some expectedDistance)

/-- None of the other sentences explains the slice as well.
mirrors script_recording.py:244-268 -/
def provesAgainst (expected actual : List α) (expectedDistance : Nat) :
    List (List α) → Alignment Bool
  | [] => pure true
  | other :: others =>
    if other = expected then provesAgainst expected actual expectedDistance others
    else do
      if (← otherDistance limits other actual expectedDistance).isSome then pure false
      else if actual <:+: other then pure false
      else provesAgainst expected actual expectedDistance others

/-- mirrors script_recording.py:232-269 -/
def sliceProvesSentence (sentenceIndex : Nat) (actual : List α) : Alignment Bool := do
  let expected := sentences.getD sentenceIndex []
  match ← alignmentDistance limits expected actual none with
  | none => pure false
  | some expectedDistance =>
    provesAgainst limits expected actual expectedDistance (sentences.eraseIdx sentenceIndex)

/-- mirrors script_recording.py:313-321 -/
def distanceIsWithinAlignment (expectedLength actualLength distance maximumDistance : Nat) : Bool :=
  distance ≤ min (max expectedLength actualLength * 15 / 100) maximumDistance

/-- Where the slice might be cut into what its neighbours have lent it.
mirrors script_recording.py:346-358 -/
def plausibleBoundaries (previous following previousActual actual followingActual : List α)
    (currentAdjacentDistance : Nat) : List Nat :=
  (List.range' 1 (actual.length - 1)).filter fun boundary =>
    actual.take boundary <:+ previous ∧ actual.drop boundary <+: following ∧
      let previousLength := previousActual.length + boundary
      let followingLength := actual.length - boundary + followingActual.length
      (max previous.length previousLength - min previous.length previousLength) +
        (max following.length followingLength - min following.length followingLength) ≤
          currentAdjacentDistance

/-- mirrors script_recording.py:322-402 -/
def slicePreservesAdjacentBoundaries (sentenceIndex : Nat)
    (previousActual actual followingActual : List α) : Alignment Bool := do
  let previous := sentences.getD (sentenceIndex - 1) []
  let following := sentences.getD (sentenceIndex + 1) []
  let previousDistance ← alignmentDistance limits previous previousActual none
  let followingDistance ← alignmentDistance limits following followingActual none
  match previousDistance, followingDistance with
  | some previousDistance, some followingDistance =>
    let current := previousDistance + followingDistance
    let boundaries :=
      plausibleBoundaries previous following previousActual actual followingActual current
    if boundaries = [] then pure true
    else do
      consumeAdjacentDpCells limits
        ((previousActual.length + actual.length) * (previous.length + 1) +
          (followingActual.length + actual.length) * (following.length + 1))
      let previousDistances := boundedExtensionDistances previous previousActual actual current
      let followingDistances := boundedExtensionDistances following.reverse followingActual.reverse
        actual.reverse current
      pure (boundaries.all fun boundary =>
        let distance := previousDistances.getD boundary 0
        let extension := actual.length - boundary
        !(distanceIsWithinAlignment previous.length (previousActual.length + boundary) distance
            current &&
          distanceIsWithinAlignment following.length (followingActual.length + extension)
            (followingDistances.getD extension 0) (current - distance)))
  | _, _ => pure false

end

/-! ## The search -/

/-- mirrors script_recording.py:405-421 -/
def candidateEnds (first last preferred : Nat) : List Nat :=
  let centered := max first (min preferred last)
  centered :: (List.range' 1 (max (centered - first) (last - centered))).flatMap fun offset =>
    (if first + offset ≤ centered then [centered - offset] else []) ++
      if centered + offset ≤ last then [centered + offset] else []

/-- `transcript[start:stop]`. -/
def slice (transcript : List α) (start stop : Nat) : List α :=
  (transcript.take stop).drop start

/-- `minimum_suffix` and `maximum_suffix`, from a sentence on. -/
def suffixBounds (sentences : List (List α)) : Nat × Nat :=
  ((sentences.map fun s => (alignedSliceLengthBounds s).1).sum,
    (sentences.map fun s => (alignedSliceLengthBounds s).2).sum)

section

variable (limits : Limits) (sentences : List (List α)) (transcript : List α)

/-- Whether a slice may follow those that end at `ends`, the last one first.
mirrors script_recording.py:505-527 -/
def acceptsEnd (sentenceIndex transcriptStart : Nat) (ends : List Nat) (transcriptEnd : Nat) :
    Alignment Bool := do
  let actual := slice transcript transcriptStart transcriptEnd
  if !(← sliceProvesSentence limits sentences sentenceIndex actual) then pure false
  else if sentenceIndex < 2 then pure true
  else
    let previousStart := if sentenceIndex = 2 then 0 else ends.getD 2 0
    let middleStart := ends.getD 1 0
    slicePreservesAdjacentBoundaries limits sentences (sentenceIndex - 1)
      (slice transcript previousStart middleStart) (slice transcript middleStart transcriptStart)
      actual

/-- `partition_from`, with `left` sentences to go.
mirrors script_recording.py:480-538 -/
def partitionFrom : (left transcriptStart : Nat) → (ends : List Nat) → Alignment Bool
  | 0, transcriptStart, _ => pure (transcriptStart = transcript.length)
  | left + 1, transcriptStart, ends =>
    let sentenceIndex := sentences.length - (left + 1)
    let expected := sentences.getD sentenceIndex []
    let (minimum, maximum) := alignedSliceLengthBounds expected
    let (minimumSuffix, maximumSuffix) := suffixBounds (sentences.drop (sentenceIndex + 1))
    let firstEnd := max (transcriptStart + minimum) (transcript.length - maximumSuffix)
    let lastEnd := min (transcriptStart + maximum) (transcript.length - minimumSuffix)
    memoised Work.failedStates
      (fun state w => { w with failedStates := state :: w.failedStates })
      (sentenceIndex, ends.take 3)
      (attempt (consumeWork limits)
        (acceptsEnd limits sentences transcript sentenceIndex transcriptStart ends)
        (fun transcriptEnd => partitionFrom left transcriptEnd (transcriptEnd :: ends))
        (candidateEnds firstEnd lastEnd (transcriptStart + expected.length)))

/-- mirrors script_recording.py:424-545 -/
def alignSentences : Alignment Bool := do
  match ← alignmentDistance limits sentences.flatten transcript none with
  | none => pure false
  | some _ =>
    let (minimum, maximum) := suffixBounds sentences
    if ¬(minimum ≤ transcript.length ∧ transcript.length ≤ maximum) then pure false
    else partitionFrom limits sentences transcript sentences.length 0 []

/-- `_sentences_align`. -/
def sentencesAlign : Bool :=
  match alignSentences limits sentences transcript {} with
  | none => false
  | some (aligned, _) => aligned

/-- One of the budgets has not been enough. -/
def Exhausted : Prop :=
  match alignSentences limits sentences transcript {} with
  | none => True
  | some (_, w) => w.stopped = true

end

end AutomationTool.Executor.ScriptAlignment
