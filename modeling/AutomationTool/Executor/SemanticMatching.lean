import AutomationTool.Core.Chunks
import AutomationTool.Core.Json
import AutomationTool.Editing.Materials

/-!
# Which material shows what a sentence says

A model scores every pair of a sentence and a material. The sentences go to it in batches,
each with all the materials; its replies are not trusted. The scores become one ranking of
the materials for each sentence.

The model is asked once for each batch; `adapter k request` is what comes of the `k`-th
call, `none` when it raised or returned something else. The content of a reply is the JSON
value read from its text, `none` when there is no such value.

* `parseScores_eq_some`: a reply counts only when its entries are the pairs of its request,
  each once.
* `matchScriptMaterials_spec`: a result holds for every pair the score of its one entry in all
  the replies, ranked; anything else is rejected, and the order of the entries is no matter.
-/
namespace AutomationTool.Executor.SemanticMatching

open Editing Protocol

/-- mirrors semantic_matching.py:46-62 -/
def maxRequestIdCharacters : Nat := 512
def maxRequestBytes : Nat := 2 * 1024 * 1024
def maxSemanticMaterials : Nat := 32
def semanticSentencesPerRequest : Nat := 16
def semanticMatchScoreThreshold : Nat := 60

/-- mirrors script_segmentation.py:43-46 -/
def maxScriptSentences : Nat := 128
def maxScriptSentenceCharacters : Nat := 1000
def maxScriptTotalCharacters : Nat := 4000

section

variable [UnicodeData]

/-- mirrors semantic_matching.py:76-92 -/
def acceptsText (maximum : Nat) (allowedControls : List Char) (value : List Char) : Bool :=
  value ≠ [] ∧ value.head?.any UnicodeData.isSpace = false ∧
    value.getLast?.any UnicodeData.isSpace = false ∧ value.length ≤ maximum ∧
    value.all fun c => c ∈ allowedControls ∨ UnicodeData.isOther c = false

/-- mirrors script_segmentation.py:151-160; the same
checks hold of a `SemanticMatchingSentence` -/
structure ScriptSentence where
  sequence : Nat
  text : List Char
  sequence_pos : 1 ≤ sequence
  sequence_le : sequence ≤ maxScriptSentences
  accepted : acceptsText maxScriptSentenceCharacters [] text = true

/-- mirrors script_segmentation.py:163-181 -/
structure ScriptSegmentationResult where
  sentences : List ScriptSentence
  nonempty : sentences ≠ []
  length_le : sentences.length ≤ maxScriptSentences
  sequences : sentences.map (·.sequence) = List.range' 1 sentences.length
  total : (sentences.map (·.text.length)).sum ≤ maxScriptTotalCharacters

/-- mirrors semantic_matching.py:126-162 -/
structure SemanticMatchingCandidate where
  candidateKey : List Char
  description : List Char
  tags : List (List Char)
  transcript : Option (List Char)
  deriving DecidableEq

/-- mirrors semantic_matching.py:135-162; the pattern of
the key is left out, every key is made by `candidateKey` -/
def SemanticMatchingCandidate.accepted (c : SemanticMatchingCandidate) : Bool :=
  acceptsText maxDescriptionCharacters ['\n', '\t'] c.description ∧ c.tags.length ≤ maxTags ∧
    c.tags.Nodup ∧ c.tags.all (acceptsText maxTagCharacters []) ∧
    c.transcript.all (acceptsText maxTranscriptCharacters ['\n', '\t'])

/-- mirrors semantic_matching.py:165-188 -/
structure SemanticMatchingRequest where
  sentences : List ScriptSentence
  candidates : List SemanticMatchingCandidate
  sentences_nonempty : sentences ≠ []
  sentences_le : sentences.length ≤ semanticSentencesPerRequest
  sequences : (sentences.map (·.sequence)).Nodup
  candidates_nonempty : candidates ≠ []
  candidates_le : candidates.length ≤ maxSemanticMaterials
  keys : (candidates.map (·.candidateKey)).Nodup

/-- The constructor of a request; `none` when it rejects. -/
def SemanticMatchingRequest.make (sentences : List ScriptSentence)
    (candidates : List SemanticMatchingCandidate) : Option SemanticMatchingRequest :=
  if h : (sentences ≠ [] ∧ sentences.length ≤ semanticSentencesPerRequest ∧
      (sentences.map (·.sequence)).Nodup) ∧ candidates ≠ [] ∧
      candidates.length ≤ maxSemanticMaterials ∧ (candidates.map (·.candidateKey)).Nodup then
    some ⟨sentences, candidates, h.1.1, h.1.2.1, h.1.2.2, h.2.1, h.2.2.1, h.2.2.2⟩
  else none

/-- mirrors semantic_matching.py:239-255; the checks of
its content are part of reading it -/
structure SemanticMatchingReply where
  requestId : List Char
  content : Option Json
  finishReason : List Char
  accepted : acceptsText maxRequestIdCharacters [] requestId = true

end

/-- A score; the reader of a reply and the constructor of a candidate's score both refuse
others. -/
structure Score where
  value : Nat
  value_le : value ≤ 100
  deriving DecidableEq

/-- mirrors semantic_matching.py:258-274 -/
structure SemanticCandidateScore where
  materialId : MaterialId
  score : Score
  qualified : Bool
  threshold : qualified = decide (semanticMatchScoreThreshold ≤ score.value)
  deriving DecidableEq

/-- mirrors semantic_matching.py:277-295 -/
@[ext] structure SemanticSentenceMatches where
  sequence : Nat
  candidates : List SemanticCandidateScore
  sequence_pos : 1 ≤ sequence
  sequence_le : sequence ≤ maxScriptSentences
  nonempty : candidates ≠ []
  length_le : candidates.length ≤ maxSemanticMaterials
  ids : (candidates.map (·.materialId)).Nodup

instance : DecidableEq SemanticSentenceMatches := fun _ _ => decidable_of_iff' _ SemanticSentenceMatches.ext_iff

/-- mirrors semantic_matching.py:298-319 -/
structure SemanticMatchingResult where
  requestIds : List (List Char)
  sentences : List SemanticSentenceMatches
  requestIds_nonempty : requestIds ≠ []
  requestIds_nodup : requestIds.Nodup
  nonempty : sentences ≠ []
  sequences : sentences.map (·.sequence) = List.range' 1 sentences.length
  deriving DecidableEq

inductive Failure where
  | rejected
  | keyError
  deriving DecidableEq

/-! ## Requests -/

def digit (n : Nat) : Char := Char.ofNat ('0'.toNat + n % 10)

/-- `f"m{index:04d}"`, for the indices there are. -/
def candidateKey (index : Nat) : List Char :=
  ['m', digit (index / 1000), digit (index / 100), digit (index / 10), digit index]

/-- The characters that JSON writes with a backslash and one more. -/
def shortEscapes : List Char := ['"', '\\', '\n', '\r', '\t', '\x08', '\x0c']

/-- The bytes of a character in a JSON text that keeps all but the controls as they are. -/
def characterBytes (c : Char) : Nat :=
  if c ∈ shortEscapes then 2 else if c.toNat < 32 then 6 else c.utf8Size

def textBytes (text : List Char) : Nat := 2 + (text.map characterBytes).sum

/-- The bytes of an array whose items have `items` bytes. -/
def arrayBytes (items : List Nat) : Nat := 2 + items.sum + (items.length - 1)

def fieldBytes (name : String) (value : Nat) : Nat := name.length + 3 + value

/-- The bytes of an object whose fields have `fields` bytes. -/
def objectBytes (fields : List Nat) : Nat := 2 + fields.sum + (fields.length - 1)

section

variable [UnicodeData]

/-- mirrors semantic_matching.py:214-235, 333-338 -/
def requestBytes (request : SemanticMatchingRequest) : Nat :=
  objectBytes [
    fieldBytes "sentences" (arrayBytes (request.sentences.map fun s => objectBytes [
      fieldBytes "sequence" (toString s.sequence).length,
      fieldBytes "text" (textBytes s.text)])),
    fieldBytes "candidates" (arrayBytes (request.candidates.map fun c => objectBytes ([
      fieldBytes "candidateKey" (textBytes c.candidateKey),
      fieldBytes "description" (textBytes c.description),
      fieldBytes "tags" (arrayBytes (c.tags.map textBytes))] ++
      (c.transcript.map fun t => fieldBytes "transcript" (textBytes t)).toList)))]

/-- One material as the model sees it; `none` when it is rejected.
mirrors semantic_matching.py:352-364 -/
def projectCandidate (index : Nat) (material : Material) : Option SemanticMatchingCandidate :=
  if material.kind = .audio then none
  else
    match material.aiDescription with
    | none => none
    | some description =>
      let candidate : SemanticMatchingCandidate := {
        candidateKey := candidateKey index
        description := description
        tags := material.aiTags
        transcript := if material.hasSpeech then material.speechTranscript else none }
      if candidate.accepted then some candidate else none

/-- mirrors semantic_matching.py:338-378 -/
def projectRequests (script : ScriptSegmentationResult) (materials : List Material) :
    Option (List SemanticMatchingRequest) :=
  if materials ≠ [] ∧ materials.length ≤ maxSemanticMaterials ∧
      (materials.map (·.materialId)).Nodup then do
    let candidates ← (materials.zipIdx 1).mapM fun m => projectCandidate m.2 m.1
    let requests ← (slices semanticSentencesPerRequest script.sentences).mapM
      fun sentences => SemanticMatchingRequest.make sentences candidates
    if requests.any fun request => decide (maxRequestBytes < requestBytes request) then none
    else some requests
  else none

end

/-! ## Replies -/

/-- A sentence's sequence and a candidate's key. -/
abbrev Pair : Type := Int × List Char

def arr? : Json → Option (List Json)
  | .arr items => some items
  | _ => none

/-- An integer that is a score. -/
def score? : Json → Option Score
  | .int (.ofNat n) => if h : n ≤ 100 then some ⟨n, h⟩ else none
  | _ => none

def int? : Json → Option Int
  | .int n => some n
  | _ => none

/-- mirrors semantic_matching.py:403-419 -/
def readScore (rawScore : Json) : Option (Pair × Score) := do
  let members ← Json.fields ["sentenceSequence", "candidateKey", "score"] rawScore
  let sequence ← Json.required members "sentenceSequence" int?
  let key ← Json.required members "candidateKey" Json.str?
  let score ← Json.required members "score" score?
  return ((sequence, key), score)

/-- mirrors semantic_matching.py:401-423 -/
def collect (expected : List Pair) : List Json → List (Pair × Score) → Option (List (Pair × Score))
  | [], collected => some collected
  | rawScore :: rawScores, collected => do
    let (key, score) ← readScore rawScore
    if key ∉ expected ∨ key ∈ collected.map (·.1) then none
    else collect expected rawScores (collected ++ [(key, score)])

section

variable [UnicodeData]

def expectedPairs (request : SemanticMatchingRequest) : List Pair :=
  (request.sentences.map fun s => (s.sequence : Int)) ×ˢ (request.candidates.map (·.candidateKey))

/-- mirrors semantic_matching.py:381-430 -/
def parseScores (reply : SemanticMatchingReply) (request : SemanticMatchingRequest) :
    Option (List (Pair × Score)) := do
  let document ← reply.content
  let members ← Json.fields ["scores"] document
  let rawScores ← Json.required members "scores" arr?
  let collected ← collect (expectedPairs request) rawScores []
  if ∀ pair ∈ expectedPairs request, pair ∈ collected.map (·.1) then some collected else none

/-- One turn of the loop over the requests.
mirrors semantic_matching.py:450-464 -/
def answer (adapter : Nat → SemanticMatchingRequest → Option SemanticMatchingReply)
    (request : SemanticMatchingRequest × Nat) : Option (List Char × List (Pair × Score)) := do
  let reply ← adapter request.2 request.1
  if reply.finishReason ≠ "stop".toList then none
  else
    let scores ← parseScores reply request.1
    return (reply.requestId, scores)

end

/-! ## Rankings -/

/-- `matrix[pair]`; what was added later stands first. -/
def lookup (matrix : List (Pair × Score)) (pair : Pair) : Option Score :=
  (matrix.find? fun entry => entry.1 = pair).map (·.2)

/-- A higher score first, then the material that was given first. -/
def Before (a b : (MaterialId × Nat) × Score) : Prop :=
  b.2.value < a.2.value ∨ a.2.value = b.2.value ∧ a.1.2 ≤ b.1.2

instance : DecidableRel Before := fun _ _ => inferInstanceAs (Decidable (_ ∨ _))

def candidateScore (scored : (MaterialId × Nat) × Score) : SemanticCandidateScore where
  materialId := scored.1.1
  score := scored.2
  qualified := decide (semanticMatchScoreThreshold ≤ scored.2.value)
  threshold := rfl

/-- The constructor of a sentence's matches; `none` when it rejects. -/
def SemanticSentenceMatches.make (sequence : Nat) (candidates : List SemanticCandidateScore) :
    Option SemanticSentenceMatches :=
  if h : (1 ≤ sequence ∧ sequence ≤ maxScriptSentences) ∧ candidates ≠ [] ∧
      candidates.length ≤ maxSemanticMaterials ∧ (candidates.map (·.materialId)).Nodup then
    some ⟨sequence, candidates, h.1.1, h.1.2, h.2.1, h.2.2.1, h.2.2.2⟩
  else none

/-- The constructor of the result; `none` when it rejects. -/
def SemanticMatchingResult.make (requestIds : List (List Char))
    (sentences : List SemanticSentenceMatches) : Option SemanticMatchingResult :=
  if h : (requestIds ≠ [] ∧ requestIds.Nodup) ∧ sentences ≠ [] ∧
      sentences.map (·.sequence) = List.range' 1 sentences.length then
    some ⟨requestIds, sentences, h.1.1, h.1.2, h.2.1, h.2.2⟩
  else none

/-- The score of one material for one sentence, beside its id and its place. -/
def scoreOf (matrix : List (Pair × Score)) (sequence : Nat) (material : MaterialId × Nat) :
    Except Failure ((MaterialId × Nat) × Score) :=
  match lookup matrix (sequence, candidateKey material.2) with
  | some score => .ok (material, score)
  | none => .error .keyError

def reject {α : Type} : Option α → Except Failure α
  | some a => .ok a
  | none => .error .rejected

/-- mirrors semantic_matching.py:470-487 -/
def rankSentence (matrix : List (Pair × Score)) (materialIds : List MaterialId) (sequence : Nat) :
    Except Failure SemanticSentenceMatches := do
  let scored ← (materialIds.zipIdx 1).mapM (scoreOf matrix sequence)
  reject (SemanticSentenceMatches.make sequence
    ((scored.insertionSort Before).map candidateScore))

section

variable [UnicodeData]

/-- The result of the answers to all the requests.
mirrors semantic_matching.py:447-448, 463-492 -/
def assemble (script : ScriptSegmentationResult) (materialIds : List MaterialId)
    (answers : List (List Char × List (Pair × Score))) : Except Failure SemanticMatchingResult :=
  let requestIds := answers.map (·.1)
  -- what a later reply says replaces what an earlier one said
  let matrix := (answers.map (·.2)).reverse.flatten
  if ¬requestIds.Nodup then .error .rejected
  else do
    let sentences ← (script.sentences.map (·.sequence)).mapM (rankSentence matrix materialIds)
    reject (SemanticMatchingResult.make requestIds sentences)

/-- mirrors semantic_matching.py:433-492 -/
def matchScriptMaterials
    (adapter : Nat → SemanticMatchingRequest → Option SemanticMatchingReply)
    (script : ScriptSegmentationResult) (materials : List Material) :
    Except Failure SemanticMatchingResult := do
  let requests ← reject (projectRequests script materials)
  let answers ← reject (requests.zipIdx.mapM (answer adapter))
  assemble script (materials.map (·.materialId)) answers

end

/-! ## Association lists -/

section

variable {entries matrix : List (Pair × Score)} {pair : Pair} {score : Score}

theorem lookup_eq_some (h : (matrix.map (·.1)).Nodup) :
    lookup matrix pair = some score ↔ (pair, score) ∈ matrix := by
  unfold lookup
  constructor
  · intro hfind
    obtain ⟨entry, hentry, rfl⟩ := Option.map_eq_some_iff.1 hfind
    have heq : entry.1 = pair := by simpa using List.find?_some hentry
    rw [← heq]
    exact List.mem_of_find?_eq_some hentry
  · intro hmem
    cases hfind : matrix.find? fun entry => entry.1 = pair with
    | none => simpa using List.find?_eq_none.1 hfind _ hmem
    | some entry =>
      have heq : entry.1 = pair := by simpa using List.find?_some hfind
      have hsame := List.inj_on_of_nodup_map h (List.mem_of_find?_eq_some hfind) hmem heq
      rw [hsame]
      rfl

theorem lookup_perm {matrix' : List (Pair × Score)} (hperm : matrix.Perm matrix')
    (h : (matrix.map (·.1)).Nodup) : lookup matrix pair = lookup matrix' pair := by
  have h' : (matrix'.map (·.1)).Nodup := (hperm.map _).nodup_iff.1 h
  ext score
  rw [lookup_eq_some h, lookup_eq_some h', hperm.mem_iff]

/-- The one entry of a pair. -/
theorem filter_eq_singleton (h : (entries.map (·.1)).Nodup) (hmem : (pair, score) ∈ entries) :
    entries.filter (fun entry => entry.1 = pair) = [(pair, score)] := by
  induction entries with
  | nil => cases hmem
  | cons entry entries ih =>
    rw [List.map_cons, List.nodup_cons] at h
    rcases List.mem_cons.1 hmem with rfl | hmem
    · have hrest : entries.filter (fun entry => entry.1 = pair) = [] := by
        refine List.filter_eq_nil_iff.2 fun other hother => ?_
        rw [decide_eq_true_eq]
        intro heq
        exact h.1 (List.mem_map.2 ⟨other, hother, heq⟩)
      rw [List.filter_cons_of_pos (by simp), hrest]
    · have hne : ¬entry.1 = pair := by
        intro heq
        exact h.1 (List.mem_map.2 ⟨_, hmem, heq.symm⟩)
      rw [List.filter_cons_of_neg (by simpa using hne), ih h.2 hmem]

end

theorem keys_nodup {n : Nat} (h : n ≤ maxSemanticMaterials) :
    ((List.range' 1 n).map candidateKey).Nodup := by
  have hall : ((List.range' 1 maxSemanticMaterials).map candidateKey).Nodup := by decide
  exact hall.sublist ((List.range'_sublist_right.2 h).map _)

/-! ## What a reply has to hold -/

theorem collect_eq_some {expected : List Pair} {rawScores : List Json}
    {collected result : List (Pair × Score)} (hcollected : (collected.map (·.1)).Nodup) :
    collect expected rawScores collected = some result ↔
      ∃ entries, rawScores.mapM readScore = some entries ∧ result = collected ++ entries ∧
        (∀ entry ∈ entries, entry.1 ∈ expected) ∧ ((collected ++ entries).map (·.1)).Nodup := by
  induction rawScores generalizing collected with
  | nil =>
    constructor
    · intro h
      cases h
      exact ⟨[], rfl, (List.append_nil _).symm, nofun, by simpa using hcollected⟩
    · rintro ⟨entries, hentries, rfl, -⟩
      rw [List.mapM_nil] at hentries
      cases hentries
      rw [List.append_nil]
      rfl
  | cons rawScore rawScores ih =>
    rw [collect, List.mapM_cons]
    cases hread : readScore rawScore with
    | none => simp
    | some entry =>
      obtain ⟨key, score⟩ := entry
      simp only [Option.bind_eq_bind, Option.bind_some]
      by_cases hbad : key ∉ expected ∨ key ∈ collected.map (·.1)
      · rw [if_pos hbad]
        constructor
        · intro h
          cases h
        · rintro ⟨entries, hentries, -, hexpected, hnodup⟩
          obtain ⟨rest, -, hcons⟩ := Option.bind_eq_some_iff.1 hentries
          cases hcons
          rcases hbad with hforeign | hrepeated
          · exact absurd (hexpected _ List.mem_cons_self) hforeign
          · rw [List.map_append, List.nodup_append] at hnodup
            exact absurd rfl (hnodup.2.2 key hrepeated key (by simp))
      · rw [if_neg hbad]
        have hgood : key ∈ expected ∧ key ∉ collected.map (·.1) := by
          constructor
          · by_contra hforeign
            exact hbad (.inl hforeign)
          · exact fun hrepeated => hbad (.inr hrepeated)
        have hnext : ((collected ++ [(key, score)]).map (·.1)).Nodup := by
          rw [List.map_append, List.nodup_append]
          refine ⟨hcollected, by simp, fun a ha b hb => ?_⟩
          rw [List.map_cons, List.map_nil, List.mem_singleton] at hb
          rintro rfl
          rw [show a = key from hb] at ha
          exact hgood.2 ha
        rw [ih hnext]
        constructor
        · rintro ⟨entries, hentries, rfl, hexpected, hnodup⟩
          refine ⟨(key, score) :: entries, ?_, by simp, ?_, by simpa using hnodup⟩
          · rw [hentries]
            rfl
          · intro entry hentry
            rcases List.mem_cons.1 hentry with rfl | hentry
            · exact hgood.1
            · exact hexpected entry hentry
        · rintro ⟨entries, hentries, rfl, hexpected, hnodup⟩
          obtain ⟨rest, hrest, hcons⟩ := Option.bind_eq_some_iff.1 hentries
          cases hcons
          exact ⟨rest, hrest, by simp,
            fun entry hentry => hexpected entry (List.mem_cons_of_mem _ hentry),
            by simpa using hnodup⟩

section

variable [UnicodeData]

/-- The entries of a reply, whatever pairs they name. -/
def readEntries (reply : SemanticMatchingReply) : Option (List (Pair × Score)) := do
  let document ← reply.content
  let members ← Json.fields ["scores"] document
  let rawScores ← Json.required members "scores" arr?
  rawScores.mapM readScore

theorem expectedPairs_nodup (request : SemanticMatchingRequest) :
    (expectedPairs request).Nodup := by
  refine List.Nodup.product ?_ request.keys
  have hcast := request.sequences.map (f := fun n : Nat => (n : Int)) fun a b => Int.ofNat.inj
  rwa [List.map_map] at hcast

/-- A reply counts exactly when its entries are the pairs of the request, each once. -/
theorem parseScores_eq_some {reply : SemanticMatchingReply} {request : SemanticMatchingRequest}
    {entries : List (Pair × Score)} :
    parseScores reply request = some entries ↔
      readEntries reply = some entries ∧ (entries.map (·.1)).Perm (expectedPairs request) := by
  unfold parseScores readEntries
  cases reply.content with
  | none => simp
  | some document =>
    simp only [Option.bind_eq_bind, Option.bind_some]
    cases Json.fields ["scores"] document with
    | none => simp
    | some members =>
      simp only [Option.bind_some]
      cases Json.required members "scores" arr? with
      | none => simp
      | some rawScores =>
        simp only [Option.bind_some]
        constructor
        · intro h
          obtain ⟨collected, hcollect, h⟩ := Option.bind_eq_some_iff.1 h
          obtain ⟨entries', hentries, heq, hexpected, hnodup⟩ :=
            (@collect_eq_some _ _ [] _ List.nodup_nil).1 hcollect
          rw [List.nil_append] at heq hnodup
          subst heq
          by_cases hall : ∀ pair ∈ expectedPairs request, pair ∈ collected.map (·.1)
          · rw [if_pos hall] at h
            cases h
            refine ⟨hentries, (List.perm_ext_iff_of_nodup hnodup (expectedPairs_nodup request)).2
              fun pair => ⟨fun hpair => ?_, hall pair⟩⟩
            obtain ⟨entry, hentry, rfl⟩ := List.mem_map.1 hpair
            exact hexpected entry hentry
          · rw [if_neg hall] at h
            cases h
        · rintro ⟨hentries, hperm⟩
          have hnodup := hperm.nodup_iff.2 (expectedPairs_nodup request)
          refine Option.bind_eq_some_iff.2 ⟨entries, (@collect_eq_some _ _ [] _ List.nodup_nil).2
            ⟨entries, hentries, rfl, fun entry hentry => ?_, hnodup⟩, ?_⟩
          · exact hperm.mem_iff.1 (List.mem_map_of_mem hentry)
          · rw [if_pos fun pair hpair => hperm.mem_iff.2 hpair]

/-! ## The batches -/

/-- The requests cover the sentences, each once and in order, each with all the materials. -/
structure Batched (script : ScriptSegmentationResult) (materials : List Material)
    (requests : List SemanticMatchingRequest) : Prop where
  sentences : (requests.map (·.sentences)).flatten = script.sentences
  candidates : ∀ r ∈ requests,
    List.Forall₂ (fun m c => projectCandidate m.2 m.1 = some c) (materials.zipIdx 1) r.candidates
  materials_ne : materials ≠ []
  materials_le : materials.length ≤ maxSemanticMaterials
  ids : (materials.map (·.materialId)).Nodup

/-- All the pairs of a sentence and a material. -/
def allPairs (script : ScriptSegmentationResult) (materials : List Material) : List Pair :=
  (script.sentences.map fun s => (s.sequence : Int)) ×ˢ
    ((materials.zipIdx 1).map fun m => candidateKey m.2)

theorem SemanticMatchingRequest.make_eq_some {sentences : List ScriptSentence}
    {candidates : List SemanticMatchingCandidate} {request : SemanticMatchingRequest}
    (h : SemanticMatchingRequest.make sentences candidates = some request) :
    request.sentences = sentences ∧ request.candidates = candidates := by
  unfold SemanticMatchingRequest.make at h
  split at h <;> cases h
  exact ⟨rfl, rfl⟩

theorem projectRequests_batched {script : ScriptSegmentationResult} {materials : List Material}
    {requests : List SemanticMatchingRequest}
    (h : projectRequests script materials = some requests) :
    Batched script materials requests := by
  unfold projectRequests at h
  split at h
  · rename_i hmaterials
    obtain ⟨candidates, hcandidates, h⟩ := Option.bind_eq_some_iff.1 h
    obtain ⟨requests', hrequests, h⟩ := Option.bind_eq_some_iff.1 h
    split at h <;> cases h
    have hslices := mapM_eq_some.1 hrequests
    refine ⟨?_, fun r hr => ?_, hmaterials.1, hmaterials.2.1, hmaterials.2.2⟩
    · rw [map_eq_of_forall₂ hslices (f := id)
        fun _ _ hmake => (SemanticMatchingRequest.make_eq_some hmake).1, List.map_id]
      exact flatten_slices (by decide) script.sentences
    · obtain ⟨batch, -, hmake⟩ := forall₂_mem_right hslices hr
      rw [(SemanticMatchingRequest.make_eq_some hmake).2]
      exact mapM_eq_some.1 hcandidates
  · cases h

theorem projectCandidate_key {index : Nat} {material : Material}
    {candidate : SemanticMatchingCandidate}
    (h : projectCandidate index material = some candidate) :
    candidate.candidateKey = candidateKey index := by
  unfold projectCandidate at h
  split at h
  · cases h
  · split at h
    · cases h
    · simp only [Option.ite_none_right_eq_some, Option.some.injEq] at h
      rw [← h.2]

theorem Batched.expectedPairs {script : ScriptSegmentationResult} {materials : List Material}
    {requests : List SemanticMatchingRequest} (h : Batched script materials requests) :
    requests.flatMap expectedPairs = allPairs script materials := by
  have hkeys : ∀ r ∈ requests, r.candidates.map (·.candidateKey) =
      (materials.zipIdx 1).map fun m => candidateKey m.2 := fun r hr =>
    map_eq_of_forall₂ (h.candidates r hr) fun _ _ hc => projectCandidate_key hc
  unfold allPairs
  rw [← h.sentences]
  generalize (materials.zipIdx 1).map (fun m => candidateKey m.2) = keys at hkeys
  clear h
  induction requests with
  | nil => rfl
  | cons r requests ih =>
    rw [List.flatMap_cons, ih fun r' hr' => hkeys r' (List.mem_cons_of_mem _ hr')]
    unfold SemanticMatching.expectedPairs
    rw [hkeys r List.mem_cons_self]
    simp [SProd.sprod, List.product]

theorem Batched.allPairs_nodup {script : ScriptSegmentationResult} {materials : List Material}
    {requests : List SemanticMatchingRequest} (h : Batched script materials requests) :
    (allPairs script materials).Nodup := by
  refine List.Nodup.product ?_ ?_
  · have hsequences : (script.sentences.map (·.sequence)).Nodup := by
      rw [script.sequences]
      exact List.nodup_range'
    have hcast := hsequences.map (f := fun n : Nat => (n : Int)) fun a b => Int.ofNat.inj
    rwa [List.map_map] at hcast
  · have hplaces : (materials.zipIdx 1).map (fun m => candidateKey m.2) =
        (List.range' 1 materials.length).map candidateKey := by
      rw [← List.zipIdx_map_snd, List.map_map]
      rfl
    rw [hplaces]
    exact keys_nodup h.materials_le

end

/-! ## One sentence -/

/-- Where a material stands among the materials, from 1 on. -/
def place (materialIds : List MaterialId) (id : MaterialId) : Nat := materialIds.idxOf id + 1

/-- The matches of a sentence: every material once, with the score of its one entry, a higher
score first and the material that was given first in a tie. -/
structure Ranked (entries : List (Pair × Score)) (materialIds : List MaterialId)
    (s : SemanticSentenceMatches) : Prop where
  materials : (s.candidates.map (·.materialId)).Perm materialIds
  scored : ∀ c ∈ s.candidates,
    entries.filter (fun entry => entry.1 = ((s.sequence : Int),
      candidateKey (place materialIds c.materialId))) =
      [(((s.sequence : Int), candidateKey (place materialIds c.materialId)), c.score)]
  order : s.candidates.Pairwise fun a b => b.score.value < a.score.value ∨
    a.score.value = b.score.value ∧ place materialIds a.materialId ≤ place materialIds b.materialId

section

variable {materialIds : List MaterialId} {matrix : List (Pair × Score)} {sequence : Nat}

theorem place_of_mem_zipIdx (h : materialIds.Nodup) {id : MaterialId} {n : Nat}
    (hmem : (id, n) ∈ materialIds.zipIdx 1) : n = place materialIds id := by
  obtain ⟨hle, hget⟩ := List.mem_zipIdx_iff_le_and_getElem?_sub.1 hmem
  obtain ⟨hlt, hid⟩ := List.getElem?_eq_some_iff.1 hget
  simp only at hle hget hlt hid
  unfold place
  rw [← hid, h.idxOf_getElem]
  omega

theorem scoreOf_eq_ok {material : MaterialId × Nat} {scored : (MaterialId × Nat) × Score} :
    scoreOf matrix sequence material = .ok scored ↔
      scored.1 = material ∧
        lookup matrix (sequence, candidateKey material.2) = some scored.2 := by
  unfold scoreOf
  cases lookup matrix (sequence, candidateKey material.2) with
  | none => simp
  | some score =>
    obtain ⟨material', score'⟩ := scored
    simp [eq_comm]

theorem before_total (a b : (MaterialId × Nat) × Score) : Before a b ∨ Before b a := by
  unfold Before
  omega

theorem before_trans {a b c : (MaterialId × Nat) × Score} (hab : Before a b) (hbc : Before b c) :
    Before a c := by
  unfold Before at *
  omega

theorem sorted_pairwise (scored : List ((MaterialId × Nat) × Score)) :
    (scored.insertionSort Before).Pairwise Before := by
  have htotal : Std.Total Before := ⟨before_total⟩
  have htrans : IsTrans ((MaterialId × Nat) × Score) Before := ⟨fun _ _ _ => before_trans⟩
  exact List.pairwise_insertionSort _ scored

/-- The scores of a sentence, one for each material. -/
theorem exists_scored (hkeys : ∀ n ∈ List.range' 1 materialIds.length,
      ((sequence : Int), candidateKey n) ∈ matrix.map (·.1)) (hnodup : (matrix.map (·.1)).Nodup) :
    ∃ scored, (materialIds.zipIdx 1).mapM (scoreOf matrix sequence) = .ok scored ∧
      List.Forall₂ (fun m x => x.1 = m ∧
        lookup matrix (sequence, candidateKey m.2) = some x.2) (materialIds.zipIdx 1) scored := by
  have hall : ∀ m ∈ materialIds.zipIdx 1, ∃ x : (MaterialId × Nat) × Score, x.1 = m ∧
      lookup matrix (sequence, candidateKey m.2) = some x.2 := by
    intro m hm
    have hplace : m.2 ∈ List.range' 1 materialIds.length := by
      rw [← List.zipIdx_map_snd 1 materialIds]
      exact List.mem_map_of_mem hm
    obtain ⟨entry, hentry, heq⟩ := List.mem_map.1 (hkeys m.2 hplace)
    refine ⟨(m, entry.2), rfl, (lookup_eq_some hnodup).2 ?_⟩
    rw [← heq]
    exact hentry
  obtain ⟨scored, hscored⟩ := exists_forall₂ hall
  exact ⟨scored, mapM_eq_ok.2 (hscored.imp fun _ _ h => scoreOf_eq_ok.2 h), hscored⟩

theorem SemanticSentenceMatches.make_some {candidates : List SemanticCandidateScore}
    (hsequence : 1 ≤ sequence ∧ sequence ≤ maxScriptSentences) (hne : candidates ≠ [])
    (hle : candidates.length ≤ maxSemanticMaterials)
    (hids : (candidates.map (·.materialId)).Nodup) :
    ∃ s, SemanticSentenceMatches.make sequence candidates = some s ∧ s.sequence = sequence ∧
      s.candidates = candidates :=
  ⟨_, dif_pos ⟨hsequence, hne, hle, hids⟩, rfl, rfl⟩

theorem rankSentence_ranked (hne : materialIds ≠ [])
    (hle : materialIds.length ≤ maxSemanticMaterials) (hids : materialIds.Nodup)
    (hsequence : 1 ≤ sequence ∧ sequence ≤ maxScriptSentences)
    (hkeys : ∀ n ∈ List.range' 1 materialIds.length,
      ((sequence : Int), candidateKey n) ∈ matrix.map (·.1)) (hnodup : (matrix.map (·.1)).Nodup) :
    ∃ s, rankSentence matrix materialIds sequence = .ok s ∧ s.sequence = sequence ∧
      Ranked matrix materialIds s := by
  obtain ⟨scored, hscored, hforall⟩ := exists_scored hkeys hnodup
  have hperm := List.perm_insertionSort Before scored
  have hmaterials : scored.map (·.1) = materialIds.zipIdx 1 := by
    rw [map_eq_of_forall₂ hforall (f := id) fun _ _ h => h.1, List.map_id]
  have hcandidates : (((scored.insertionSort Before).map candidateScore).map
      (·.materialId)).Perm materialIds := by
    have hfirst : (scored.map (·.1)).map (·.1) = materialIds := by
      rw [hmaterials]
      exact List.zipIdx_map_fst 1 materialIds
    rw [List.map_map] at hfirst ⊢
    rw [← hfirst]
    exact hperm.map _
  have hlength := hcandidates.length_eq
  rw [List.length_map] at hlength
  obtain ⟨s, hmake, hs, hcs⟩ := SemanticSentenceMatches.make_some hsequence
    (List.ne_nil_of_length_pos (by rw [hlength]; exact List.length_pos_iff.2 hne))
    (by rw [hlength]; exact hle) (hcandidates.nodup_iff.2 hids)
  have hrun : rankSentence matrix materialIds sequence = .ok s := by
    rw [rankSentence, hscored]
    show reject _ = _
    rw [hmake]
    rfl
  refine ⟨s, hrun, hs, by rw [hcs]; exact hcandidates, fun c hc => ?_, ?_⟩
  · rw [hcs] at hc
    rw [hs]
    obtain ⟨x, hx, rfl⟩ := List.mem_map.1 hc
    obtain ⟨m, hm, rfl, hlookup⟩ := forall₂_mem_right hforall (hperm.mem_iff.1 hx)
    have hplace := place_of_mem_zipIdx hids hm
    have hentry := (lookup_eq_some hnodup).1 hlookup
    rw [hplace] at hentry
    exact filter_eq_singleton hnodup hentry
  · rw [hcs]
    refine List.pairwise_map.2 ((sorted_pairwise scored).imp_of_mem fun {a b} ha hb hab => ?_)
    have hplaceOf : ∀ x ∈ scored.insertionSort Before, x.1.2 = place materialIds x.1.1 := by
      intro x hx
      have hmem : x.1 ∈ materialIds.zipIdx 1 := by
        rw [← hmaterials]
        exact List.mem_map_of_mem (hperm.mem_iff.1 hx)
      exact place_of_mem_zipIdx hids hmem
    unfold Before at hab
    rw [hplaceOf a ha, hplaceOf b hb] at hab
    exact hab

theorem rankSentence_congr {matrix' : List (Pair × Score)}
    (h : ∀ pair, lookup matrix pair = lookup matrix' pair) :
    rankSentence matrix materialIds sequence = rankSentence matrix' materialIds sequence := by
  have hscore : scoreOf matrix sequence = scoreOf matrix' sequence := by
    funext material
    rw [scoreOf, scoreOf, h]
  rw [rankSentence, rankSentence, hscore]

end

theorem matrix_perm (answers : List (List Char × List (Pair × Score))) :
    ((answers.map (·.2)).reverse.flatten).Perm (answers.flatMap (·.2)) := by
  rw [List.flatMap_def]
  exact (List.reverse_perm _).flatten

theorem Ranked.perm {entries entries' : List (Pair × Score)} {materialIds : List MaterialId}
    {s : SemanticSentenceMatches} (h : Ranked entries materialIds s)
    (hperm : entries.Perm entries') : Ranked entries' materialIds s where
  materials := h.materials
  scored := by
    intro c hc
    have hfilter := hperm.filter fun entry => decide (entry.1 = ((s.sequence : Int),
      candidateKey (place materialIds c.materialId)))
    rw [h.scored c hc] at hfilter
    exact List.perm_singleton.1 hfilter.symm
  order := h.order

theorem SemanticMatchingResult.make_some {requestIds : List (List Char)}
    {sentences : List SemanticSentenceMatches} (hne : requestIds ≠ []) (hids : requestIds.Nodup)
    (hsome : sentences ≠ [])
    (hsequences : sentences.map (·.sequence) = List.range' 1 sentences.length) :
    ∃ result, SemanticMatchingResult.make requestIds sentences = some result ∧
      result.requestIds = requestIds ∧ result.sentences = sentences :=
  ⟨_, dif_pos ⟨⟨hne, hids⟩, hsome, hsequences⟩, rfl, rfl⟩

/-! ## Every run -/

section

variable [UnicodeData]

/-- The adapter's reply to a request counts as the answer. -/
def Answers (adapter : Nat → SemanticMatchingRequest → Option SemanticMatchingReply)
    (request : SemanticMatchingRequest × Nat) (a : List Char × List (Pair × Score)) : Prop :=
  ∃ reply, adapter request.2 request.1 = some reply ∧ reply.finishReason = "stop".toList ∧
    reply.requestId = a.1 ∧ readEntries reply = some a.2 ∧
    (a.2.map (·.1)).Perm (expectedPairs request.1)

/-- The materials can be scored, every reply counts, and no two have one id. -/
def Acceptable (adapter : Nat → SemanticMatchingRequest → Option SemanticMatchingReply)
    (script : ScriptSegmentationResult) (materials : List Material) : Prop :=
  ∃ requests answers, projectRequests script materials = some requests ∧
    List.Forall₂ (Answers adapter) requests.zipIdx answers ∧ (answers.map (·.1)).Nodup

/-- What a result holds: the entries of all the replies, each pair's once, ranked. -/
def Matched (adapter : Nat → SemanticMatchingRequest → Option SemanticMatchingReply)
    (script : ScriptSegmentationResult) (materials : List Material)
    (result : SemanticMatchingResult) : Prop :=
  ∃ requests answers, Batched script materials requests ∧
    List.Forall₂ (Answers adapter) requests.zipIdx answers ∧
    result.requestIds = answers.map (·.1) ∧
    ((answers.flatMap (·.2)).map (·.1)).Perm (allPairs script materials) ∧
    result.sentences.map (·.sequence) = script.sentences.map (·.sequence) ∧
    ∀ s ∈ result.sentences,
      Ranked (answers.flatMap (·.2)) (materials.map (·.materialId)) s

/-- The same reply, its entries in any order. -/
def SameReply : Option SemanticMatchingReply → Option SemanticMatchingReply → Prop
  | none, none => True
  | some reply, some reply' =>
    reply.requestId = reply'.requestId ∧ reply.finishReason = reply'.finishReason ∧
      (reply.content = reply'.content ∨ ∃ items items', items.Perm items' ∧
        reply.content = some (.obj [("scores", .arr items)]) ∧
        reply'.content = some (.obj [("scores", .arr items')]))
  | _, _ => False

variable {adapter adapter' : Nat → SemanticMatchingRequest → Option SemanticMatchingReply}
  {script : ScriptSegmentationResult} {materials : List Material}
  {requests : List SemanticMatchingRequest} {answers answers' : List (List Char × List (Pair × Score))}

theorem answer_eq_some {request : SemanticMatchingRequest × Nat}
    {a : List Char × List (Pair × Score)} :
    answer adapter request = some a ↔ Answers adapter request a := by
  unfold answer Answers
  cases adapter request.2 request.1 with
  | none => simp
  | some reply =>
    simp only [Option.bind_eq_bind, Option.bind_some]
    by_cases hstop : reply.finishReason = "stop".toList
    · rw [if_neg (not_not.2 hstop)]
      constructor
      · intro h
        obtain ⟨scores, hscores, h⟩ := Option.bind_eq_some_iff.1 h
        cases h
        exact ⟨reply, rfl, hstop, rfl, parseScores_eq_some.1 hscores⟩
      · rintro ⟨reply', hreply, -, hid, hentries⟩
        cases hreply
        obtain ⟨id, entries⟩ := a
        cases hid
        exact Option.bind_eq_some_iff.2 ⟨entries, parseScores_eq_some.2 hentries, rfl⟩
    · rw [if_pos hstop]
      constructor
      · intro h
        cases h
      · rintro ⟨reply', hreply, hstop', -⟩
        cases hreply
        exact absurd hstop' hstop

/-- The entries of all the answers are the pairs of all the requests. -/
theorem keys_perm {numbered : List (SemanticMatchingRequest × Nat)}
    (h : List.Forall₂ (Answers adapter) numbered answers) :
    ((answers.flatMap (·.2)).map (·.1)).Perm (numbered.flatMap fun r => expectedPairs r.1) := by
  induction h with
  | nil => exact .refl _
  | cons ha _ ih =>
    obtain ⟨reply, -, -, -, -, hperm⟩ := ha
    rw [List.flatMap_cons, List.flatMap_cons, List.map_append]
    exact hperm.append ih

theorem Batched.keys_perm (h : Batched script materials requests)
    (hanswers : List.Forall₂ (Answers adapter) requests.zipIdx answers) :
    ((answers.flatMap (·.2)).map (·.1)).Perm (allPairs script materials) := by
  have hperm := SemanticMatching.keys_perm hanswers
  have hzip : requests.zipIdx.flatMap (fun r => SemanticMatching.expectedPairs r.1) =
      requests.flatMap SemanticMatching.expectedPairs := by
    rw [← List.flatMap_map, List.zipIdx_map_fst]
  rwa [hzip, h.expectedPairs] at hperm

/-- Answers to all the requests make a result. -/
theorem Batched.assemble_ok (h : Batched script materials requests)
    (hanswers : List.Forall₂ (Answers adapter) requests.zipIdx answers)
    (hids : (answers.map (·.1)).Nodup) :
    ∃ result, assemble script (materials.map (·.materialId)) answers = .ok result ∧
      Matched adapter script materials result := by
  have hperm := h.keys_perm hanswers
  have hmatrix := matrix_perm answers
  have hnodup : (((answers.map (·.2)).reverse.flatten).map (·.1)).Nodup :=
    ((hmatrix.map _).trans hperm).nodup_iff.2 h.allPairs_nodup
  have hranked : ∀ n ∈ script.sentences.map (·.sequence), ∃ s,
      rankSentence (answers.map (·.2)).reverse.flatten (materials.map (·.materialId)) n = .ok s ∧
        s.sequence = n ∧ Ranked (answers.flatMap (·.2)) (materials.map (·.materialId)) s := by
    intro n hn
    obtain ⟨sentence, hsentence, rfl⟩ := List.mem_map.1 hn
    obtain ⟨s, hs, hseq, hranked⟩ := rankSentence_ranked
      (fun hnil => h.materials_ne (List.map_eq_nil_iff.1 hnil))
      (by rw [List.length_map]; exact h.materials_le) h.ids
      ⟨sentence.sequence_pos, sentence.sequence_le⟩ (fun place hplace => by
        rw [((hmatrix.map _).trans hperm).mem_iff]
        refine List.mem_product.2 ⟨List.mem_map_of_mem hsentence, ?_⟩
        rw [List.length_map, ← List.zipIdx_map_snd 1 materials, List.mem_map] at hplace
        obtain ⟨m, hm, rfl⟩ := hplace
        exact List.mem_map_of_mem hm) hnodup
    exact ⟨s, hs, hseq, hranked.perm hmatrix⟩
  obtain ⟨sentences, hsentences⟩ := exists_forall₂ hranked
  have hsequences : sentences.map (·.sequence) = script.sentences.map (·.sequence) := by
    rw [map_eq_of_forall₂ hsentences (f := id) fun _ _ hs => hs.2.1, List.map_id]
  have hlength := hsentences.length_eq
  rw [List.length_map] at hlength
  have hsome : sentences ≠ [] := by
    apply List.ne_nil_of_length_pos
    rw [← hlength]
    exact List.length_pos_iff.2 script.nonempty
  have hne : answers.map (·.1) ≠ [] := by
    intro hnil
    rw [List.map_eq_nil_iff] at hnil
    rw [hnil, List.forall₂_nil_right_iff, List.zipIdx_eq_nil_iff] at hanswers
    have hflat := h.sentences
    rw [hanswers] at hflat
    exact script.nonempty hflat.symm
  obtain ⟨result, hmake, hresultIds, hresultSentences⟩ := SemanticMatchingResult.make_some hne hids
    hsome (by rw [hsequences, script.sequences, hlength])
  refine ⟨result, ?_, requests, answers, h, hanswers, hresultIds, hperm,
    by rw [hresultSentences, hsequences], fun s hs => ?_⟩
  · simp only [assemble, if_neg (not_not.2 hids)]
    rw [mapM_eq_ok.2 (hsentences.imp fun _ _ hs => hs.1)]
    show reject _ = _
    rw [hmake]
    rfl
  · rw [hresultSentences] at hs
    obtain ⟨n, -, -, -, hranked⟩ := forall₂_mem_right hsentences hs
    exact hranked

theorem matchScriptMaterials_of_answers (h : projectRequests script materials = some requests)
    (hanswers : List.Forall₂ (Answers adapter) requests.zipIdx answers) :
    matchScriptMaterials adapter script materials =
      assemble script (materials.map (·.materialId)) answers := by
  rw [matchScriptMaterials, h]
  show reject (requests.zipIdx.mapM (answer adapter)) >>= assemble script _ = _
  rw [mapM_eq_some.2 (hanswers.imp fun _ _ ha => answer_eq_some.2 ha)]
  rfl

theorem matchScriptMaterials_cases (adapter : Nat → SemanticMatchingRequest →
      Option SemanticMatchingReply) (script : ScriptSegmentationResult)
    (materials : List Material) :
    match matchScriptMaterials adapter script materials with
    | .ok result => Acceptable adapter script materials ∧ Matched adapter script materials result
    | .error e => e = .rejected ∧ ¬Acceptable adapter script materials := by
  by_cases h : Acceptable adapter script materials
  · obtain ⟨requests, answers, hproject, hanswers, hids⟩ := h
    obtain ⟨result, hrun, hmatched⟩ := (projectRequests_batched hproject).assemble_ok hanswers hids
    rw [matchScriptMaterials_of_answers hproject hanswers, hrun]
    exact ⟨⟨requests, answers, hproject, hanswers, hids⟩, hmatched⟩
  · have hrun : matchScriptMaterials adapter script materials = .error .rejected := by
      unfold matchScriptMaterials
      cases hproject : projectRequests script materials with
      | none => rfl
      | some requests =>
        show reject (requests.zipIdx.mapM (answer adapter)) >>= assemble script _ = _
        cases hmap : requests.zipIdx.mapM (answer adapter) with
        | none => rfl
        | some answers =>
          have hanswers := (mapM_eq_some.1 hmap).imp fun _ _ ha => answer_eq_some.1 ha
          show assemble _ _ answers = _
          have hrepeated : ¬(answers.map (·.1)).Nodup :=
            fun hids => h ⟨requests, answers, hproject, hanswers, hids⟩
          simp only [assemble, if_pos hrepeated]
    rw [hrun]
    exact ⟨rfl, h⟩

/-! ## The order of the entries -/

theorem SameReply.symm {a b : Option SemanticMatchingReply} (h : SameReply a b) :
    SameReply b a := by
  cases a <;> cases b
  · trivial
  · exact h.elim
  · exact h.elim
  · obtain ⟨hid, hstop, hsame | ⟨items, items', hperm, hc, hc'⟩⟩ := h
    · exact ⟨hid.symm, hstop.symm, .inl hsame.symm⟩
    · exact ⟨hid.symm, hstop.symm, .inr ⟨items', items, hperm.symm, hc', hc⟩⟩

theorem readEntries_scores {reply : SemanticMatchingReply} {items : List Json}
    (h : reply.content = some (.obj [("scores", .arr items)])) :
    readEntries reply = items.mapM readScore := by
  rw [readEntries, h]
  simp [Json.fields, Json.required, arr?]

theorem Answers.same {request : SemanticMatchingRequest × Nat}
    {a : List Char × List (Pair × Score)} (ha : Answers adapter request a)
    (h : SameReply (adapter request.2 request.1) (adapter' request.2 request.1)) :
    ∃ a', Answers adapter' request a' ∧ a'.1 = a.1 ∧ a.2.Perm a'.2 := by
  obtain ⟨reply, hreply, hstop, hid, hentries, hkeys⟩ := ha
  rw [hreply] at h
  cases hreply' : adapter' request.2 request.1 with
  | none =>
    rw [hreply'] at h
    exact h.elim
  | some reply' =>
    rw [hreply'] at h
    obtain ⟨hid', hstop', hsame | ⟨items, items', hperm, hc, hc'⟩⟩ := h
    · refine ⟨a, ⟨reply', hreply', hstop' ▸ hstop, hid' ▸ hid, ?_, hkeys⟩, rfl, .refl _⟩
      rw [← hentries]
      unfold readEntries
      rw [hsame]
    · rw [readEntries_scores hc] at hentries
      obtain ⟨entries', hentries', hperm'⟩ :=
        List.perm_comp_forall₂ hperm.symm (mapM_eq_some.1 hentries)
      refine ⟨(a.1, entries'), ⟨reply', hreply', hstop' ▸ hstop, hid' ▸ hid, ?_, ?_⟩, rfl,
        hperm'.symm⟩
      · rw [readEntries_scores hc']
        exact mapM_eq_some.2 hentries'
      · exact (hperm'.map _).trans hkeys

theorem forall₂_same (h : ∀ k r, SameReply (adapter k r) (adapter' k r))
    {numbered : List (SemanticMatchingRequest × Nat)}
    (hanswers : List.Forall₂ (Answers adapter) numbered answers) :
    ∃ answers', List.Forall₂ (Answers adapter') numbered answers' ∧
      answers'.map (·.1) = answers.map (·.1) ∧
      (answers.flatMap (·.2)).Perm (answers'.flatMap (·.2)) := by
  induction hanswers with
  | nil => exact ⟨[], .nil, rfl, .refl _⟩
  | cons ha _ ih =>
    obtain ⟨a', ha', hid, hperm⟩ := ha.same (h _ _)
    obtain ⟨answers', hanswers', hids, hperms⟩ := ih
    refine ⟨a' :: answers', .cons ha' hanswers', ?_, ?_⟩
    · rw [List.map_cons, List.map_cons, hid, hids]
    · rw [List.flatMap_cons, List.flatMap_cons]
      exact hperm.append hperms

theorem Acceptable.same (h : ∀ k r, SameReply (adapter k r) (adapter' k r))
    (ha : Acceptable adapter script materials) : Acceptable adapter' script materials := by
  obtain ⟨requests, answers, hproject, hanswers, hids⟩ := ha
  obtain ⟨answers', hanswers', hids', -⟩ := forall₂_same h hanswers
  exact ⟨requests, answers', hproject, hanswers', by rw [hids']; exact hids⟩

theorem matchScriptMaterials_same (h : ∀ k r, SameReply (adapter k r) (adapter' k r)) :
    matchScriptMaterials adapter script materials =
      matchScriptMaterials adapter' script materials := by
  by_cases ha : Acceptable adapter script materials
  · obtain ⟨requests, answers, hproject, hanswers, hids⟩ := ha
    obtain ⟨answers', hanswers', hids', hperm⟩ := forall₂_same h hanswers
    have hbatched := projectRequests_batched hproject
    have hmatrices : ((answers.map (·.2)).reverse.flatten).Perm
        ((answers'.map (·.2)).reverse.flatten) :=
      ((matrix_perm answers).trans hperm).trans (matrix_perm answers').symm
    have hnodup : (((answers.map (·.2)).reverse.flatten).map (·.1)).Nodup :=
      (((matrix_perm answers).map _).trans (hbatched.keys_perm hanswers)).nodup_iff.2
        hbatched.allPairs_nodup
    have hrank : rankSentence (answers.map (·.2)).reverse.flatten (materials.map (·.materialId)) =
        rankSentence (answers'.map (·.2)).reverse.flatten (materials.map (·.materialId)) := by
      funext sequence
      exact rankSentence_congr fun pair => lookup_perm hmatrices hnodup
    rw [matchScriptMaterials_of_answers hproject hanswers,
      matchScriptMaterials_of_answers hproject hanswers']
    simp only [assemble, hids', hrank]
  · have ha' : ¬Acceptable adapter' script materials :=
      fun hok => ha (hok.same fun k r => (h k r).symm)
    have hcases := matchScriptMaterials_cases adapter script materials
    have hcases' := matchScriptMaterials_cases adapter' script materials
    cases hrun : matchScriptMaterials adapter script materials with
    | ok result =>
      rw [hrun] at hcases
      exact absurd hcases.1 ha
    | error e =>
      cases hrun' : matchScriptMaterials adapter' script materials with
      | ok result =>
        rw [hrun'] at hcases'
        exact absurd hcases'.1 ha'
      | error e' =>
        rw [hrun] at hcases
        rw [hrun'] at hcases'
        rw [hcases.1, hcases'.1]

/-- **Every run.** It is rejected, or its result holds every pair's score from the one entry
for it in all the replies, for each sentence all the materials, ranked. It is rejected exactly
when the materials cannot be scored, a reply does not hold each pair of its batch once, or two
replies have one id. The order of the entries in a reply is no matter. -/
theorem matchScriptMaterials_spec (script : ScriptSegmentationResult) (materials : List Material) :
    (∀ adapter, match matchScriptMaterials adapter script materials with
      | .ok result => Acceptable adapter script materials ∧ Matched adapter script materials result
      | .error e => e = .rejected ∧ ¬Acceptable adapter script materials) ∧
    ∀ adapter adapter', (∀ k r, SameReply (adapter k r) (adapter' k r)) →
      matchScriptMaterials adapter script materials =
        matchScriptMaterials adapter' script materials := by
  constructor
  · intro adapter
    exact matchScriptMaterials_cases adapter script materials
  · intro adapter adapter' h
    exact matchScriptMaterials_same h

end

/-! ## A material that shows nothing of a sentence -/

namespace Concrete

/-- The ASCII part of the character database. -/
scoped instance ascii : UnicodeData where
  isSpace c := c.isWhitespace
  isOther c := c.val < 32 ∨ c.val = 127

def picture : Material where
  kind := .image
  durationMs := none
  width := some 1
  height := some 1
  contentDigest := List.replicate 64 '0'
  hasAudio := false
  audioLoudnessLufs := none
  hasSpeech := false
  speechSegmentsMs := []
  speechTranscript := none
  aiDescription := some ['a']
  aiTags := []
  descriptionSource := .user
  describedAt := none
  shotBoundariesMs := []
  materialId := 7
  valid := by decide +kernel

def script : ScriptSegmentationResult where
  sentences := [⟨1, ['b'], Nat.one_pos, by decide, by decide⟩]
  nonempty := by decide
  length_le := by decide
  sequences := rfl
  total := by decide

/-- The model gives the one pair ten points. -/
def unimpressed (_ : Nat) (_ : SemanticMatchingRequest) : Option SemanticMatchingReply :=
  some ⟨['r'], some (.obj [("scores", .arr [.obj [("sentenceSequence", .int 1),
    ("candidateKey", .str "m0001".toList), ("score", .int 10)]])]), "stop".toList, by decide⟩

def lowRanking : SemanticMatchingResult where
  requestIds := [['r']]
  sentences := [⟨1, [⟨7, ⟨10, by decide⟩, false, rfl⟩], Nat.one_pos, by decide, by decide, by decide,
    by decide⟩]
  requestIds_nonempty := by decide
  requestIds_nodup := by decide
  nonempty := by decide
  sequences := rfl

/-- A ranking holds materials that do not qualify too. -/
theorem unqualified_ranked :
    ¬∀ adapter script materials result, matchScriptMaterials adapter script materials = .ok result →
      ∀ s ∈ result.sentences, ∀ c ∈ s.candidates, c.qualified = true := by
  intro hall
  have hrun : matchScriptMaterials unimpressed script [picture] = .ok lowRanking := by
    decide +kernel
  have hqualified := hall unimpressed script [picture] lowRanking hrun _ List.mem_cons_self _
    List.mem_cons_self
  cases hqualified

end Concrete

end AutomationTool.Executor.SemanticMatching
