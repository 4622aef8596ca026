import AutomationTool.Executor.SemanticMatching
import AutomationTool.Executor.AuthoringWorkspace

/-!
# The voiceover of a segmented script

One audio file for every sentence, or none at all. The batch opens a view of the workspace of its
own, so that what was there before, the files of earlier batches included, is seeded in it; every
way out but the last goes through that view's rollback.

What the voice model, the file system, `ffprobe` and the caller answer is a parameter: for every
sentence a `SentenceConduct`, anything of which may differ from one sentence to the next.

* `synthesizeSentence_scoped`, `synthesizeSentence_added`: one sentence.
* `synthesizeSentences_scoped`, `synthesizeSentences_added`: all of them.
* `batch_exact`: what a batch leaves behind.
-/
namespace AutomationTool.Executor.ScriptVoiceover

open FileTree MotionAuthoring SemanticMatching Editing

section

variable [UnicodeData] [CaseFolding]

/-- mirrors script_segmentation.py:169-186 -/
structure SegmentedScript extends ScriptSegmentationResult where
  requestId : List Char
  requestId_accepted : acceptsText maxRequestIdCharacters [] requestId = true

/-- What ends a batch: the two errors of its own, and any other exception. -/
inductive BatchRaised
  | cancelled
  | rejected
  | other
  deriving DecidableEq

/-- mirrors voiceover.py:59-60 -/
def maxVoiceoverBytes : Nat := 32 * 1024 * 1024
def maxNarrationChars : Nat := 1000

/-- mirrors script_voiceover.py:36 -/
def outputDirectory : Name := [ 'v', 'o', 'i', 'c', 'e', 'o', 'v', 'e', 'r']

/-- mirrors script_voiceover.py:71-72 -/
def relativePath (sequence : Nat) : WorkspacePath :=
  [outputDirectory,
    [ 's', 'e', 'n', 't', 'e', 'n', 'c', 'e', '-'] ++
      List.leftpad 4 '0' (Nat.toDigits 10 sequence) ++ [ '.', 'w', 'a', 'v']]

inductive ProbedMaterialKind
  | image | video | audio
  deriving DecidableEq

/-- mirrors material_probe.py:996-1004 -/
structure MediaStreamFacts where
  kind : ProbedMaterialKind
  durationMs : Option Nat

/-- Where links lead, and what `ffprobe` says of a file. -/
structure Host where
  links : Links
  streamFacts : Bytes → Option MediaStreamFacts

/-- How one sentence goes: the answer to `cancellation_requested` (`none` where it raises or is no
`bool`), whether the folder's entry is read, the audio the voice model answers with (`none` where
anything on the way is refused), the write, whether the written file's entry is read, and whether
the probe runs. -/
structure SentenceConduct where
  requested : Option Bool
  parentRead : Bool
  fetched : Option Bytes
  write : WriteConduct
  statRead : Bool
  probed : Bool

/-- mirrors script_voiceover.py:62-68 -/
def cancelIfRequested : Option Bool → Except BatchRaised Unit
  | none => .error .rejected
  | some true => .error .cancelled
  | some false => .ok ()

/-- mirrors script_voiceover.py:85-105 -/
structure ScriptVoiceoverClip where
  sentence : ScriptSentence
  path : WorkspacePath
  durationMs : Nat
  bytesWritten : Nat
  path_eq : path = relativePath sentence.sequence
  durationMs_bounds : 1 ≤ durationMs ∧ durationMs ≤ maxMaterialDurationMs
  bytesWritten_bounds : 1 ≤ bytesWritten ∧ bytesWritten ≤ maxVoiceoverBytes

def voiceoverClip (sentence : ScriptSentence) (path : WorkspacePath)
    (durationMs bytesWritten : Nat) : Except BatchRaised ScriptVoiceoverClip :=
  if h : path = relativePath sentence.sequence ∧
      (1 ≤ durationMs ∧ durationMs ≤ maxMaterialDurationMs) ∧
      1 ≤ bytesWritten ∧ bytesWritten ≤ maxVoiceoverBytes then
    .ok ⟨sentence, path, durationMs, bytesWritten, h.1, h.2.1, h.2.2⟩
  else .error .rejected

/-- mirrors script_voiceover.py:108-123 -/
structure ScriptVoiceoverResult where
  scriptRequestId : List Char
  clips : List ScriptVoiceoverClip
  requestId_accepted : acceptsText maxRequestIdCharacters [] scriptRequestId = true
  length_bounds : 1 ≤ clips.length ∧ clips.length ≤ maxScriptSentences
  sequences : clips.map (·.sentence.sequence) = List.range' 1 clips.length

def voiceoverResult (scriptRequestId : List Char) (clips : List ScriptVoiceoverClip) :
    Except BatchRaised ScriptVoiceoverResult :=
  if h : acceptsText maxRequestIdCharacters [] scriptRequestId = true ∧
      (1 ≤ clips.length ∧ clips.length ≤ maxScriptSentences) ∧
      clips.map (·.sentence.sequence) = List.range' 1 clips.length then
    .ok ⟨scriptRequestId, clips, h.1, h.2.1, h.2.2⟩
  else .error .rejected

/-- mirrors script_voiceover.py:126-146 -/
def freshOutputPath (links : Links) (parentRead : Bool) (tree : Tree) (relative : WorkspacePath) :
    Except BatchRaised WorkspacePath :=
  match resolve links tree relative with
  | .error _ => .error .other
  | .ok resolved =>
    if resolved ≠ relative ∨ isLink (tree relative) = true ∨ there (tree relative) = true then
      .error .rejected
    else
      match tree relative.dropLast, parentRead with
      | _, false => .error .rejected
      | none, true => .ok relative
      | some .folder, true => .ok relative
      | some _, true => .error .rejected

/-- mirrors voiceover.py:161-213 -/
def synthesizeVoiceover (host : Host) (conduct : SentenceConduct) (narration : List Char)
    (relative : WorkspacePath) (w : AuthoringWorkspace) :
    Except BatchRaised Nat × AuthoringWorkspace :=
  if narration.any (fun c => !UnicodeData.isSpace c) = true ∧
      narration.length ≤ maxNarrationChars then
    match conduct.fetched with
    | none => (.error .other, w)
    | some payload =>
      if payload ≠ [] ∧ payload.length ≤ maxVoiceoverBytes then
        match w.writeBytes host.links conduct.write relative payload with
        | (.error _, w) => (.error .other, w)
        | (.ok _, w) => (.ok payload.length, w)
      else (.error .other, w)
  else (.error .other, w)

/-- mirrors script_voiceover.py:149-179 -/
def requireWrittenAudio (statRead : Bool) (tree : Tree) (output : WorkspacePath)
    (bytesWritten : Nat) : Except BatchRaised Nat :=
  if 1 ≤ bytesWritten ∧ bytesWritten ≤ maxVoiceoverBytes ∧ statRead = true ∧
      onLink tree output = false then
    match tree output with
    | some (.file content) =>
      if content.length = bytesWritten then .ok bytesWritten else .error .rejected
    | _ => .error .rejected
  else .error .rejected

/-- mirrors material_probe.py:964-1004 -/
def readStreamFacts (host : Host) (probed : Bool) (tree : Tree) (source : WorkspacePath) :
    Except BatchRaised MediaStreamFacts :=
  match probed, tree source with
  | true, some (.file content) =>
    match host.streamFacts content with
    | some facts => .ok facts
    | none => .error .other
  | _, _ => .error .other

/-- mirrors script_voiceover.py:182-190 -/
def requireAudioFacts (facts : MediaStreamFacts) : Except BatchRaised Nat :=
  match facts.kind, facts.durationMs with
  | .audio, some durationMs =>
    if 1 ≤ durationMs ∧ durationMs ≤ maxMaterialDurationMs then .ok durationMs
    else .error .rejected
  | _, _ => .error .rejected

/-- From the file a sentence was written to, to its clip.
mirrors script_voiceover.py:235-248 -/
def measuredClip (host : Host) (conduct : SentenceConduct) (sentence : ScriptSentence)
    (relative output : WorkspacePath) (bytesWritten : Nat) (tree : Tree) :
    Except BatchRaised ScriptVoiceoverClip := do
  let bytesWritten ← requireWrittenAudio conduct.statRead tree output bytesWritten
  let facts ← readStreamFacts host conduct.probed tree output
  let durationMs ← requireAudioFacts facts
  voiceoverClip sentence relative durationMs bytesWritten

/-- One turn of the loop.
mirrors script_voiceover.py:230-248 -/
def synthesizeSentence (host : Host) (conduct : SentenceConduct) (sentence : ScriptSentence)
    (w : AuthoringWorkspace) : Except BatchRaised ScriptVoiceoverClip × AuthoringWorkspace :=
  match cancelIfRequested conduct.requested with
  | .error raised => (.error raised, w)
  | .ok () =>
    match freshOutputPath host.links conduct.parentRead w.tree (relativePath sentence.sequence) with
    | .error raised => (.error raised, w)
    | .ok output =>
      match synthesizeVoiceover host conduct sentence.text (relativePath sentence.sequence) w with
      | (.error raised, w) => (.error raised, w)
      | (.ok bytesWritten, w) =>
        (measuredClip host conduct sentence (relativePath sentence.sequence) output bytesWritten
          w.tree, w)

def synthesizeSentences (host : Host) (conduct : Nat → SentenceConduct) :
    List ScriptSentence → AuthoringWorkspace →
      Except BatchRaised (List ScriptVoiceoverClip) × AuthoringWorkspace
  | [], w => (.ok [], w)
  | sentence :: sentences, w =>
    match synthesizeSentence host (conduct sentence.sequence) sentence w with
    | (.error raised, w) => (.error raised, w)
    | (.ok clip, w) =>
      match synthesizeSentences host conduct sentences w with
      | (.error raised, w) => (.error raised, w)
      | (.ok clips, w) => (.ok (clip :: clips), w)

/-- How a batch goes: whether the tools are all there, whether the folder's entry is read in the
first pass, whether the batch's own view opens, and every sentence. -/
structure BatchConduct where
  toolsReady : Bool
  parentRead : Nat → Bool
  viewed : Bool
  sentences : Nat → SentenceConduct

/-- mirrors script_voiceover.py:212-229 -/
def preflight (host : Host) (script : SegmentedScript) (conduct : BatchConduct) (tree : Tree) :
    Except BatchRaised Unit := do
  if conduct.toolsReady = false then throw .other
  script.sentences.forM fun sentence => do
    let _ ← freshOutputPath host.links (conduct.parentRead sentence.sequence) tree
      (relativePath sentence.sequence)
  if conduct.viewed = false then throw .other

/-- An exception that is none of the batch's own is reported as a rejection. -/
def reported : BatchRaised → BatchRaised
  | .other => .rejected
  | raised => raised

/-- mirrors script_voiceover.py:193-263 -/
def synthesizeScriptVoiceovers (host : Host) (script : SegmentedScript) (conduct : BatchConduct)
    (tree : Tree) : Except BatchRaised ScriptVoiceoverResult × Tree :=
  match preflight host script conduct tree with
  -- no view yet, nothing to roll back
  | .error raised => (.error (reported raised), tree)
  | .ok () =>
    match synthesizeSentences host conduct.sentences script.sentences
        (AuthoringWorkspace.view tree) with
    | (.error raised, w) => (.error (reported raised), w.rollbackAuthoredFiles.tree)
    | (.ok clips, w) =>
      match voiceoverResult script.requestId clips with
      | .error raised => (.error (reported raised), w.rollbackAuthoredFiles.tree)
      | .ok result => (.ok result, w.tree)

/-! ## One sentence -/

variable {host : Host} {conduct : SentenceConduct} {sentence : ScriptSentence}
  {clip : ScriptVoiceoverClip} {w w' : AuthoringWorkspace}

omit [UnicodeData] in
theorem freshOutputPath_free {links : Links} {parentRead : Bool} {tree : Tree}
    {relative output : WorkspacePath}
    (h : freshOutputPath links parentRead tree relative = .ok output) :
    resolve links tree relative = .ok relative ∧ output = relative ∧ tree relative = none := by
  unfold freshOutputPath at h
  split at h
  · exact nomatch h
  · rename_i resolved hresolve
    split at h
    · exact nomatch h
    · rename_i hfree
      simp only [not_or, not_not, Bool.not_eq_true] at hfree
      obtain ⟨rfl, hlink, hthere⟩ := hfree
      have hnone : tree resolved = none := by
        cases hentry : tree resolved with
        | none => rfl
        | some entry => cases entry <;> simp [hentry, isLink, there] at hlink hthere
      split at h
      · exact nomatch h
      · exact ⟨hresolve, (Except.ok.inj h).symm, hnone⟩
      · exact ⟨hresolve, (Except.ok.inj h).symm, hnone⟩
      · exact nomatch h

theorem synthesizeVoiceover_scoped {before : Tree} (hscoped : Scoped before w)
    {narration : List Char} {relative : WorkspacePath}
    (hresolve : resolve host.links w.tree relative = .ok relative)
    (hfree : isFile (before relative) = false) :
    Scoped before (synthesizeVoiceover host conduct narration relative w).2 := by
  have hwrite : ∀ payload, Scoped before
      (w.writeBytes host.links conduct.write relative payload).2 := by
    intro payload
    apply write_scoped hscoped
    intro target htarget
    rw [hresolve] at htarget
    rw [← Except.ok.inj htarget]
    exact hfree
  unfold synthesizeVoiceover
  split
  · split
    · exact hscoped
    · rename_i payload _
      split
      · have hwrite := hwrite payload
        split
        · rename_i h
          rw [h] at hwrite
          exact hwrite
        · rename_i h
          rw [h] at hwrite
          exact hwrite
      · exact hscoped
  · exact hscoped

/-- Wherever a sentence stops, only authored files are new. -/
theorem synthesizeSentence_scoped {before : Tree} (hscoped : Scoped before w) :
    Scoped before (synthesizeSentence host conduct sentence w).2 := by
  unfold synthesizeSentence
  split
  · exact hscoped
  · split
    · exact hscoped
    · rename_i output houtput
      obtain ⟨hresolve, -, hnone⟩ := freshOutputPath_free houtput
      have hspoken : Scoped before (synthesizeVoiceover host conduct sentence.text
          (relativePath sentence.sequence) w).2 :=
        synthesizeVoiceover_scoped hscoped hresolve (hscoped.isFile_of_none hnone)
      split
      · rename_i h
        rw [h] at hspoken
        exact hspoken
      · rename_i h
        rw [h] at hspoken
        exact hspoken

theorem synthesizeVoiceover_written {narration : List Char} {relative : WorkspacePath}
    {bytesWritten : Nat}
    (h : synthesizeVoiceover host conduct narration relative w = (.ok bytesWritten, w')) :
    ∃ payload, payload.length = bytesWritten ∧ ∃ target,
      w.writeBytes host.links conduct.write relative payload = (.ok target, w') := by
  unfold synthesizeVoiceover at h
  split at h
  · split at h
    · simp at h
    · rename_i payload _
      split at h
      · split at h
        · simp at h
        · rename_i target v hwrite
          simp only [Prod.mk.injEq, Except.ok.injEq] at h
          obtain ⟨hlength, rfl⟩ := h
          exact ⟨payload, hlength, target, hwrite⟩
      · simp at h
  · simp at h

/-- What the probe says of a clip's audio. -/
def Measured (host : Host) (clip : ScriptVoiceoverClip) (audio : Bytes) : Prop :=
  audio.length = clip.bytesWritten ∧ ∃ facts, host.streamFacts audio = some facts ∧
    facts.kind = .audio ∧ facts.durationMs = some clip.durationMs

omit [UnicodeData] [CaseFolding] in
theorem requireWrittenAudio_ok {statRead : Bool} {tree : Tree} {output : WorkspacePath}
    {bytesWritten measured : Nat}
    (h : requireWrittenAudio statRead tree output bytesWritten = .ok measured) :
    ∃ audio, tree output = some (.file audio) ∧ audio.length = measured := by
  unfold requireWrittenAudio at h
  split at h
  · split at h
    · rename_i audio haudio
      split at h
      · rename_i hlength
        exact ⟨audio, haudio, hlength.trans (Except.ok.inj h)⟩
      · exact nomatch h
    · exact nomatch h
  · exact nomatch h

omit [UnicodeData] [CaseFolding] in
theorem readStreamFacts_ok {probed : Bool} {tree : Tree} {source : WorkspacePath} {audio : Bytes}
    {facts : MediaStreamFacts} (haudio : tree source = some (.file audio))
    (h : readStreamFacts host probed tree source = .ok facts) :
    host.streamFacts audio = some facts := by
  unfold readStreamFacts at h
  rw [haudio] at h
  split at h
  · rename_i content hcontent
    obtain rfl : audio = content := by simpa using hcontent
    split at h
    · rename_i facts' hfacts
      rw [hfacts, Except.ok.inj h]
    · exact nomatch h
  · exact nomatch h

omit [UnicodeData] [CaseFolding] in
theorem requireAudioFacts_ok {facts : MediaStreamFacts} {durationMs : Nat}
    (h : requireAudioFacts facts = .ok durationMs) :
    facts.kind = .audio ∧ facts.durationMs = some durationMs := by
  unfold requireAudioFacts at h
  split at h
  · rename_i hkind hduration
    split at h
    · exact ⟨hkind, by rw [hduration, Except.ok.inj h]⟩
    · exact nomatch h
  · exact nomatch h

omit [CaseFolding] in
theorem voiceoverClip_ok {path : WorkspacePath} {durationMs bytesWritten : Nat}
    (h : voiceoverClip sentence path durationMs bytesWritten = .ok clip) :
    clip.sentence = sentence ∧ clip.path = path ∧ clip.durationMs = durationMs ∧
      clip.bytesWritten = bytesWritten := by
  unfold voiceoverClip at h
  split at h
  · rw [← Except.ok.inj h]
    exact ⟨rfl, rfl, rfl, rfl⟩
  · exact nomatch h

omit [CaseFolding] in
theorem measuredClip_spec {relative output : WorkspacePath} {bytesWritten : Nat} {tree : Tree}
    (h : measuredClip host conduct sentence relative output bytesWritten tree = .ok clip) :
    clip.sentence = sentence ∧ clip.path = relative ∧
      ∃ audio, tree output = some (.file audio) ∧ Measured host clip audio := by
  unfold measuredClip at h
  cases hwritten : requireWrittenAudio conduct.statRead tree output bytesWritten with
  | error => simp [hwritten, bind, Except.bind] at h
  | ok measured =>
    obtain ⟨audio, haudio, hlength⟩ := requireWrittenAudio_ok hwritten
    cases hread : readStreamFacts host conduct.probed tree output with
    | error => simp [hwritten, hread, bind, Except.bind] at h
    | ok facts =>
      have hfacts := readStreamFacts_ok haudio hread
      cases haccepted : requireAudioFacts facts with
      | error => simp [hwritten, hread, haccepted, bind, Except.bind] at h
      | ok durationMs =>
        obtain ⟨hkind, hduration⟩ := requireAudioFacts_ok haccepted
        simp only [hwritten, hread, haccepted, bind, Except.bind] at h
        obtain ⟨hsentence, hpath, hms, hbytes⟩ := voiceoverClip_ok h
        exact ⟨hsentence, hpath, audio, haudio, by rw [hlength, hbytes],
          facts, hfacts, hkind, by rw [hduration, hms]⟩

/-- The clips' files are new, and hold what the clips say; everything else is as before, but for
folders that were made. -/
structure Added (host : Host) (before : Tree) (clips : List ScriptVoiceoverClip) (after : Tree) :
    Prop where
  fresh : ∀ clip ∈ clips, before clip.path = none
  distinct : (clips.map (·.path)).Nodup
  written : ∀ clip ∈ clips, ∃ audio, after clip.path = some (.file audio) ∧
    Measured host clip audio
  kept : ∀ path ∉ clips.map (·.path), after path = before path ∨
    before path = none ∧ after path = some .folder

theorem synthesizeSentence_added
    (h : synthesizeSentence host conduct sentence w = (.ok clip, w')) :
    clip.sentence = sentence ∧ Added host w.tree [clip] w'.tree := by
  unfold synthesizeSentence at h
  split at h
  · simp at h
  · split at h
    · simp at h
    · rename_i output houtput
      obtain ⟨hresolve, rfl, hnone⟩ := freshOutputPath_free houtput
      split at h
      · simp at h
      · rename_i bytesWritten v hspoken
        simp only [Prod.mk.injEq] at h
        obtain ⟨hclip, rfl⟩ := h
        obtain ⟨hsentence, hpath, audio, haudio, hmeasured⟩ := measuredClip_spec hclip
        obtain ⟨payload, -, target, hwrite⟩ := synthesizeVoiceover_written hspoken
        obtain ⟨htarget, -, hkept⟩ := write_written hwrite
        obtain rfl : relativePath sentence.sequence = target := by
          rw [hresolve] at htarget
          exact Except.ok.inj htarget
        refine ⟨hsentence, ?_, List.nodup_singleton _, ?_, ?_⟩
        · simpa [hpath] using hnone
        · simpa [hpath] using ⟨audio, haudio, hmeasured⟩
        · intro path hother
          apply hkept path
          simpa [hpath] using hother

/-! ## The batch -/

theorem synthesizeSentences_scoped {before : Tree} {conduct : Nat → SentenceConduct}
    (sentences : List ScriptSentence) (hscoped : Scoped before w) :
    Scoped before (synthesizeSentences host conduct sentences w).2 := by
  induction sentences generalizing w with
  | nil => exact hscoped
  | cons sentence sentences ih =>
    have hsentence : Scoped before
        (synthesizeSentence host (conduct sentence.sequence) sentence w).2 :=
      synthesizeSentence_scoped hscoped
    unfold synthesizeSentences
    split
    · rename_i h
      rw [h] at hsentence
      exact hsentence
    · rename_i v h
      rw [h] at hsentence
      have hrest := ih hsentence
      split
      · rename_i h
        rw [h] at hrest
        exact hrest
      · rename_i h
        rw [h] at hrest
        exact hrest

omit [CaseFolding] in
theorem voiceoverResult_ok {requestId : List Char} {clips : List ScriptVoiceoverClip}
    {result : ScriptVoiceoverResult} (h : voiceoverResult requestId clips = .ok result) :
    result.clips = clips := by
  unfold voiceoverResult at h
  split at h
  · rw [← Except.ok.inj h]
  · exact nomatch h

omit [CaseFolding] in
theorem Added.cons {host : Host} {before between after : Tree} {clip : ScriptVoiceoverClip}
    {clips : List ScriptVoiceoverClip} (h : Added host before [clip] between)
    (hrest : Added host between clips after) : Added host before (clip :: clips) after := by
  obtain ⟨audio, haudio, hmeasured⟩ := h.written clip (.head _)
  have hlater : ∀ later ∈ clips, later.path ≠ clip.path := by
    intro later hlater hpath
    have hfresh := hrest.fresh later hlater
    rw [hpath, haudio] at hfresh
    exact nomatch hfresh
  have hclip : clip.path ∉ clips.map (·.path) := by
    intro hmem
    obtain ⟨later, hmem, hpath⟩ := List.mem_map.1 hmem
    exact hlater later hmem hpath
  have hkept : ∀ path, path ≠ clip.path → between path = before path ∨
      before path = none ∧ between path = some .folder :=
    fun path hpath => h.kept path (by simpa using hpath)
  refine ⟨?_, ?_, ?_, ?_⟩
  · intro later hmem
    obtain rfl | hmem := List.mem_cons.1 hmem
    · exact h.fresh later (.head _)
    · obtain hsame | ⟨hnone, -⟩ := hkept later.path (hlater later hmem)
      · rw [← hsame, hrest.fresh later hmem]
      · exact hnone
  · rw [List.map_cons, List.nodup_cons]
    exact ⟨hclip, hrest.distinct⟩
  · intro later hmem
    obtain rfl | hmem := List.mem_cons.1 hmem
    · refine ⟨audio, ?_, hmeasured⟩
      obtain hsame | ⟨hnone, -⟩ := hrest.kept later.path hclip
      · rw [hsame, haudio]
      · rw [haudio] at hnone
        exact nomatch hnone
    · exact hrest.written later hmem
  · intro path hpath
    simp only [List.map_cons, List.mem_cons, not_or] at hpath
    obtain ⟨hne, hnot⟩ := hpath
    obtain hsame | ⟨hnone, hfolder⟩ := hrest.kept path hnot
    · rw [hsame]
      exact hkept path hne
    · obtain hsame | ⟨hnone', hfolder'⟩ := hkept path hne
      · rw [← hsame]
        exact .inr ⟨hnone, hfolder⟩
      · rw [hfolder'] at hnone
        exact nomatch hnone

theorem synthesizeSentences_added {conduct : Nat → SentenceConduct}
    (sentences : List ScriptSentence) {clips : List ScriptVoiceoverClip}
    (h : synthesizeSentences host conduct sentences w = (.ok clips, w')) :
    clips.map (·.sentence) = sentences ∧ Added host w.tree clips w'.tree := by
  induction sentences generalizing w clips with
  | nil =>
    simp only [synthesizeSentences, Prod.mk.injEq, Except.ok.injEq] at h
    obtain ⟨rfl, rfl⟩ := h
    exact ⟨rfl, nofun, List.nodup_nil, nofun, fun _ _ => .inl rfl⟩
  | cons sentence sentences ih =>
    unfold synthesizeSentences at h
    split at h
    · simp at h
    · rename_i clip v hsentence
      split at h
      · simp at h
      · rename_i rest v' hrest
        simp only [Prod.mk.injEq, Except.ok.injEq] at h
        obtain ⟨rfl, rfl⟩ := h
        obtain ⟨hclip, hadded⟩ := synthesizeSentence_added hsentence
        obtain ⟨hclips, hothers⟩ := ih hrest
        exact ⟨by rw [List.map_cons, hclip, hclips], hadded.cons hothers⟩

/-- **All or nothing**: a batch that raises, wherever it does, leaves every entry of the workspace
as it was, up to folders that were made; one that returns has added one file for every sentence,
under the path, of the size and of the duration its clip says, and nothing else. -/
theorem batch_exact (host : Host) (script : SegmentedScript) (conduct : BatchConduct)
    (tree : Tree) :
    match synthesizeScriptVoiceovers host script conduct tree with
    | (.error _, after) => Kept tree after
    | (.ok result, after) =>
      result.clips.map (·.sentence) = script.sentences ∧ Added host tree result.clips after := by
  have hscoped : Scoped tree (synthesizeSentences host conduct.sentences script.sentences
      (AuthoringWorkspace.view tree)).2 :=
    synthesizeSentences_scoped script.sentences (view_scoped tree)
  unfold synthesizeScriptVoiceovers
  cases preflight host script conduct tree with
  | error raised => exact .refl tree
  | ok =>
    match h : synthesizeSentences host conduct.sentences script.sentences
        (AuthoringWorkspace.view tree) with
    | (.error raised, w) =>
      rw [h] at hscoped
      exact rollback_kept hscoped
    | (.ok clips, w) =>
      rw [h] at hscoped
      cases hresult : voiceoverResult script.requestId clips with
      | error raised =>
        simp only [hresult]
        exact rollback_kept hscoped
      | ok result =>
        have hclips := voiceoverResult_ok hresult
        have hadded := synthesizeSentences_added script.sentences h
        rw [← hclips] at hadded
        simp only [hresult]
        exact hadded

end

end AutomationTool.Executor.ScriptVoiceover
