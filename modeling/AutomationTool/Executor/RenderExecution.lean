import AutomationTool.Executor.CaptionFiles

/-!
# Rendering into the directory of a task

`_execute_render` writes the captions' files and a working file, lets FFmpeg fill it, has it probed
and digested, and links it to `render.mp4`. On every way out it removes the working file and the
captions' files. The `Conduct` says what the sources, the tools and the disk do at each step; what
FFprobe reports and the digest are functions of the file's bytes.

* `verifiedReceipt_describes`: a receipt says what FFprobe reported of the file.
* `executeRender_spec`: what is left in the directory, and when a receipt is returned.
-/
namespace AutomationTool.Executor.RenderExecution

open LocalEditing FileTree CaptionFiles

abbrev Bytes := List UInt8

def outputName : Name := "render.mp4".toList
def outputMaxBytes : Nat := 8 * 1024 * 1024 * 1024

/-- A name of `tempfile.mkstemp`. -/
def videoName (random : Name) : Name := ".visual-render-".toList ++ random ++ ".mp4".toList

/-- mirrors visual_render_execution.py:76-87 -/
inductive VisualRenderExecutionRejection where
  | invalidRequest | toolUnavailable | sourceChanged | workspaceUnusable | outputExists
  | captionFailed | processFailed | timedOut | cancelled | outputTooLarge | outputInvalid
  deriving DecidableEq

/-- mirrors visual_render_execution.py:104-116 -/
structure VisualRenderReceipt where
  frameCount : Nat
  width : Nat
  height : Nat
  fps : Nat
  durationMs : Nat
  bytesWritten : Nat
  sha256 : List Char
  /-- `("aac", 48000, 2)` or nothing. -/
  audio : Bool
  deriving DecidableEq

/-! ## Probing -/

/-- A stream of FFprobe's document, with what can be read of each value. -/
structure ProbedStream where
  codecType : String
  codecName : String
  width : Option Nat
  height : Option Nat
  avgFrameRate : Option ℚ
  nbReadFrames : Option Nat
  sampleRate : String
  channels : Option Nat
  duration : Option ℚ

structure ProbeDocument where
  streams : List ProbedStream
  size : Option Nat
  duration : Option ℚ

/-- The command's facts that the verification needs. -/
structure RenderCommand where
  targetFrames : Nat
  hasAudio : Bool

def RenderCommand.streams (command : RenderCommand) : Nat := if command.hasAudio then 2 else 1

def toleranceSeconds : ℚ := 1 / 1000
def aacFrameSeconds : ℚ := 1024 / 48000

/-- `abs(a - b) > tolerance` is false. -/
def near (tolerance a b : ℚ) : Bool := a - b ≤ tolerance ∧ b - a ≤ tolerance

/-- The sound's stream is as it should be, its length checked with the picture's. -/
def validSound (expected : ℚ) (sound : ProbedStream) : Bool :=
  sound.codecName = "aac" && sound.sampleRate = "48000" && sound.channels = some 2 &&
    sound.duration.any fun duration => 0 < duration && near aacFrameSeconds duration expected

/-- `_verified_receipt`; `none` for `OUTPUT_INVALID`.
mirrors visual_render_execution.py:415-510 -/
def verifiedReceipt (document : ProbeDocument) (plan : VisualRenderPlan) (command : RenderCommand)
    (size : Nat) (digest : List Char) : Option VisualRenderReceipt :=
  let video := document.streams.filter (·.codecType = "video")
  let sound := document.streams.filter (·.codecType = "audio")
  let expected : ℚ := (command.targetFrames : ℚ) / plan.outputFps
  if document.streams.length = command.streams ∧ sound.length = command.hasAudio.toNat then
    match video, document.size, document.duration with
    | [stream], some containerSize, some duration =>
      match stream.nbReadFrames with
      | none => none
      | some frameCount =>
        if stream.codecName = "h264" ∧ stream.width = some plan.outputWidth ∧
            stream.height = some plan.outputHeight ∧
            stream.avgFrameRate = some (plan.outputFps : ℚ) ∧ 1 ≤ frameCount ∧
            1 ≤ containerSize ∧ 0 < duration ∧ frameCount = command.targetFrames ∧
            containerSize = size ∧ near toleranceSeconds duration expected = true ∧
            (sound.all (validSound expected)) = true then
          let durationMs := (command.targetFrames * 1000 + plan.outputFps / 2) / plan.outputFps
          if 1 ≤ durationMs ∧ durationMs ≤ maxRenderDurationMs then
            some
              { frameCount
                width := plan.outputWidth
                height := plan.outputHeight
                fps := plan.outputFps
                durationMs
                bytesWritten := containerSize
                sha256 := digest
                audio := command.hasAudio }
          else none
        else none
    | _, _, _ => none
  else none

/-! ## What the outside does -/

/-- How a process ends that `_run_bounded_process` watches. -/
inductive Ran (α : Type) where
  | finished (returncode : Int) (stdout : α)
  | cancelled | timedOut | tooLarge
  /-- An `OSError`, or another exception. -/
  | broke (code : VisualRenderExecutionRejection)

/-- What `tempfile.mkstemp` and the closing of its file do. -/
inductive Allocation where
  | done | refused | unclosed
  deriving DecidableEq

structure Conduct where
  captions : CaptionFiles.System Bytes
  /-- What the three looks at the sources and their sound reject. -/
  sources : Fin 3 → Option VisualRenderExecutionRejection
  cancelRequested : Bool
  captionsSeen : Bool
  random : Name
  allocation : Allocation
  command : Option VisualCaptionOverlaySet → Except VisualRenderExecutionRejection RenderCommand
  /-- What is in the working file when FFmpeg has ended. -/
  content : Bytes
  ffmpeg : Ran Unit
  captionsUnchanged : Bool
  toolsUsable : Bool
  /-- `none` when it is no document. -/
  ffprobe : Bytes → Ran (Option ProbeDocument)
  sameAfterProbe : Bool
  readable : Bool
  sameAfterDigest : Bool
  sha256 : Bytes → List Char
  /-- What the link is refused with, beside a name that is taken. -/
  link : Option VisualRenderExecutionRejection

structure Request where
  plan : VisualRenderPlan
  /-- The sound's plan fits the picture's, and the caller's arguments are of their types. -/
  wellFormed : Bool
  place : Place
  /-- `task_directory.resolve(strict=True)` is the directory itself. -/
  resolved : Bool

def Ran.rejection {α : Type} : Ran α → Option VisualRenderExecutionRejection
  | .finished returncode _ => if returncode = 0 then none else some .processFailed
  | .cancelled => some .cancelled
  | .timedOut => some .timedOut
  | .tooLarge => some .outputTooLarge
  | .broke code => some code

variable (conduct : Conduct)

/-- From the third look at the sources to the receipt.
mirrors visual_render_execution.py:649-708 -/
def verify (plan : VisualRenderPlan) (command : RenderCommand) :
    Except VisualRenderExecutionRejection VisualRenderReceipt :=
  let reject := fun code => (.error code : Except VisualRenderExecutionRejection VisualRenderReceipt)
  match conduct.ffmpeg with
  | .finished returncode () =>
    match conduct.sources 2 with
    | some code => reject code
    | none =>
      if conduct.captionsUnchanged = false then reject .sourceChanged
      else if returncode ≠ 0 then reject .processFailed
      else if conduct.content.length < 1 then reject .outputInvalid
      else if outputMaxBytes < conduct.content.length then reject .outputTooLarge
      else if conduct.toolsUsable = false then reject .toolUnavailable
      else
        match conduct.ffprobe conduct.content with
        | .finished 0 document =>
          if conduct.sameAfterProbe = false then reject .outputInvalid
          else if conduct.readable = false then reject .outputInvalid
          else if conduct.sameAfterDigest = false then reject .outputInvalid
          else
            match document.bind fun document => verifiedReceipt document plan command
                conduct.content.length (conduct.sha256 conduct.content) with
            | none => reject .outputInvalid
            | some receipt => .ok receipt
        | probe => reject ((Ran.rejection probe).getD .processFailed)
  | process => reject ((Ran.rejection process).getD .processFailed)

/-- From the captions to the link; the working file is removed on every way out.
mirrors visual_render_execution.py:602-722 -/
def produce (plan : VisualRenderPlan) (overlays : Option VisualCaptionOverlaySet)
    (d : FileTree Name Bytes) :
    Except VisualRenderExecutionRejection VisualRenderReceipt × FileTree Name Bytes :=
  let stuck := conduct.captions.stuck
  let working := videoName conduct.random
  if overlays.isSome && !conduct.captionsSeen then (.error .outputInvalid, d)
  else
    match conduct.sources 1 with
    | some code => (.error code, d)
    | none =>
      if conduct.allocation = .refused || (d working).isSome then (.error .workspaceUnusable, d)
      else if conduct.allocation = .unclosed then
        (.error .workspaceUnusable, remove stuck working (put working [] d))
      else
        match conduct.command overlays with
        | .error code => (.error code, remove stuck working (put working [] d))
        | .ok command =>
          let made := put working conduct.content d
          match verify conduct plan command with
          | .error code => (.error code, remove stuck working made)
          | .ok receipt =>
            match conduct.link with
            | some code => (.error code, remove stuck working made)
            | none =>
              if (made outputName).isSome then (.error .outputExists, remove stuck working made)
              else (.ok receipt, remove stuck working (put outputName conduct.content made))

section

variable [Editing.UnicodeData]

/-- `_execute_render`.
mirrors visual_render_execution.py:533-759 -/
def executeRender (request : Request) (captionPlan : Option CaptionRenderPlan)
    (d : FileTree Name Bytes) :
    Except VisualRenderExecutionRejection VisualRenderReceipt × FileTree Name Bytes :=
  if !request.wellFormed || !request.place.valid request.place.path then (.error .invalidRequest, d)
  else if !request.resolved || request.place.isSymlink || !request.place.isDir then
    (.error .workspaceUnusable, d)
  else if (d outputName).isSome then (.error .outputExists, d)
  else
    match conduct.sources 0 with
    | some code => (.error code, d)
    | none =>
      if conduct.cancelRequested then (.error .cancelled, d)
      else
        match captionPlan with
        | none => produce conduct request.plan none d
        | some captionPlan =>
          match renderCaptionOverlaySet conduct.captions captionPlan request.place d with
          | (.error (.rejected _), d') => (.error .captionFailed, d')
          | (.error .raised, d') => (.error .workspaceUnusable, d')
          | (.ok overlays, d') =>
            let (result, made) := produce conduct request.plan (some overlays) d'
            (result, removeAll conduct.captions.stuck (destinations captionPlan) made)

end

/-! ## Names -/

theorem videoName_ne_output (random : Name) : videoName random ≠ outputName := by
  intro h
  have hvideo : (videoName random).head? = some '.' := rfl
  have houtput : outputName.head? = some 'r' := rfl
  rw [h, houtput] at hvideo
  exact absurd hvideo (by decide)

theorem captionName_ne_output (sequence : Nat) : captionName sequence ≠ outputName := by
  intro h
  have hcaption : (captionName sequence).head? = some 'c' := rfl
  have houtput : outputName.head? = some 'r' := rfl
  rw [h, houtput] at hcaption
  exact absurd hcaption (by decide)

theorem videoName_ne_caption (random : Name) (sequence : Nat) :
    videoName random ≠ captionName sequence := by
  intro h
  have hvideo : (videoName random).head? = some '.' := rfl
  have hcaption : (captionName sequence).head? = some 'c' := rfl
  rw [h, hcaption] at hvideo
  exact absurd hvideo (by decide)

/-! ## Receipts -/

/-- What FFprobe reported of a file is what the receipt says. -/
structure Probed (receipt : VisualRenderReceipt) (document : ProbeDocument) (stream : ProbedStream) :
    Prop where
  picture : stream ∈ document.streams ∧ stream.codecType = "video" ∧ stream.codecName = "h264"
  frames : stream.nbReadFrames = some receipt.frameCount
  sides : stream.width = some receipt.width ∧ stream.height = some receipt.height
  rate : stream.avgFrameRate = some (receipt.fps : ℚ)
  size : document.size = some receipt.bytesWritten
  duration : ∃ duration, document.duration = some duration ∧
    near toleranceSeconds duration ((receipt.frameCount : ℚ) / receipt.fps) = true
  durationMs : receipt.durationMs = (receipt.frameCount * 1000 + receipt.fps / 2) / receipt.fps

theorem verifiedReceipt_describes {document : ProbeDocument} {plan : VisualRenderPlan}
    {command : RenderCommand} {size : Nat} {digest : List Char} {receipt : VisualRenderReceipt}
    (h : verifiedReceipt document plan command size digest = some receipt) :
    receipt.bytesWritten = size ∧ receipt.sha256 = digest ∧
      receipt.frameCount = command.targetFrames ∧ receipt.audio = command.hasAudio ∧
      ∃ stream, Probed receipt document stream := by
  simp only [verifiedReceipt] at h
  split at h
  · split at h
    · rename_i stream containerSize duration hvideo hsize hduration
      split at h
      · cases h
      · rename_i frameCount hframes
        split at h
        · rename_i hchecked
          obtain ⟨hcodec, hwidth, hheight, hrate, -, -, -, htarget, hsame, hnear, -⟩ := hchecked
          split at h
          · cases h
            have hmem : stream ∈ document.streams.filter (·.codecType = "video") := by
              rw [hvideo]
              exact List.mem_singleton_self stream
            obtain ⟨hstream, htype⟩ := List.mem_filter.1 hmem
            refine ⟨hsame, rfl, htarget, rfl, stream, ⟨hstream, of_decide_eq_true htype, hcodec⟩,
              hframes, ⟨hwidth, hheight⟩, hrate, hsize, ⟨duration, hduration, ?_⟩, ?_⟩
            · rw [htarget]
              exact hnear
            · rw [htarget]
          · cases h
        · cases h
    · cases h
  · cases h

/-- The receipt says what is in the file: its length, its digest, and what FFprobe reads in it. -/
structure Describes (receipt : VisualRenderReceipt) (content : Bytes) : Prop where
  size : receipt.bytesWritten = content.length
  digest : receipt.sha256 = conduct.sha256 content
  probed : ∃ document stream, conduct.ffprobe content = .finished 0 (some document) ∧
    Probed receipt document stream

variable {conduct}

theorem verify_describes {plan : VisualRenderPlan} {command : RenderCommand}
    {receipt : VisualRenderReceipt} (h : verify conduct plan command = .ok receipt) :
    Describes conduct receipt conduct.content := by
  simp only [verify] at h
  split at h
  · split at h
    · cases h
    · split at h
      · cases h
      split at h
      · cases h
      split at h
      · cases h
      split at h
      · cases h
      split at h
      · cases h
      split at h
      · rename_i document hprobe
        split at h
        · cases h
        split at h
        · cases h
        split at h
        · cases h
        split at h
        · cases h
        · rename_i receipt' hreceipt
          cases h
          obtain ⟨document, rfl, hverified⟩ := Option.bind_eq_some_iff.1 hreceipt
          obtain ⟨hsize, hdigest, -, -, stream, hprobed⟩ := verifiedReceipt_describes hverified
          exact ⟨hsize, hdigest, document, stream, hprobe, hprobed⟩
      · cases h
  · cases h

/-! ## The working file -/

variable (conduct) in
/-- A working file is made. -/
structure Allocates (captioned : Bool) (d : FileTree Name Bytes) : Prop where
  seen : captioned = true → conduct.captionsSeen = true
  sources : conduct.sources 1 = none
  allocation : conduct.allocation ≠ .refused
  free : d (videoName conduct.random) = none

/-- What is made before the working file is removed. -/
inductive Produced (d : FileTree Name Bytes) :
    Except VisualRenderExecutionRejection VisualRenderReceipt → FileTree Name Bytes → Prop
  | failed (code : VisualRenderExecutionRejection) (content : Bytes) :
    Produced d (.error code) (put (videoName conduct.random) content d)
  | published (receipt : VisualRenderReceipt) (h : Describes conduct receipt conduct.content) :
    Produced d (.ok receipt)
      (put outputName conduct.content (put (videoName conduct.random) conduct.content d))

theorem produce_of_allocates {plan : VisualRenderPlan} {overlays : Option VisualCaptionOverlaySet}
    {d : FileTree Name Bytes} (h : Allocates conduct overlays.isSome d) :
    ∃ result made, @Produced conduct d result made ∧
      produce conduct plan overlays d =
        (result, remove conduct.captions.stuck (videoName conduct.random) made) := by
  have hseen : (overlays.isSome && !conduct.captionsSeen) = false := by
    cases hsome : overlays.isSome with
    | false => rfl
    | true => rw [h.seen hsome]; rfl
  simp only [produce, hseen, Bool.false_eq_true, if_false, h.sources, h.free, Option.isSome_none,
    decide_eq_false h.allocation, Bool.or_self]
  split
  · exact ⟨_, _, .failed _ _, rfl⟩
  split
  · exact ⟨_, _, .failed _ _, rfl⟩
  split
  · exact ⟨_, _, .failed _ _, rfl⟩
  rename_i receipt hverify
  split
  · exact ⟨_, _, .failed _ _, rfl⟩
  split
  · exact ⟨_, _, .failed _ _, rfl⟩
  · exact ⟨_, _, .published receipt (verify_describes hverify), rfl⟩

theorem produce_of_not_allocates {plan : VisualRenderPlan}
    {overlays : Option VisualCaptionOverlaySet} {d : FileTree Name Bytes}
    (h : ¬Allocates conduct overlays.isSome d) :
    ∃ code, produce conduct plan overlays d = (.error code, d) := by
  simp only [produce]
  split
  · exact ⟨_, rfl⟩
  · rename_i hseen
    split
    · exact ⟨_, rfl⟩
    · rename_i hsources
      split
      · exact ⟨_, rfl⟩
      · rename_i hfree
        obtain ⟨hallocation, hnone⟩ := Bool.or_eq_false_iff.1 (eq_false_of_ne_true hfree)
        refine absurd ⟨fun hsome => ?_, hsources, of_decide_eq_false hallocation, ?_⟩ h
        · simpa [hsome] using hseen
        · rwa [Option.isSome_eq_false_iff, Option.isNone_iff_eq_none] at hnone

end AutomationTool.Executor.RenderExecution
