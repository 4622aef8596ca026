import AutomationTool.Core.Failing
import AutomationTool.Editing.Materials
import AutomationTool.Executor.MaterialPaths

/-!
# Local artifacts

`LocalArtifactStore` keeps the artifacts of one policy as private files of one
directory, `<artifact id>.<extension>` each. Nothing else describes what is
stored: every operation first takes an inventory of the directory and is
rejected when a single entry does not look like a finished artifact.

An operation is the list of the steps in which it changes the directory, and
what it returns, `none` for `LocalArtifactRejected`. One process uses the
directory at a time, so what an operation looks at twice is the same both
times; the identities of the directories and the second look at a file are left
out, and so are modes and owners: a file has its mode before its first byte.
`sha256` is the digest function.
-/
namespace AutomationTool.Executor.LocalArtifacts

open Editing (Uuid sha256Pattern)
open EditingWorker (Uuid4)
open MaterialPaths (usableIdentifier)

abbrev Bytes := List UInt8

/-! ## Policies and references -/

def maxLocalArtifactBytes : Nat := 64 * 1024 * 1024
def maxLocalArtifactsPerPolicy : Nat := 10000
def maxLocalArtifactRetentionSeconds : Nat := 365 * 24 * 60 * 60
def maxLocalArtifactMinimumFreeBytes : Nat := 4 * 1024 * 1024 * 1024
def maxRelativePathBytes : Nat := 512
def maxDirectorySegments : Nat := 8

def lowerOrDigit (c : Char) : Bool := ('a' ≤ c ∧ c ≤ 'z') ∨ ('0' ≤ c ∧ c ≤ '9')

/-- `^[a-z0-9][...]{0,rest}$`, with `more` for the characters beside `[a-z0-9]`. -/
def token (rest : Nat) (more : Char → Bool) : List Char → Bool
  | [] => false
  | c :: cs => lowerOrDigit c && cs.length ≤ rest && cs.all fun c => lowerOrDigit c || more c

/-- `_DIRECTORY_SEGMENT`. -/
def directorySegment : List Char → Bool := token 63 (· = '-')

/-- `_FILE_EXTENSION`. -/
def fileExtension : List Char → Bool := token 15 fun _ => false

/-- `_MEDIA_TYPE`. -/
def mediaType (value : List Char) : Bool :=
  let more (c : Char) : Bool := c ∈ "!#$&^_.+-".toList
  match value.splitOn '/' with
  | [type, subtype] => token 63 more type && token 127 more subtype
  | _ => false

/-- A relative path by its parts, none of them empty or `.`; all its characters are ASCII. -/
abbrev RelativePath := List (List Char)

/-- The length of `as_posix()`. -/
def pathLength (path : RelativePath) : Nat := (path.map List.length).sum + (path.length - 1)

/-- mirrors local_artifact.py:547-558 -/
def validRelativeDirectory (path : RelativePath) : Bool :=
  pathLength path ≤ 384 ∧ 1 ≤ path.length ∧ path.length ≤ maxDirectorySegments ∧
    path.all directorySegment

/-- mirrors local_artifact.py:561-576 -/
def validArtifactRelativePath (path : RelativePath) (artifactId : Uuid4) : Bool :=
  pathLength path ≤ maxRelativePathBytes && 2 ≤ path.length &&
    validRelativeDirectory path.dropLast &&
    path.getLast?.any fun name =>
      (name.dropPrefix? (Hex.hyphenated artifactId ++ ['.'])).any fileExtension

/-- mirrors local_artifact.py:41-79 -/
structure LocalArtifactPolicy where
  relativeDirectory : RelativePath
  fileExtension : List Char
  mediaType : List Char
  maximumBytes : Nat
  maximumArtifacts : Nat
  retentionSeconds : Nat := 7 * 24 * 60 * 60
  minimumFreeBytes : Nat := 64 * 1024 * 1024
  directory : validRelativeDirectory relativeDirectory = true
  extension : LocalArtifacts.fileExtension fileExtension = true
  media : LocalArtifacts.mediaType mediaType = true
  bytes : 1 ≤ maximumBytes ∧ maximumBytes ≤ maxLocalArtifactBytes
  artifacts : 1 ≤ maximumArtifacts ∧ maximumArtifacts ≤ maxLocalArtifactsPerPolicy
  retention : 1 ≤ retentionSeconds ∧ retentionSeconds ≤ maxLocalArtifactRetentionSeconds
  free : minimumFreeBytes ≤ maxLocalArtifactMinimumFreeBytes

/-- The name of an artifact's file. -/
def LocalArtifactPolicy.fileName (p : LocalArtifactPolicy) (artifactId : Uuid4) : List Char :=
  Hex.hyphenated artifactId ++ '.' :: p.fileExtension

def LocalArtifactPolicy.relativePath (p : LocalArtifactPolicy) (artifactId : Uuid4) : RelativePath :=
  p.relativeDirectory ++ [p.fileName artifactId]

/-- mirrors local_artifact.py:82-103 -/
structure LocalArtifactRef where
  artifactId : Uuid4
  sha256 : List Char
  mediaType : List Char
  sizeBytes : Nat
  relativePath : RelativePath
  digest : sha256Pattern sha256 = true
  media : LocalArtifacts.mediaType mediaType = true
  size : 1 ≤ sizeBytes ∧ sizeBytes ≤ maxLocalArtifactBytes
  path : validArtifactRelativePath relativePath artifactId = true
deriving DecidableEq

/-! ## The directory -/

structure File where
  bytes : Bytes
  modifiedNs : Nat

abbrev Directory := AList fun _ : List Char => File

/-- A step that changes the directory. -/
inductive Step
  | create (name : List Char) (now : Nat)
  | append (name : List Char) (bytes : Bytes) (now : Nat)
  | unlink (name : List Char)
deriving DecidableEq

def Step.apply (dir : Directory) : Step → Directory
  | .create name now => dir.insert name ⟨[], now⟩
  | .append name bytes now =>
    match dir.lookup name with
    | none => dir
    | some file => dir.insert name ⟨file.bytes ++ bytes, now⟩
  | .unlink name => dir.erase name

def after (dir : Directory) (steps : List Step) : Directory := steps.foldl Step.apply dir

/-- `_validate_private_file`, of a file with its mode and owner. -/
def validPrivateFile (maximumBytes : Nat) (file : File) : Bool :=
  1 ≤ file.bytes.length ∧ file.bytes.length ≤ maximumBytes

/-- mirrors local_artifact.py:579-588 -/
def artifactIdFromName (name extension : List Char) : Option Uuid4 :=
  (name.dropSuffix? ('.' :: extension)).bind fun source =>
    (Hex.ofHyphenated source).bind fun parsed =>
      if h : Editing.Uuid.version parsed = some 4 ∧ Hex.hyphenated parsed = source then some ⟨parsed, h.1⟩
      else none

/-- `_ArtifactEntry`. -/
structure Entry where
  artifactId : Uuid4
  file : File

/-- `_cleanup_order`; the texts of identifiers are in the order of their numbers. -/
def cleanupOrder (a b : Entry) : Prop :=
  toLex (a.file.modifiedNs, a.artifactId.1) ≤ toLex (b.file.modifiedNs, b.artifactId.1)

instance : DecidableRel cleanupOrder := fun _ _ => inferInstanceAs (Decidable (_ ≤ _))

/-! ## Operations -/

structure LocalArtifactCleanupResult where
  removedArtifacts : Nat
  removedBytes : Nat
  remainingArtifacts : Nat
deriving DecidableEq

/-- How the bytes of an artifact are written: `sizes` are one less than what each `os.write` takes,
the last takes the rest; an `OSError` may follow so many writes, and then the file is unlinked
unless that fails too. -/
structure WriteOutcome where
  sizes : List Nat := []
  fails : Option (Nat × Bool) := none

def pieces (payload : Bytes) : List Nat → List Bytes
  | [] => if payload = [] then [] else [payload]
  | n :: sizes =>
    if payload = [] then [] else payload.take (n + 1) :: pieces (payload.drop (n + 1)) sizes

section

variable (p : LocalArtifactPolicy) (sha256 : Bytes → {d : List Char // sha256Pattern d = true})

/-- `_reference`. -/
def reference (artifactId : Uuid4) (payload : Bytes) : Option LocalArtifactRef :=
  let relativePath := p.relativePath artifactId
  if h : (1 ≤ payload.length ∧ payload.length ≤ maxLocalArtifactBytes) ∧
      validArtifactRelativePath relativePath artifactId = true then
    some
      { artifactId, relativePath
        sha256 := sha256 payload
        mediaType := p.mediaType
        sizeBytes := payload.length
        digest := (sha256 payload).2
        media := p.media
        size := h.1
        path := h.2 }
  else none

/-- mirrors local_artifact.py:433-450 -/
def inventoryEntries (dir : Directory) : Option (List Entry) := do
  let entries ← dir.entries.mapM fun e => do
    let artifactId ← artifactIdFromName e.1 p.fileExtension
    if validPrivateFile p.maximumBytes e.2 then some (⟨artifactId, e.2⟩ : Entry) else none
  if entries.length > p.maximumArtifacts then none
  else some (entries.insertionSort fun a b => a.artifactId.1 ≤ b.artifactId.1)

/-- mirrors local_artifact.py:469-500 -/
def readStable (dir : Directory) (name : List Char) : Option Bytes :=
  (dir.lookup name).bind fun file =>
    if validPrivateFile p.maximumBytes file then some file.bytes else none

/-- What is stored under a reference's identifier, when the reference is of this policy. -/
def readReference (dir : Directory) (r : LocalArtifactRef) : Option Bytes :=
  if r.mediaType ≠ p.mediaType ∨ r.relativePath ≠ p.relativePath r.artifactId ∨
      r.sizeBytes > p.maximumBytes then
    none
  else
    (readStable p dir (p.fileName r.artifactId)).bind fun payload =>
      if reference p sha256 r.artifactId payload = some r then some payload else none

/-- mirrors local_artifact.py:207-221 -/
def resolve (dir : Directory) (artifactId : Uuid4) : Option LocalArtifactRef := do
  let _ ← inventoryEntries p dir
  let payload ← readStable p dir (p.fileName artifactId)
  reference p sha256 artifactId payload

/-- mirrors local_artifact.py:223-254 -/
def read (dir : Directory) (r : LocalArtifactRef) : Option Bytes := do
  let _ ← inventoryEntries p dir
  readReference p sha256 dir r

/-- mirrors local_artifact.py:256-269 -/
def listReferences (dir : Directory) : Option (List LocalArtifactRef) := do
  let entries ← inventoryEntries p dir
  entries.mapM fun entry => do
    let payload ← readStable p dir (p.fileName entry.artifactId)
    reference p sha256 entry.artifactId payload

/-- mirrors local_artifact.py:381-406 -/
def protectedIds (dir : Directory) (references : List LocalArtifactRef) : Option (List Uuid4) :=
  if references.length > p.maximumArtifacts then none
  else
    references.foldlM (fun found r =>
      if r.artifactId ∈ found then none
      else (readReference p sha256 dir r).map fun _ => r.artifactId :: found) []

/-- Of so many entries; `free` is what the disk has left while so many artifacts are stored.
mirrors local_artifact.py:408-418 -/
def underPressure (free : Nat → Nat) (reserveArtifacts reserveBytes entries : Nat) : Bool :=
  entries + reserveArtifacts > p.maximumArtifacts ∨ free entries < p.minimumFreeBytes + reserveBytes

/-- The entries that are removed, oldest first, until there is no pressure; with them the number of
those that stay, or nothing when there is none left to remove.
mirrors local_artifact.py:356-369 -/
def relieve (free : Nat → Nat) (reserveArtifacts reserveBytes : Nat) :
    Nat → List Entry → List Entry × Option Nat
  | entries, [] =>
    ([], if underPressure p free reserveArtifacts reserveBytes entries then none else some entries)
  | entries, candidate :: candidates =>
    if underPressure p free reserveArtifacts reserveBytes entries then
      let (removed, remaining) :=
        relieve free reserveArtifacts reserveBytes (entries - 1) candidates
      (candidate :: removed, remaining)
    else ([], some entries)

/-- mirrors local_artifact.py:315-379 -/
def govern (now : Nat) (free : Nat → Nat) (references : List LocalArtifactRef)
    (reserveArtifacts reserveBytes : Nat) (dir : Directory) :
    List Step × Option LocalArtifactCleanupResult :=
  match inventoryEntries p dir with
  | none => ([], none)
  | some entries =>
    if entries.any fun e => e.file.modifiedNs > now then ([], none)
    else
      match protectedIds p sha256 dir references with
      | none => ([], none)
      | some found =>
        let unprotected := (entries.insertionSort cleanupOrder).filter (·.artifactId ∉ found)
        let isExpired (e : Entry) : Bool :=
          now - e.file.modifiedNs ≥ p.retentionSeconds * 1000000000
        let expired := unprotected.filter isExpired
        let (pressed, remaining) :=
          relieve p free reserveArtifacts reserveBytes (entries.length - expired.length)
            (unprotected.filter (!isExpired ·))
        let removed := expired ++ pressed
        (removed.map fun e => .unlink (p.fileName e.artifactId),
          remaining.map fun n =>
            ⟨removed.length, (removed.map (·.file.bytes.length)).sum, n⟩)

/-- The steps of a write and whether it went through.
mirrors local_artifact.py:502-535 -/
def writeExclusive (now : Nat) (name : List Char) (payload : Bytes) (w : WriteOutcome)
    (dir : Directory) : List Step × Bool :=
  if name ∈ dir then ([], false)
  else
    let writes := (pieces payload w.sizes).map fun piece => Step.append name piece now
    match w.fails with
    | none => (.create name now :: writes, true)
    | some (n, unlinked) =>
      (.create name now :: writes.take n ++ if unlinked then [.unlink name] else [], false)

/-- `id` is what the id source gives, `payload` what the factory makes.
mirrors local_artifact.py:282-305 -/
def captureGenerated (now : Nat) (free : Nat → Nat) (id : Uuid) (payload : Bytes)
    (references : List LocalArtifactRef) (w : WriteOutcome) (dir : Directory) :
    List Step × Option LocalArtifactRef :=
  match usableIdentifier id with
  | none => ([], none)
  | some artifactId =>
    if ¬(1 ≤ payload.length ∧ payload.length ≤ p.maximumBytes) then ([], none)
    else
      match govern p sha256 now free references 1 payload.length dir with
      | (governed, none) => (governed, none)
      | (governed, some _) =>
        let name := p.fileName artifactId
        match writeExclusive now name payload w (after dir governed) with
        | (written, false) => (governed ++ written, none)
        | (written, true) =>
          let steps := governed ++ written
          match readStable p (after dir steps) name with
          | none => (steps, none)
          | some stored =>
            if stored ≠ payload then (steps ++ [.unlink name], none)
            else (steps, reference p sha256 artifactId stored)

end

end AutomationTool.Executor.LocalArtifacts
