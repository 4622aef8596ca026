import AutomationTool.Editing.Timeline

/-!
# The open platform's contract

What the publishing services read of the committed contract document, the answers of the
platform as the `parse_*` functions hand them over, and the pure checks on requests.

* `plan_sum`: the parts of the upload plan are as long as the file.
mirrors control_plane/domain/bilibili_open_api.py
-/
namespace AutomationTool.Publishing

open Protocol
open Editing (UnicodeData)

inductive PublishFailureCode where
  | invalidInput | dependencyUnavailable | platformError
  deriving DecidableEq, Repr

/-- mirrors bilibili_open_api.py:81-91 -/
inductive BilibiliErrorCategory where
  | requestMalformed | authRejected | rateLimited | platformBusy | contentRejected
  | archiveConflict | humanVerificationRequired | unknown
  deriving DecidableEq, Repr

/-- `_CATEGORY_TO_FAILURE_CODE`. -/
def BilibiliErrorCategory.failureCode : BilibiliErrorCategory → PublishFailureCode
  | .requestMalformed | .contentRejected => .invalidInput
  | .authRejected | .archiveConflict | .humanVerificationRequired | .unknown => .platformError
  | .rateLimited | .platformBusy => .dependencyUnavailable

/-- The numbers the loader locked, each at least one.
mirrors bilibili_open_api.py:114-162,368-462 -/
structure BilibiliOpenApiContract where
  partSizeBytes : Nat
  maxPartCount : Nat
  smallFileMaxBytes : Nat
  videoMaxBytes : Nat
  videoMaxDurationSeconds : Nat
  coverMaxBytes : Nat
  titleMaxChars : Nat
  descriptionMaxChars : Nat
  tagTotalMaxChars : Nat
  pageSizeMax : Nat
  errorCategories : Nat → Option BilibiliErrorCategory
  partSize_pos : 1 ≤ partSizeBytes
  parts_fit : videoMaxBytes ≤ maxPartCount * partSizeBytes

/-- `archive_state_open` and `archive_state_rejected`: the loader fixes both. -/
def archiveStateOpen : Int := 0
def archiveStateRejected : Int := -2

/-! ## Answers -/

@[ext] structure BilibiliPlatformRejection where
  code : Nat
  category : BilibiliErrorCategory
  failureCode : PublishFailureCode
  code_pos : 1 ≤ code

instance : DecidableEq BilibiliPlatformRejection := fun _ _ => decidable_of_iff' _ BilibiliPlatformRejection.ext_iff

/-- mirrors bilibili_open_api.py:465-476 -/
def classifyErrorCode (contract : BilibiliOpenApiContract) (code : Nat) :
    Option BilibiliPlatformRejection :=
  if h : 1 ≤ code then
    let category := (contract.errorCategories code).getD .unknown
    some ⟨code, category, category.failureCode, h⟩
  else none

/-- `_RESOURCE_ID_PATTERN`. -/
def resourceIdPattern : List Char → Bool
  | 'B' :: 'V' :: cs => cs.length = 10 ∧ cs.all fun c =>
      ('0' ≤ c ∧ c ≤ '9') ∨ ('A' ≤ c ∧ c ≤ 'Z') ∨ ('a' ≤ c ∧ c ≤ 'z')
  | _ => false

/-- What every parser of an archive key lets through. -/
abbrev ResourceId := { cs : List Char // resourceIdPattern cs = true }

/-- mirrors bilibili_open_api.py:221-232; the descriptions nothing reads are left out. -/
structure ArchiveStatusSnapshot where
  resourceId : ResourceId
  title : List Char
  state : Int
  createdAtEpochSeconds : Nat
  deriving DecidableEq

/-- mirrors bilibili_open_api.py:235-243; the page number of the answer is not read. -/
structure ArchiveListPage where
  items : List ArchiveStatusSnapshot
  pageSize : Nat
  total : Nat
  deriving DecidableEq

/-- mirrors bilibili_open_api.py:246-257 -/
structure ArchiveStatusNotification where
  resourceId : ResourceId
  state : Int
  deriving DecidableEq

/-- What comes back from the platform: nothing readable, a payload the parser refuses, an
error code, or the data. -/
inductive GatewayAnswer (α : Type) where
  | unreachable
  | malformed
  | rejected (code : Nat)
  | data (a : α)
  deriving DecidableEq

/-! ## Requests -/

inductive BilibiliUploadType where
  | small | chunked
  deriving DecidableEq, Repr

/-- `_FILE_NAME_PATTERN`: a name without slashes, a dot, and an alphanumeric extension. -/
def fileExtension (name : List Char) : List Char :=
  (name.reverse.takeWhile fun c => c ≠ '.').reverse

def fileNamePattern (name : List Char) : Bool :=
  (name.all fun c => c ≠ '/' ∧ c ≠ '\\') ∧ (fileExtension name).length + 2 ≤ name.length ∧
    fileExtension name ≠ [] ∧ (fileExtension name).all Char.isAlphanum

/-- mirrors bilibili_archive_publishing.py:154-177 -/
structure BilibiliArchiveFields where
  title : List Char
  tid : Int
  tag : List Char
  copyright : Int
  description : Option (List Char)
  source : Option (List Char)
  noReprint : Int
  deriving DecidableEq

section

variable [UnicodeData]

/-- mirrors bilibili_open_api.py:819-832 -/
def validateUploadInitRequest (name : List Char) : Bool :=
  1 ≤ name.length ∧ name.length ≤ 255 ∧ fileNamePattern name = true ∧ name.head? ≠ some '.' ∧
    name.all fun c => UnicodeData.isOther c = false

/-- `_validate_bounded_text`. -/
def validateBoundedText (maximum : Nat) (value : List Char) : Bool :=
  value ≠ [] ∧ value.head?.any UnicodeData.isSpace = false ∧
    value.getLast?.any UnicodeData.isSpace = false ∧ value.length ≤ maximum ∧
    value.all fun c => UnicodeData.isOther c = false

/-- Every comma-separated segment is there, without blanks around it. -/
def validateTagSegments (tag : List Char) : Bool :=
  (tag.splitOn ',').all fun segment =>
    segment ≠ [] ∧ segment.head?.any UnicodeData.isSpace = false ∧
      segment.getLast?.any UnicodeData.isSpace = false

/-- `validate_archive_submission`; the cover addresses that come here start with https.
mirrors bilibili_open_api.py:865-909 -/
def validateArchiveSubmission (contract : BilibiliOpenApiContract)
    (fields : BilibiliArchiveFields) : Bool :=
  validateBoundedText contract.titleMaxChars fields.title ∧ 1 ≤ fields.tid ∧
    validateBoundedText contract.tagTotalMaxChars fields.tag ∧ validateTagSegments fields.tag ∧
    (fields.copyright = 1 ∨ fields.copyright = 2) ∧
    (if fields.copyright = 2 then
      fields.source.any (validateBoundedText contract.tagTotalMaxChars)
    else fields.source = none) ∧
    fields.description.all (validateBoundedText contract.descriptionMaxChars) ∧
    (fields.noReprint = 0 ∨ fields.noReprint = 1)

end

/-! ## The upload plan -/

/-- mirrors bilibili_open_api.py:841-855 -/
def planUploadParts (contract : BilibiliOpenApiContract) (totalSizeBytes : Nat) : List Nat :=
  List.replicate (totalSizeBytes / contract.partSizeBytes) contract.partSizeBytes ++
    if totalSizeBytes % contract.partSizeBytes = 0 then []
    else [totalSizeBytes % contract.partSizeBytes]

theorem plan_sum (contract : BilibiliOpenApiContract) (n : Nat) :
    (planUploadParts contract n).sum = n := by
  have h := Nat.div_add_mod' n contract.partSizeBytes
  unfold planUploadParts
  split <;> simp_all [List.sum_replicate_nat]

theorem plan_length_pos (contract : BilibiliOpenApiContract) {n : Nat} (hn : 1 ≤ n) :
    1 ≤ (planUploadParts contract n).length := by
  rw [Nat.one_le_iff_ne_zero, Ne, List.length_eq_zero_iff]
  intro h
  have hsum := plan_sum contract n
  rw [h] at hsum
  simp at hsum
  omega

end AutomationTool.Publishing
