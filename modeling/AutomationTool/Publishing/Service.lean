import AutomationTool.Core.Prog
import AutomationTool.Publishing.Store

/-!
# The Bilibili publishing services

`exec` runs one store operation, or one question to the world outside: a clock, a reader
of local files, the credentials, the platform's gateway and its webhook. The world answers
as it likes, and may change at any time (`Op.world`); `heard` is all it ever answered. The
single request that may create an archive is followed from its admission on (`Flight`):
between its sending and its return the platform may create the archive (`Op.created`), or
the request may get lost (`Op.lost`).

A method of the services is a program of these operations (`Service`).
-/
namespace AutomationTool.Publishing

open Protocol

structure BilibiliCoverStat where
  fileName : List Char
  sizeBytes : Nat
  deriving DecidableEq

/-! ## The outside -/

inductive Query where
  | now
  | currentAccessToken
  | refreshAccessToken
  | validateMaterial
  | readRange (offset length : Nat)
  | describeCover
  | readCover
  | uploadInit (fileName : List Char) (uploadType : BilibiliUploadType)
  | uploadPart (uploadToken : UploadToken) (partNumber offset length : Nat)
  | uploadComplete (uploadToken : UploadToken)
  | uploadSmallFile (uploadToken : UploadToken) (length : Nat)
  | uploadCover (fileName : List Char)
  | archiveAddAnswer (j : PublishJobId)
  | archiveView (resourceId : ResourceId)
  | archiveViewlist (j : PublishJobId) (pageNumber : Nat)
  | notification
  deriving DecidableEq

/-- `validateMaterial` and `readCover` hand over what was read: the material, or nothing
that makes a valid one; the length of the image. -/
abbrev Query.Val : Query → Type
  | .now => Time
  | .currentAccessToken | .refreshAccessToken => Unit
  | .validateMaterial => Option BilibiliPublishMaterial
  | .readRange .. => Unit
  | .describeCover => BilibiliCoverStat
  | .readCover => Nat
  | .uploadInit .. => GatewayAnswer UploadToken
  | .uploadPart .. => GatewayAnswer Unit
  | .uploadComplete _ => GatewayAnswer Unit
  | .uploadSmallFile .. => GatewayAnswer Unit
  | .uploadCover _ => GatewayAnswer CoverUrl
  | .archiveAddAnswer _ => GatewayAnswer ResourceId
  | .archiveView _ => GatewayAnswer ArchiveStatusSnapshot
  | .archiveViewlist .. => GatewayAnswer ArchiveListPage
  | .notification => ArchiveStatusNotification

/-- What would be answered; nothing where the call raises. -/
abbrev World := (q : Query) → Option q.Val

/-- One answered question. -/
structure Heard where
  query : Query
  answer : query.Val

/-- Where the one creation request of a job is. -/
inductive Flight where
  | admitted | sent | ended
  deriving DecidableEq, Repr

structure PublishState where
  db : PublishDb
  world : World
  heard : List Heard
  flight : PublishJobId → Option Flight
  archives : List ArchiveStatusSnapshot

/-! ## Operations -/

inductive Op where
  | createPrepared (record : BilibiliPublishAttemptRecord)
  | load (j : PublishJobId)
  | recordUploadToken (j : PublishJobId) (uploadToken : UploadToken) (at' : Time)
  | recordPartCompleted (j : PublishJobId) (partNumber sizeBytes : Nat) (at' : Time)
  | completedPartNumbers (j : PublishJobId)
  | recordVideoUploaded (j : PublishJobId) (at' : Time)
  | recordCoverUrl (j : PublishJobId) (coverUrl : CoverUrl) (at' : Time)
  | beginArchiveCreation (j : PublishJobId) (at' : Time)
  | recordSubmitted (j : PublishJobId) (resourceId : ResourceId) (at' : Time)
  | recordFailed (j : PublishJobId) (rejection : BilibiliPlatformRejection) (at' : Time)
  | recordOutcomeUncertain (j : PublishJobId) (at' : Time)
  | listReconcilable
  | ensurePending (j : PublishJobId) (resourceId : Option ResourceId) (at' : Time)
  | loadReconciliation (j : PublishJobId)
  | findByResourceId (resourceId : ResourceId)
  | recordChecked (j : PublishJobId) (archiveState : Option Int) (at' : Time)
  | adoptResourceId (j : PublishJobId) (resourceId : ResourceId) (at' : Time)
  | settle (j : PublishJobId) (outcome : BilibiliReconciliationOutcome)
      (archiveState : Option Int) (failureCode : Option PublishFailureCode) (at' : Time)
  | ask (q : Query)
  | archiveAdd (j : PublishJobId) (uploadToken : UploadToken) (fields : BilibiliArchiveFields)
      (coverUrl : Option CoverUrl)
  | world (w : World)
  | created (j : PublishJobId) (archive : ArchiveStatusSnapshot)
  | lost (j : PublishJobId)

abbrev Op.Val : Op → Type
  | .createPrepared _ => PublishDb.BilibiliPublishPreparation
  | .load _ => Option BilibiliPublishAttemptRecord
  | .recordPartCompleted .. | .beginArchiveCreation .. | .settle .. => Bool
  | .completedPartNumbers _ => List Nat
  | .listReconcilable => List BilibiliPublishAttemptRecord
  | .ensurePending .. => BilibiliReconciliationRecord
  | .loadReconciliation _ | .findByResourceId _ => Option BilibiliReconciliationRecord
  | .ask q => q.Val
  | _ => Unit

abbrev Op.Ret (o : Op) : Type := Except BilibiliPublishError o.Val

namespace PublishState

/-- A statement of the database. -/
def onDb {α : Type} (s : PublishState) (x : α × PublishDb) : α × PublishState :=
  (x.1, { s with db := x.2 })

def setFlight (s : PublishState) (j : PublishJobId) (f : Flight) : PublishState :=
  { s with flight := fun j' => if j' = j then some f else s.flight j' }

/-- The admission is granted once; from then on the request is on its way. -/
def begin (j : PublishJobId) (at' : Time) (s : PublishState) :
    Except BilibiliPublishError Bool × PublishState :=
  let x := s.db.beginArchiveCreation j at'
  match x.1 with
  | .ok true => (x.1, { s with db := x.2 }.setFlight j .admitted)
  | _ => (x.1, { s with db := x.2 })

/-- The creation request is on its way no more. -/
def lose (j : PublishJobId) (s : PublishState) : PublishState :=
  if s.flight j = none then s else s.setFlight j .ended

/-- The return of the creation request, whatever it returns, ends its way. -/
def returned (q : Query) (s : PublishState) : PublishState :=
  match q with
  | .archiveAddAnswer j => s.lose j
  | _ => s

def ask (q : Query) (s : PublishState) : Except BilibiliPublishError q.Val × PublishState :=
  match s.world q with
  | none => (.error .unavailable, s.returned q)
  | some a => (.ok a, { s with heard := ⟨q, a⟩ :: s.heard }.returned q)

/-- A request that was not given up is on its way. -/
def send (j : PublishJobId) (s : PublishState) : PublishState :=
  if s.flight j = some .admitted then s.setFlight j .sent else s

/-- The platform creates the archive of a request that is on its way. -/
def create (j : PublishJobId) (archive : ArchiveStatusSnapshot) (s : PublishState) : PublishState :=
  if s.flight j = some .sent then { s with archives := s.archives ++ [archive] }.setFlight j .ended
  else s

end PublishState

def exec : (o : Op) → PublishState → o.Ret × PublishState
  | .createPrepared record, s => s.onDb (s.db.createPrepared record)
  | .load j, s => (s.db.load j, s)
  | .recordUploadToken j t at', s => s.onDb (s.db.recordUploadToken j t at')
  | .recordPartCompleted j n size at', s => s.onDb (s.db.recordPartCompleted j n size at')
  | .completedPartNumbers j, s => (s.db.completedPartNumbers j, s)
  | .recordVideoUploaded j at', s => s.onDb (s.db.recordVideoUploaded j at')
  | .recordCoverUrl j url at', s => s.onDb (s.db.recordCoverUrl j url at')
  | .beginArchiveCreation j at', s => s.begin j at'
  | .recordSubmitted j r at', s => s.onDb (s.db.recordSubmitted j r at')
  | .recordFailed j rejection at', s => s.onDb (s.db.recordFailed j rejection at')
  | .recordOutcomeUncertain j at', s => s.onDb (s.db.recordOutcomeUncertain j at')
  | .listReconcilable, s => (s.db.listReconcilable, s)
  | .ensurePending j r at', s => s.onDb (s.db.ensurePending j r at')
  | .loadReconciliation j, s => (s.db.loadReconciliation j, s)
  | .findByResourceId r, s => (s.db.findByResourceId r, s)
  | .recordChecked j state at', s => s.onDb (s.db.recordChecked j state at')
  | .adoptResourceId j r at', s => s.onDb (s.db.adoptResourceId j r at')
  | .settle j outcome state code at', s => s.onDb (s.db.settle j outcome state code at')
  | .ask q, s => s.ask q
  | .archiveAdd j .., s => (.ok (), s.send j)
  | .world w, s => (.ok (), { s with world := w })
  | .created j archive, s => (.ok (), s.create j archive)
  | .lost j, s => (.ok (), s.lose j)

/-! ## Programs -/

/-- A method: what it returns, or what it raises. -/
abbrev Service (α : Type) : Type := ExceptT BilibiliPublishError (Prog Op Op.Ret) α

def call (o : Op) : Service o.Val := ExceptT.mk (Prog.op o)

def ask (q : Query) : Service q.Val := call (.ask q)

/-- `try … except`, whatever it raises. -/
def caught {α : Type} (x : Service α) : Service (Except BilibiliPublishError α) :=
  ExceptT.mk (x.run >>= fun r => pure (.ok r))

/-- `_gateway_call` and the parser behind it. -/
def parsed {α : Type} (contract : BilibiliOpenApiContract) :
    GatewayAnswer α → Service (Except BilibiliPlatformRejection α)
  | .unreachable => throw .unreachable
  | .malformed => throw .invalidMessage
  | .rejected code =>
    match classifyErrorCode contract code with
    | none => throw .invalidMessage
    | some rejection => pure (.error rejection)
  | .data a => pure (.ok a)

/-- A rejection fails the step. -/
def stepResult {α : Type} : Except BilibiliPlatformRejection α → Service α
  | .ok a => pure a
  | .error rejection => throw (.stepFailed rejection)

/-- A call with the access token, repeated once with a refreshed one when the platform
rejects the first. -/
def authorizedCall {α : Type} (contract : BilibiliOpenApiContract) (q : Service (GatewayAnswer α)) :
    Service α := do
  ask .currentAccessToken
  let answer ← q
  match ← parsed contract answer with
  | .ok a => pure a
  | .error rejection =>
    if rejection.category = .authRejected then do
      ask .refreshAccessToken
      let answer ← q
      let result ← parsed contract answer
      stepResult result
    else throw (.stepFailed rejection)

end AutomationTool.Publishing
