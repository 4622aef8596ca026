import AutomationTool.Core.Interference
import AutomationTool.Publishing.ArchivePublishing
import AutomationTool.Publishing.ArchiveReconciliation
import AutomationTool.Publishing.Effects

/-!
# The publishing services at work

Any number of callers run the methods on one store, call by call in any order, and a crash
may drop all of them at any time (`pool`); the world outside moves in between.

* `publishing`: that system, over one contract.
* `prepare_uses`, `uploadVideo_uses`, …: which operations a method issues (`Part`), so that
  what only one of them could do needs to be shown for that one alone.
-/
namespace AutomationTool.Publishing

open Protocol
open Editing (UnicodeData)
open Prog (uses_bindE)

/-- A method somebody called; what it returns is not waited for. -/
def Service.ended {α : Type} (x : Service α) : Prog Op Op.Ret Unit := x.run >>= fun _ => pure ()

/-- What may start at any time: the methods, and a move of the world outside. -/
inductive Offered [UnicodeData] (contract : BilibiliOpenApiContract) : Prog Op Op.Ret Unit → Prop where
  | prepare (j : PublishJobId) (material : BilibiliPublishMaterial)
      (fields : BilibiliArchiveFields) (withCover : Bool) :
      Offered contract (prepare contract j material fields withCover).ended
  | uploadVideo (j : PublishJobId) : Offered contract (uploadVideo contract j).ended
  | uploadCover (j : PublishJobId) : Offered contract (uploadCover contract j).ended
  | createArchive (j : PublishJobId) : Offered contract (createArchive contract j).ended
  | submit (j : PublishJobId) : Offered contract (submit contract j).ended
  | recover : Offered contract recover.ended
  | reconcileOnce (policy : BilibiliReconciliationPolicy) (j : PublishJobId) :
      Offered contract (reconcileOnce contract policy j).ended
  | applyNotification (policy : BilibiliReconciliationPolicy) :
      Offered contract (ask .notification >>= applyNotification policy).ended
  | world (w : World) : Offered contract (call (.world w)).ended
  | created (j : PublishJobId) (archive : ArchiveStatusSnapshot) :
      Offered contract (call (.created j archive)).ended
  | lost (j : PublishJobId) : Offered contract (call (.lost j)).ended

/-- Nothing is stored, heard or on its way. -/
def PublishState.Fresh (s : PublishState) : Prop :=
  s.db = .empty ∧ s.heard = [] ∧ s.flight = fun _ => none

/-- The services, their callers and the world. -/
def publishing [UnicodeData] (contract : BilibiliOpenApiContract) :
    LTS (Pool PublishState Op Op.Ret) (PoolLabel Op Op.Ret) :=
  pool PublishState.Fresh exec (Offered contract)

/-! ## Who issues what -/

/-- The part of the services an operation belongs to. Everybody may read. -/
inductive Part where
  | read | intake | upload | cover | admission | request | creation | fence | opening | settlement
  | dismissal | outside
  deriving DecidableEq, Repr

def Op.part : Op → Part
  | .createPrepared _ => .intake
  | .recordUploadToken .. | .recordPartCompleted .. | .recordVideoUploaded .. => .upload
  | .recordCoverUrl .. => .cover
  | .beginArchiveCreation .. => .admission
  | .archiveAdd .. => .request
  | .recordSubmitted .. | .recordFailed .. => .creation
  | .recordOutcomeUncertain .. => .fence
  | .ensurePending .. => .opening
  | .settle _ .failed .. => .dismissal
  | .recordChecked .. | .adoptResourceId .. | .settle .. => .settlement
  | .world _ | .created .. | .lost _ => .outside
  | _ => .read

/-- Many claims are about what only some parts write. The others are plain. -/
def Part.plain : Part → Bool
  | .intake | .upload | .opening | .settlement | .dismissal => false
  | _ => true

section Uses

variable {A : Op → Prop} {α : Type}

theorem uses_call {o : Op} (h : A o) : (call o).run.uses A := ⟨h, fun _ => trivial⟩

theorem uses_throw {e : BilibiliPublishError} : (throw e : Service α).run.uses A := trivial

theorem uses_pure {a : α} : (pure a : Service α).run.uses A := trivial

theorem uses_caught {x : Service α} (h : x.run.uses A) : (caught x).run.uses A :=
  Prog.uses_bind h fun _ => trivial

theorem uses_parsed {contract : BilibiliOpenApiContract} {answer : GatewayAnswer α} :
    (parsed contract answer).run.uses A := by
  unfold parsed
  split
  · exact uses_throw
  · exact uses_throw
  · split
    · exact uses_throw
    · exact uses_pure
  · exact uses_pure

theorem uses_stepResult {r : Except BilibiliPlatformRejection α} : (stepResult r).run.uses A := by
  cases r with
  | ok a => exact uses_pure
  | error e => exact uses_throw

theorem uses_authorizedCall {contract : BilibiliOpenApiContract} {q : Service (GatewayAnswer α)}
    (hread : ∀ o, o.part = .read → A o) (hq : q.run.uses A) :
    (authorizedCall contract q).run.uses A := by
  unfold authorizedCall
  refine uses_bindE (uses_call (hread _ rfl)) fun _ => ?_
  refine uses_bindE hq fun answer => uses_bindE uses_parsed fun result => ?_
  cases result with
  | ok a => exact uses_pure
  | error rejection =>
    dsimp only
    split
    · refine uses_bindE (uses_call (hread _ rfl)) fun _ => ?_
      exact uses_bindE hq fun _ => uses_bindE uses_parsed fun _ => uses_stepResult
    · exact uses_throw

end Uses

section

variable {contract : BilibiliOpenApiContract} {j : PublishJobId} {A : Op → Prop}

theorem uses_loadAttempt (hread : ∀ o, o.part = .read → A o) :
    (loadAttempt j).run.uses A := by
  refine uses_bindE (uses_call (hread _ rfl)) fun r => ?_
  cases r with
  | none => exact uses_throw
  | some record => exact uses_pure

theorem uploadParts_uses {completed : List Nat} {t : UploadToken} {ps : List PlannedPart}
    (hread : ∀ o, o.part = .read → A o) (hupload : ∀ o, o.part = .upload → A o) :
    (uploadParts contract j completed t ps).run.uses A := by
  induction ps with
  | nil => exact uses_pure
  | cons p ps ih =>
    refine uses_bindE ?_ fun _ => ih
    unfold uploadPart
    split
    · exact uses_pure
    · refine uses_bindE (uses_call (hread _ rfl)) fun _ => ?_
      refine uses_bindE (uses_call (hread _ rfl)) fun _ => ?_
      refine uses_bindE uses_parsed fun _ => uses_bindE uses_stepResult fun _ => ?_
      refine uses_bindE (uses_call (hread _ rfl)) fun _ => ?_
      exact uses_bindE (uses_call (hupload _ rfl)) fun _ => uses_pure

theorem transfer_uses {record : BilibiliPublishAttemptRecord} {completed : List Nat}
    {t : UploadToken} (hread : ∀ o, o.part = .read → A o) (hupload : ∀ o, o.part = .upload → A o) :
    (transfer contract record completed t).run.uses A := by
  unfold transfer
  split
  · refine uses_bindE (uses_call (hread _ rfl)) fun _ => ?_
    refine uses_bindE (uses_call (hread _ rfl)) fun _ => ?_
    exact uses_bindE uses_parsed fun _ => uses_stepResult
  · refine uses_bindE (uploadParts_uses hread hupload) fun _ => ?_
    refine uses_bindE (uses_call (hread _ rfl)) fun _ => ?_
    exact uses_bindE uses_parsed fun _ => uses_stepResult

theorem verifyReaderMatches_uses {record : BilibiliPublishAttemptRecord}
    (hread : ∀ o, o.part = .read → A o) : (verifyReaderMatches contract record).run.uses A := by
  refine uses_bindE (uses_call (hread _ rfl)) fun material => ?_
  cases material with
  | none => exact uses_throw
  | some material =>
    dsimp only
    split
    · exact uses_throw
    · exact uses_pure

theorem completedParts_uses {record : BilibiliPublishAttemptRecord}
    (hread : ∀ o, o.part = .read → A o) : (completedParts record).run.uses A := by
  unfold completedParts
  split
  · exact uses_pure
  · refine uses_bindE (uses_call (hread _ rfl)) fun completed => ?_
    split
    · exact uses_pure
    · exact uses_throw

theorem outcomeLost_uses (hread : ∀ o, o.part = .read → A o) (hfence : ∀ o, o.part = .fence → A o) :
    (outcomeLost j).run.uses A := by
  refine uses_bindE (uses_call (hread _ rfl)) fun now => ?_
  exact uses_bindE (uses_call (hfence _ rfl)) fun _ => uses_throw

theorem creationOutcome_uses {record : BilibiliPublishAttemptRecord}
    (hread : ∀ o, o.part = .read → A o) (hcreation : ∀ o, o.part = .creation → A o)
    (hfence : ∀ o, o.part = .fence → A o) : (creationOutcome contract record).run.uses A := by
  refine uses_bindE (uses_caught (uses_call (hread _ rfl))) fun answer => ?_
  split
  · refine uses_bindE (uses_call (hread _ rfl)) fun now => ?_
    exact uses_bindE (uses_call (hcreation _ rfl)) fun _ => uses_pure
  · split
    · exact outcomeLost_uses hread hfence
    · refine uses_bindE (uses_call (hread _ rfl)) fun now => ?_
      exact uses_bindE (uses_call (hcreation _ rfl)) fun _ => uses_throw
  · exact outcomeLost_uses hread hfence

theorem refreshedReceipt_uses (hread : ∀ o, o.part = .read → A o) :
    (refreshedReceipt j).run.uses A := by
  refine uses_bindE (uses_loadAttempt hread) fun refreshed => ?_
  split
  · exact uses_pure
  · exact uses_throw

theorem openReconciliation_uses (hread : ∀ o, o.part = .read → A o)
    (hopening : ∀ o, o.part = .opening → A o) : (openReconciliation j).run.uses A := by
  refine uses_bindE (uses_call (hread _ rfl)) fun r => ?_
  split
  · exact uses_throw
  split
  · refine uses_bindE (uses_call (hread _ rfl)) fun now => ?_
    exact uses_bindE (uses_call (hopening _ rfl)) fun _ => uses_pure
  · exact uses_pure

theorem uploadCover_uses (hread : ∀ o, o.part = .read → A o)
    (hcover : ∀ o, o.part = .cover → A o) : (uploadCover contract j).run.uses A := by
  refine uses_bindE (uses_loadAttempt hread) fun record => ?_
  split
  · exact uses_throw
  split
  · exact uses_pure
  refine uses_bindE (uses_call (hread _ rfl)) fun stat => ?_
  split
  · exact uses_throw
  refine uses_bindE (uses_call (hread _ rfl)) fun length => ?_
  split
  · exact uses_throw
  refine uses_bindE (uses_authorizedCall hread (uses_call (hread _ rfl))) fun url => ?_
  refine uses_bindE (uses_call (hread _ rfl)) fun now => ?_
  exact uses_bindE (uses_call (hcover _ rfl)) fun _ => uses_pure

variable [UnicodeData]

theorem prepare_uses {material : BilibiliPublishMaterial} {fields : BilibiliArchiveFields}
    {withCover : Bool} (hread : ∀ o, o.part = .read → A o)
    (hprepare : ∀ now, A (.createPrepared (preparedRecord contract j material fields withCover now))) :
    (prepare contract j material fields withCover).run.uses A := by
  unfold prepare
  split
  · exact uses_throw
  · exact uses_bindE (uses_call (hread _ rfl)) fun now => uses_call (hprepare now)

theorem initializeUpload_uses {record : BilibiliPublishAttemptRecord}
    (hread : ∀ o, o.part = .read → A o) (hupload : ∀ o, o.part = .upload → A o) :
    (initializeUpload contract record).run.uses A := by
  unfold initializeUpload
  split
  · exact uses_throw
  · refine uses_bindE (uses_authorizedCall hread (uses_call (hread _ rfl))) fun t => ?_
    refine uses_bindE (uses_call (hread _ rfl)) fun now => ?_
    exact uses_bindE (uses_call (hupload _ rfl)) fun _ => uses_pure

theorem sessionToken_uses {record : BilibiliPublishAttemptRecord}
    (hread : ∀ o, o.part = .read → A o) (hupload : ∀ o, o.part = .upload → A o) :
    (sessionToken contract record).run.uses A := by
  unfold sessionToken
  split
  · exact uses_pure
  · exact initializeUpload_uses hread hupload

theorem uploadVideo_uses (hread : ∀ o, o.part = .read → A o)
    (hupload : ∀ o, o.part = .upload → A o) : (uploadVideo contract j).run.uses A := by
  refine uses_bindE (uses_loadAttempt hread) fun record => ?_
  split
  · exact uses_pure
  split
  · exact uses_throw
  refine uses_bindE (verifyReaderMatches_uses hread) fun _ => ?_
  refine uses_bindE (completedParts_uses hread) fun completed => ?_
  refine uses_bindE (sessionToken_uses hread hupload) fun t => ?_
  refine uses_bindE (transfer_uses hread hupload) fun _ => ?_
  refine uses_bindE (uses_call (hread _ rfl)) fun now => ?_
  exact uses_bindE (uses_call (hupload _ rfl)) fun _ => uses_loadAttempt hread

theorem createArchive_uses (hread : ∀ o, o.part = .read → A o)
    (hadmission : ∀ o, o.part = .admission → A o) (hrequest : ∀ o, o.part = .request → A o)
    (hcreation : ∀ o, o.part = .creation → A o) (hfence : ∀ o, o.part = .fence → A o) :
    (createArchive contract j).run.uses A := by
  refine uses_bindE (uses_loadAttempt hread) fun record => ?_
  split
  · split
    · exact uses_pure
    · exact uses_throw
  · exact uses_throw
  · unfold admitted
    split
    · exact uses_throw
    split
    · exact uses_throw
    split
    · exact uses_throw
    refine uses_bindE (uses_call (hread _ rfl)) fun _ => ?_
    refine uses_bindE (uses_call (hread _ rfl)) fun now => ?_
    refine uses_bindE (uses_call (hadmission _ rfl)) fun admitted => ?_
    split
    · refine uses_bindE (uses_call (hrequest _ rfl)) fun _ => ?_
      exact creationOutcome_uses hread hcreation hfence
    · exact refreshedReceipt_uses hread
  · exact uses_throw

theorem creationReplayed_uses (h : (createArchive contract j).run.uses A) :
    (creationReplayed contract j).run.uses A := by
  refine uses_bindE (uses_caught h) fun r => ?_
  split
  · exact uses_pure
  · exact uses_pure
  · exact uses_pure
  · exact uses_throw

end

/-! ## The reconciliation's vocabulary -/

section

variable {contract : BilibiliOpenApiContract} {j : PublishJobId}
  {policy : BilibiliReconciliationPolicy} {A : Op → Prop}

theorem uses_requeried {α : Type} {archiveBound : Bool} {q : Service (GatewayAnswer α)}
    {answer : GatewayAnswer α} (hread : ∀ o, o.part = .read → A o) (hq : q.run.uses A) :
    (requeried contract archiveBound q answer).run.uses A := by
  unfold requeried
  split
  · exact uses_pure
  · exact uses_pure
  · split
    · refine uses_bindE (uses_call (hread _ rfl)) fun _ => uses_bindE hq fun answer => ?_
      split <;> exact uses_pure
    · exact uses_pure

theorem uses_authorizedQuery {α : Type} {archiveBound : Bool} {q : Service (GatewayAnswer α)}
    (hread : ∀ o, o.part = .read → A o) (hq : q.run.uses A) :
    (authorizedQuery contract archiveBound q).run.uses A :=
  uses_bindE hq fun _ => uses_requeried hread hq

theorem loadRecord_uses (hread : ∀ o, o.part = .read → A o) : (loadRecord j).run.uses A := by
  refine uses_bindE (uses_call (hread _ rfl)) fun r => ?_
  split
  · exact uses_throw
  · exact uses_pure

theorem settleAs_uses {decision : BilibiliReconciliationDecision}
    {outcome : BilibiliReconciliationOutcome} {archiveState : Option Int}
    {failureCode : Option PublishFailureCode} (hread : ∀ o, o.part = .read → A o)
    (hsettle : ∀ now, A (.settle j outcome archiveState failureCode now)) :
    (settleAs policy j decision outcome archiveState failureCode).run.uses A := by
  refine uses_bindE (uses_call (hread _ rfl)) fun now => ?_
  refine uses_bindE (uses_call (hsettle now)) fun settled => ?_
  exact uses_bindE (loadRecord_uses hread) fun _ => uses_pure

theorem setBack_uses {decision : BilibiliReconciliationDecision}
    (hread : ∀ o, o.part = .read → A o) : (setBack policy j decision).run.uses A :=
  uses_bindE (loadRecord_uses hread) fun _ => uses_pure

theorem queryView_uses {resourceId : ResourceId} (hread : ∀ o, o.part = .read → A o) :
    (queryView contract resourceId).run.uses A := by
  refine uses_bindE (uses_call (hread _ rfl)) fun _ => ?_
  refine uses_bindE (uses_authorizedQuery hread (uses_call (hread _ rfl))) fun r => ?_
  split
  · exact uses_pure
  · split <;> exact uses_pure

theorem decideOn_uses {snapshot : ArchiveStatusSnapshot} (hread : ∀ o, o.part = .read → A o)
    (hsettlement : ∀ o, o.part = .settlement → A o) :
    (decideOn policy j snapshot).run.uses A := by
  unfold decideOn
  split
  · exact settleAs_uses hread fun _ => hsettlement _ rfl
  split
  · exact settleAs_uses hread fun _ => hsettlement _ rfl
  refine uses_bindE (uses_call (hread _ rfl)) fun now => ?_
  refine uses_bindE (uses_call (hsettlement _ rfl)) fun _ => ?_
  exact uses_bindE (loadRecord_uses hread) fun _ => uses_pure

theorem lookUp_uses {resourceId : ResourceId} (hread : ∀ o, o.part = .read → A o)
    (hsettlement : ∀ o, o.part = .settlement → A o) :
    (lookUp contract policy j resourceId).run.uses A := by
  refine uses_bindE (queryView_uses hread) fun r => ?_
  split
  · exact setBack_uses hread
  · exact decideOn_uses hread hsettlement

theorem walk_uses {c : ArchiveStatusSnapshot → Bool}
    {listPage : Nat → Service (Except QuerySetback ArchiveListPage)} {left n seen : Nat}
    {expected : Option Nat} {candidates : List ArchiveStatusSnapshot}
    (hpage : ∀ n, (listPage n).run.uses A) :
    (walk c listPage left n expected seen candidates : Service Located).run.uses A := by
  induction left generalizing n expected seen candidates with
  | zero => exact uses_pure
  | succ left ih =>
    refine uses_bindE (hpage n) fun r => ?_
    cases r with
    | error setback => exact uses_pure
    | ok page =>
      dsimp only
      split
      · exact uses_pure
      split
      · exact uses_pure
      · exact ih

theorem locateUncertainArchive_uses {attempt : BilibiliPublishAttemptRecord}
    (hread : ∀ o, o.part = .read → A o) (hsettlement : ∀ o, o.part = .settlement → A o) :
    (locateUncertainArchive contract policy j attempt).run.uses A := by
  refine uses_bindE (uses_call (hread _ rfl)) fun _ => ?_
  refine uses_bindE (walk_uses fun n => uses_authorizedQuery hread (uses_call (hread _ rfl)))
    fun located => ?_
  split
  · refine uses_bindE (uses_call (hread _ rfl)) fun now => ?_
    exact uses_bindE (uses_call (hsettlement _ rfl)) fun _ => uses_pure
  · exact uses_pure
  · exact uses_pure

theorem search_uses {attempt : BilibiliPublishAttemptRecord} (hread : ∀ o, o.part = .read → A o)
    (hsettlement : ∀ o, o.part = .settlement → A o)
    (hdismissal : ∀ o, o.part = .dismissal → A o) :
    (search contract policy j attempt).run.uses A := by
  refine uses_bindE (locateUncertainArchive_uses hread hsettlement) fun located => ?_
  split
  · exact lookUp_uses hread hsettlement
  · exact settleAs_uses hread fun _ => hdismissal _ rfl
  · exact setBack_uses hread

theorem fence_uses {attempt : BilibiliPublishAttemptRecord} (hread : ∀ o, o.part = .read → A o)
    (hfence : ∀ o, o.part = .fence → A o) : (fence j attempt).run.uses A := by
  unfold fence
  split
  · exact uses_bindE (uses_call (hread _ rfl)) fun now => uses_call (hfence _ rfl)
  · split
    · exact uses_pure
    · exact uses_throw

theorem reconcileOnce_uses (hread : ∀ o, o.part = .read → A o)
    (hfence : ∀ o, o.part = .fence → A o) (hsettlement : ∀ o, o.part = .settlement → A o)
    (hdismissal : ∀ o, o.part = .dismissal → A o) :
    (reconcileOnce contract policy j).run.uses A := by
  refine uses_bindE (loadRecord_uses hread) fun record => ?_
  split
  · exact uses_pure
  refine uses_bindE (uses_call (hread _ rfl)) fun r => ?_
  split
  · exact uses_throw
  refine uses_bindE (fence_uses hread hfence) fun _ => ?_
  split
  · exact lookUp_uses hread hsettlement
  · exact search_uses hread hsettlement hdismissal

theorem applyNotification_uses {notification : ArchiveStatusNotification}
    (hread : ∀ o, o.part = .read → A o) (hsettlement : ∀ o, o.part = .settlement → A o) :
    (applyNotification policy notification).run.uses A := by
  refine uses_bindE (uses_call (hread _ rfl)) fun r => ?_
  split
  · exact uses_pure
  split
  · exact uses_pure
  split
  · exact uses_bindE (settleAs_uses hread fun _ => hsettlement _ rfl) fun _ => uses_pure
  split
  · exact uses_bindE (settleAs_uses hread fun _ => hsettlement _ rfl) fun _ => uses_pure
  · exact uses_throw

theorem recoverEach_uses {attempts : List BilibiliPublishAttemptRecord}
    (hread : ∀ o, o.part = .read → A o) (hfence : ∀ o, o.part = .fence → A o)
    (hopening : ∀ o, o.part = .opening → A o) : (recoverEach attempts).run.uses A := by
  induction attempts with
  | nil => exact uses_pure
  | cons attempt attempts ih =>
    unfold recoverEach
    split
    · exact uses_throw
    refine uses_bindE (fence_uses hread hfence) fun _ => ?_
    refine uses_bindE (uses_call (hread _ rfl)) fun now => ?_
    refine uses_bindE (uses_call (hopening _ rfl)) fun record => ?_
    exact uses_bindE ih fun _ => uses_pure

theorem recover_uses (hread : ∀ o, o.part = .read → A o) (hfence : ∀ o, o.part = .fence → A o)
    (hopening : ∀ o, o.part = .opening → A o) : recover.run.uses A :=
  uses_bindE (uses_call (hread _ rfl)) fun _ => recoverEach_uses hread hfence hopening

end

/-! ## A method among others -/

section Amid

variable {C : Interference exec} {α β : Type} {s : PublishState}

/-- One call: it keeps the rules, and the rest goes on from a call that did not raise. -/
theorem amid_call {o : Op} {f : o.Val → Service α} {Q : α → PublishState → Prop}
    (h : ∀ s', C.inv s' → C.rely s s' → C.cond o s' → C.inv (exec o s').2 ∧
      C.rely s' (exec o s').2 ∧
      ∀ a, (exec o s').1 = .ok a → (f a).run.amid C (Prog.Returned Q) (exec o s').2) :
    (call o >>= f).run.amid C (Prog.Returned Q) s := by
  intro s' hi hr hc
  obtain ⟨h1, h2, h3⟩ := h s' hi hr hc
  refine ⟨h1, h2, ?_⟩
  cases hx : (exec o s').1 with
  | ok a => exact h3 a hx
  | error e => exact trivial

theorem amid_loadAttempt {j : PublishJobId} {f : BilibiliPublishAttemptRecord → Service α}
    {Q : α → PublishState → Prop} (hload : C.keeps (.load j))
    (h : ∀ record t, C.inv t → C.rely s t → t.db.attempt? j = some record → record.Valid →
      (f record).run.amid C (Prog.Returned Q) t) :
    (loadAttempt j >>= f).run.amid C (Prog.Returned Q) s := by
  refine Prog.amid_bindE (amid_call fun t hi hr hc => ?_)
  obtain ⟨h1, h2⟩ := hload t hi hc
  refine ⟨h1, h2, fun a ha => ?_⟩
  cases a with
  | none => exact trivial
  | some record =>
    obtain ⟨hrecord, hvalid⟩ := PublishDb.load_some ha
    exact h record t hi hr hrecord hvalid

/-- An acknowledgement is read: the rest goes on from data. -/
theorem amid_parsed {contract : BilibiliOpenApiContract} {answer : GatewayAnswer β}
    {f : β → Service α} {Q : α → PublishState → Prop}
    (h : ∀ b, answer = .data b → (f b).run.amid C (Prog.Returned Q) s) :
    (parsed contract answer >>= fun result => stepResult result >>= f).run.amid C
      (Prog.Returned Q) s := by
  cases answer with
  | data b => exact h b rfl
  | unreachable => exact trivial
  | malformed => exact trivial
  | rejected code =>
    unfold parsed
    dsimp only
    cases classifyErrorCode contract code <;> exact trivial

theorem amid_acked {contract : BilibiliOpenApiContract} {answer : GatewayAnswer α}
    {Q : α → PublishState → Prop} (h : ∀ b, answer = .data b → Q b s) :
    (parsed contract answer >>= stepResult).run.amid C (Prog.Returned Q) s := by
  cases answer with
  | data b => exact h b rfl
  | unreachable => exact trivial
  | malformed => exact trivial
  | rejected code =>
    unfold parsed
    dsimp only
    cases classifyErrorCode contract code <;> exact trivial

/-- What is left to show of a method is what it does up to its end. -/
theorem amid_ended {x : Service α} (h : x.run.amid C (fun _ _ => True) s) :
    x.ended.amid C (fun _ _ => True) s :=
  Prog.amid_bind (Prog.amid_mono h fun _ _ _ => trivial)

theorem amid_ended_of_uses {x : Service α} (hx : x.run.uses C.keeps) (hs : C.inv s) :
    x.ended.amid C (fun _ _ => True) s :=
  amid_ended (Prog.amid_mono (Prog.amid_of_uses hx hs (C.refl s)) fun _ _ _ => trivial)

/-- A method all of whose calls keep the conduct. -/
theorem amid_of_keeps {x : Service α} (hx : x.run.uses C.keeps) (hs : C.inv s) :
    x.run.amid C (fun _ _ => True) s :=
  Prog.amid_mono (Prog.amid_of_uses hx hs (C.refl s)) fun _ _ _ => trivial

/-- A conduct that every plain operation keeps: what is left to show is what the methods do
that write an upload, or a reconciliation. -/
theorem amid_offered [UnicodeData] {contract : BilibiliOpenApiContract}
    {p : Prog Op Op.Ret Unit} (h : Offered contract p)
    (hplain : ∀ o, o.part.plain = true → C.keeps o)
    (hprepare : ∀ j material fields withCover now,
      C.keeps (.createPrepared (preparedRecord contract j material fields withCover now)))
    (hupload : ∀ j s, C.inv s → (uploadVideo contract j).run.amid C (fun _ _ => True) s)
    (hopening : ∀ j s, C.inv s → (openReconciliation j).run.amid C (fun _ _ => True) s)
    (hrecover : ∀ s, C.inv s → recover.run.amid C (fun _ _ => True) s)
    (hreconcile : ∀ policy j s, C.inv s →
      (reconcileOnce contract policy j).run.amid C (fun _ _ => True) s)
    (hnotify : ∀ policy s, C.inv s →
      (ask .notification >>= applyNotification policy).run.amid C (fun _ _ => True) s)
    (hi : C.inv s) : p.amid C (fun _ _ => True) s := by
  have hkeep : ∀ {q : Part}, q.plain = true → ∀ o, o.part = q → C.keeps o :=
    fun hq o ho => hplain o (ho ▸ hq)
  have hcreate : ∀ j, (createArchive contract j).run.uses C.keeps := fun j =>
    createArchive_uses (hkeep rfl) (hkeep rfl) (hkeep rfl) (hkeep rfl) (hkeep rfl)
  cases h with
  | prepare j => exact amid_ended_of_uses (prepare_uses (hkeep rfl) (hprepare _ _ _ _)) hi
  | uploadVideo j => exact amid_ended (hupload j s hi)
  | uploadCover j => exact amid_ended_of_uses (uploadCover_uses (hkeep rfl) (hkeep rfl)) hi
  | createArchive j => exact amid_ended_of_uses (hcreate j) hi
  | submit j =>
    refine amid_ended (Prog.amid_mono (Q := Prog.Returned fun _ _ => True) ?_ fun _ _ _ => trivial)
    refine Prog.amid_usesE (creationReplayed_uses (hcreate j)) hi fun replayed t ht _ => ?_
    refine Prog.amid_bindE (Prog.amid_mono (hopening j t ht) fun r _ _ => ?_)
    cases r <;> exact trivial
  | recover => exact amid_ended (hrecover s hi)
  | reconcileOnce policy j => exact amid_ended (hreconcile policy j s hi)
  | applyNotification policy => exact amid_ended (hnotify policy s hi)
  | world w => exact amid_ended_of_uses (uses_call (hplain _ rfl)) hi
  | created j archive => exact amid_ended_of_uses (uses_call (hplain _ rfl)) hi
  | lost j => exact amid_ended_of_uses (uses_call (hplain _ rfl)) hi

end Amid

end AutomationTool.Publishing
