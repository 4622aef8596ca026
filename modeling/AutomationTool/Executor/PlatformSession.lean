import AutomationTool.ControlPlane.Domain
import AutomationTool.Core.Delivery

/-!
# The platform session on the executor

The ledger keeps one row for the platform: the state its pages were last seen in, the
session revision, and when that was. Within a revision a session that is not healthy stays
so; only a new revision recovers it.

* `recordPlatformSession`: one observation, `none` when the ledger refuses it.
* `Precedes`: how a later record compares with an earlier one, whatever lies between
  them. It is what the control plane asks of two reports too.
-/
namespace AutomationTool.Executor

open Protocol
open ControlPlane (PlatformSessionState)

/-- mirrors ledger.py:100-120 -/
structure LocalPlatformSession where
  state : PlatformSessionState
  sessionRevision : Nat
  observedAt : Time
  revision_pos : 0 < sessionRevision := by decide
  deriving DecidableEq

/-- The arguments of `record_platform_session`. -/
structure SessionObservation where
  state : PlatformSessionState
  observedAt : Time
  advanceEpoch : Bool := false
  deriving DecidableEq

/-- `ExecutorLedger.record_platform_session`: what it returns is the row it leaves behind.
mirrors ledger.py:1608-1689 -/
def recordPlatformSession (row : Option LocalPlatformSession) (o : SessionObservation) :
    Option LocalPlatformSession :=
  match row with
  | none => some ⟨o.state, 1, o.observedAt, Nat.one_pos⟩
  | some current =>
    if o.observedAt < current.observedAt then none
    else if o.observedAt = current.observedAt then
      if o.advanceEpoch = false ∧ o.state = current.state then some current else none
    else if o.advanceEpoch = false ∧ current.state ≠ .healthy ∧ o.state = .healthy then none
    else if o.advanceEpoch then
      some ⟨o.state, current.sessionRevision + 1, o.observedAt, Nat.succ_pos _⟩
    else some ⟨o.state, current.sessionRevision, o.observedAt, current.revision_pos⟩

/-- What a list of calls returns, the refused ones left out. -/
def recordPlatformSessions (row : Option LocalPlatformSession) :
    List SessionObservation → List LocalPlatformSession
  | [] => []
  | o :: os =>
    match recordPlatformSession row o with
    | none => recordPlatformSessions row os
    | some r => r :: recordPlatformSessions (some r) os

namespace LocalPlatformSession

/-- `r` was recorded at `s` or before it. -/
inductive Precedes (r s : LocalPlatformSession) : Prop where
  | same (h : s = r)
  | later (hrev : s.sessionRevision = r.sessionRevision) (hobs : r.observedAt < s.observedAt)
      (hill : r.state ≠ .healthy → s.state ≠ .healthy)
  | renewed (hrev : r.sessionRevision < s.sessionRevision) (hobs : r.observedAt < s.observedAt)

theorem Precedes.refl (r : LocalPlatformSession) : r.Precedes r := .same rfl

theorem Precedes.trans {r s t : LocalPlatformSession} (h : r.Precedes s) (h' : s.Precedes t) :
    r.Precedes t := by
  cases h with
  | same heq => exact heq ▸ h'
  | later hrev hobs hill =>
    cases h' with
    | same heq => exact heq ▸ .later hrev hobs hill
    | later hrev' hobs' hill' =>
      exact .later (hrev'.trans hrev) (Nat.lt_trans hobs hobs') fun hr => hill' (hill hr)
    | renewed hrev' hobs' => exact .renewed (hrev ▸ hrev') (Nat.lt_trans hobs hobs')
  | renewed hrev hobs =>
    cases h' with
    | same heq => exact heq ▸ .renewed hrev hobs
    | later hrev' hobs' => exact .renewed (hrev' ▸ hrev) (Nat.lt_trans hobs hobs')
    | renewed hrev' hobs' => exact .renewed (Nat.lt_trans hrev hrev') (Nat.lt_trans hobs hobs')

/-- A session recovers only in a new revision. -/
theorem Precedes.recovered {r s : LocalPlatformSession} (h : r.Precedes s)
    (hr : r.state ≠ .healthy) (hs : s.state = .healthy) :
    r.sessionRevision < s.sessionRevision := by
  cases h with
  | same heq => exact absurd (heq ▸ hs) hr
  | later _ _ hill => exact absurd hs (hill hr)
  | renewed hrev => exact hrev

end LocalPlatformSession

open LocalPlatformSession

theorem recordPlatformSession_precedes {r s : LocalPlatformSession} {o : SessionObservation}
    (h : recordPlatformSession (some r) o = some s) : r.Precedes s := by
  unfold recordPlatformSession at h
  dsimp only at h
  split at h
  · cases h
  · rename_i hold
    split at h
    · split at h
      · cases h
        exact .refl r
      · cases h
    · rename_i hne
      have hlt : r.observedAt < o.observedAt :=
        Nat.lt_of_le_of_ne (Nat.le_of_not_lt hold) fun he => hne he.symm
      split at h
      · cases h
      · rename_i hill
        split at h
        · cases h
          exact .renewed (Nat.lt_succ_self _) hlt
        · rename_i hepoch
          cases h
          refine .later rfl hlt fun hr hs => hill ⟨?_, hr, hs⟩
          simpa using hepoch

/-- Each record precedes all later ones. -/
theorem recordPlatformSessions_pairwise (row : Option LocalPlatformSession)
    (os : List SessionObservation) :
    (recordPlatformSessions row os).Pairwise Precedes ∧
      ∀ r ∈ row, ∀ s ∈ recordPlatformSessions row os, r.Precedes s := by
  induction os generalizing row with
  | nil => exact ⟨List.Pairwise.nil, fun _ _ _ hs => nomatch hs⟩
  | cons o os ih =>
    unfold recordPlatformSessions
    cases hrec : recordPlatformSession row o with
    | none => exact ih row
    | some s =>
      obtain ⟨hpair, hfirst⟩ := ih (some s)
      refine ⟨List.pairwise_cons.2 ⟨hfirst s rfl, hpair⟩, ?_⟩
      rintro r rfl t ht
      have hrs := recordPlatformSession_precedes hrec
      rcases List.mem_cons.1 ht with rfl | ht
      · exact hrs
      · exact hrs.trans (hfirst s rfl t ht)

end AutomationTool.Executor
