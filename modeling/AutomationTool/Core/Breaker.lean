import Mathlib

/-!
# A circuit breaker on consecutive failures

A breaker counts failures. A success while it is closed starts the count again; the
failure that brings the count to the threshold it comes with opens the breaker, which
remembers it and its owner; a success while it is open changes nothing, and only a resume
by that owner closes it. Thresholds may differ from failure to failure.

* `exists_streak`: the count is the number of failures since the last fact that started
  it again (`restarts`), read off the facts.
* `opens_iff`: what opens a closed breaker is a failure that finds its threshold reached.
* `late_success`: a success leaves an open breaker as it is.
-/
namespace AutomationTool.Breaker

variable {κ ω : Type} [DecidableEq ω]

/-- What happens to a breaker; `κ` names the actions and `ω` who owns them. -/
inductive Fact (κ ω : Type) where
  | failed (action : κ) (owner : ω) (threshold : Nat)
  | succeeded (action : κ)
  | resumed (owner : ω)
  deriving DecidableEq

namespace Fact

def isFailed : Fact κ ω → Bool
  | .failed .. => true
  | _ => false

/-- The action a result is of. -/
def action? : Fact κ ω → Option κ
  | .failed a _ _ => some a
  | .succeeded a => some a
  | .resumed _ => none

end Fact

structure State (κ ω : Type) where
  failures : Nat
  openedBy : Option (κ × ω)
  deriving DecidableEq

namespace State

def isOpen (s : State κ ω) : Bool := s.openedBy.isSome

/-- Who has to resume an open breaker. -/
def owner? (s : State κ ω) : Option ω := s.openedBy.map Prod.snd

def closed : State κ ω := ⟨0, none⟩

/-- The action that opens the breaker, if this failure does. -/
def opener? (s : State κ ω) (a : κ) (o : ω) (threshold : Nat) : Option (κ × ω) :=
  if threshold ≤ s.failures + 1 then some (a, o) else none

def step (s : State κ ω) : Fact κ ω → State κ ω
  | .failed a o threshold => ⟨s.failures + 1, s.openedBy.or (s.opener? a o threshold)⟩
  | .succeeded _ => if s.isOpen then s else closed
  | .resumed o => if s.owner? = some o then closed else s

end State

def run (facts : List (Fact κ ω)) : State κ ω := facts.foldl State.step .closed

@[simp] theorem run_nil : run ([] : List (Fact κ ω)) = .closed := rfl

@[simp] theorem run_concat (facts : List (Fact κ ω)) (f : Fact κ ω) :
    run (facts ++ [f]) = (run facts).step f := by
  unfold run
  rw [List.foldl_append]
  rfl

/-- The fact starts the count again: a success while the breaker is closed, or a resume by
the owner of the failure that opened it. -/
def State.restarts (s : State κ ω) : Fact κ ω → Bool
  | .failed .. => false
  | .succeeded _ => !s.isOpen
  | .resumed o => s.owner? == some o

theorem step_of_restarts {s : State κ ω} {f : Fact κ ω} (h : s.restarts f = true) :
    s.step f = .closed := by
  cases f with
  | failed => cases h
  | succeeded =>
    have ho : s.isOpen = false := by simpa [State.restarts] using h
    simp [State.step, ho]
  | resumed o =>
    have ho : s.owner? = some o := by simpa [State.restarts] using h
    simp [State.step, ho]

/-- A fact that does not start the count again adds its own failure to it. -/
theorem failures_step {s : State κ ω} {f : Fact κ ω} (h : s.restarts f = false) :
    (s.step f).failures = s.failures + if f.isFailed then 1 else 0 := by
  cases f with
  | failed => rfl
  | succeeded =>
    have ho : s.isOpen = true := by simpa [State.restarts] using h
    simp [State.step, Fact.isFailed, ho]
  | resumed o =>
    have ho : ¬s.owner? = some o := by simpa [State.restarts] using h
    simp [State.step, Fact.isFailed, ho]

/-- `rest` comes after the last fact of `pre ++ rest` that started the count again. -/
structure Streak (pre rest : List (Fact κ ω)) : Prop where
  start : pre = [] ∨ ∃ p f, pre = p ++ [f] ∧ (run p).restarts f = true
  quiet : ∀ q f s, rest = q ++ f :: s → (run (pre ++ q)).restarts f = false

/-- The count is the number of failures since it started again. -/
theorem exists_streak (facts : List (Fact κ ω)) : ∃ pre rest, facts = pre ++ rest ∧
    Streak pre rest ∧ (run facts).failures = rest.countP Fact.isFailed := by
  induction facts using List.reverseRecOn with
  | nil => exact ⟨[], [], rfl, ⟨.inl rfl, fun q f s h => by simp at h⟩, rfl⟩
  | append_singleton facts f ih =>
    rw [run_concat]
    by_cases hr : (run facts).restarts f = true
    · refine ⟨facts ++ [f], [], by simp, ⟨.inr ⟨facts, f, rfl, hr⟩, fun q g s h => by simp at h⟩, ?_⟩
      rw [step_of_restarts hr]
      rfl
    · have hr' : (run facts).restarts f = false := by simpa using hr
      obtain ⟨pre, rest, rfl, hs, hn⟩ := ih
      refine ⟨pre, rest ++ [f], by simp, ⟨hs.start, fun q g s h => ?_⟩, ?_⟩
      · -- either `g` is `f`, the last fact, or it was there before
        rcases List.eq_nil_or_concat s with rfl | ⟨s', x, rfl⟩
        · obtain ⟨rfl, hfg⟩ := List.append_inj' h rfl
          cases hfg
          exact hr'
        · have h' : rest ++ [f] = (q ++ g :: s') ++ [x] := by simpa using h
          exact hs.quiet q g s' (List.append_inj' h' rfl).1
      · rw [failures_step hr', hn, List.countP_append]
        simp [List.countP_cons]

/-- A closed breaker is opened by a failure that finds its threshold reached, and by
nothing else. -/
theorem opens_iff {s : State κ ω} {f : Fact κ ω} (h : s.isOpen = false) :
    (s.step f).isOpen = true ↔
      ∃ a o threshold, f = .failed a o threshold ∧ threshold ≤ s.failures + 1 := by
  have hn : s.openedBy = none := by simpa [State.isOpen] using h
  cases f with
  | failed a o threshold =>
    by_cases ht : threshold ≤ s.failures + 1 <;>
      simp [State.step, State.isOpen, State.opener?, hn, ht]
  | succeeded a =>
    have hc : s.step (.succeeded a) = .closed := by simp [State.step, h]
    simp [hc, State.closed, State.isOpen]
  | resumed o =>
    have : ¬s.owner? = some o := by simp [State.owner?, hn]
    simp [State.step, this, h]

/-- A success leaves an open breaker as it is. -/
theorem late_success {s : State κ ω} (h : s.isOpen = true) (a : κ) : s.step (.succeeded a) = s := by
  simp [State.step, h]

end AutomationTool.Breaker
