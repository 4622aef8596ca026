import Mathlib

/-!
# Labelled transition systems

A system is an initial predicate and a labelled step relation. A run is
read from its start; a state is reachable when some run from an initial
state ends in it.

* `Inductive.reachable`: a predicate that holds initially and is kept by
  every step holds in every reachable state.
* `Run.rel`: a reflexive and transitive relation that every step obeys
  relates the two ends of a run, so "never changes back" is one step lemma.
* `restrict`: the runs all of whose steps meet a condition. What is proved
  of a restricted system is proved of exactly those runs.
-/
namespace AutomationTool

universe u v

/-- A labelled transition system. -/
structure LTS (S : Type u) (L : Type v) where
  init : S → Prop
  step : S → L → S → Prop

namespace LTS

variable {S : Type u} {L : Type v} {T : LTS S L}

/-- `Run T s ls s'`: the steps labelled `ls` lead from `s` to `s'`. -/
inductive Run (T : LTS S L) : S → List L → S → Prop where
  | nil (s : S) : Run T s [] s
  | cons {s m s' : S} {l : L} {ls : List L} :
      T.step s l m → Run T m ls s' → Run T s (l :: ls) s'

/-- Some run from an initial state ends in `s`. -/
def Reachable (T : LTS S L) (s : S) : Prop := ∃ s₀ ls, T.init s₀ ∧ T.Run s₀ ls s

theorem Run.append {s m s' : S} {ls ms : List L} (h₁ : T.Run s ls m) (h₂ : T.Run m ms s') :
    T.Run s (ls ++ ms) s' := by
  induction h₁ with
  | nil => exact h₂
  | cons hs _ ih => exact .cons hs (ih h₂)

theorem Run.single {s s' : S} {l : L} (h : T.step s l s') : T.Run s [l] s' := .cons h (.nil _)

/-- A run of a system whose steps are computed by `f`. -/
theorem Run.of_foldlM {f : S → L → Option S} (hf : ∀ s l s', f s l = some s' → T.step s l s')
    {ls : List L} {s s' : S} (h : ls.foldlM f s = some s') : T.Run s ls s' := by
  induction ls generalizing s with
  | nil =>
    cases h
    exact .nil _
  | cons l ls ih =>
    rw [List.foldlM_cons] at h
    obtain ⟨m, hm, hrest⟩ := Option.bind_eq_some_iff.1 h
    exact .cons (hf s l m hm) (ih hrest)

theorem Reachable.of_init {s : S} (h : T.init s) : T.Reachable s := ⟨s, [], h, .nil s⟩

theorem Reachable.run {s s' : S} {ls : List L} (h : T.Reachable s) (hr : T.Run s ls s') :
    T.Reachable s' := by
  obtain ⟨s₀, ms, hi, hm⟩ := h
  exact ⟨s₀, ms ++ ls, hi, hm.append hr⟩

theorem Reachable.next {s s' : S} {l : L} (h : T.Reachable s) (hs : T.step s l s') :
    T.Reachable s' := h.run (.single hs)

/-! ## Invariants -/

/-- `P` holds initially and every step keeps it. -/
structure Inductive (T : LTS S L) (P : S → Prop) : Prop where
  init : ∀ s, T.init s → P s
  step : ∀ s l s', P s → T.step s l s' → P s'

theorem Inductive.run {P : S → Prop} (h : T.Inductive P) {s s' : S} {ls : List L}
    (hr : T.Run s ls s') (hp : P s) : P s' := by
  induction hr with
  | nil => exact hp
  | cons hs _ ih => exact ih (h.step _ _ _ hp hs)

theorem Inductive.reachable {P : S → Prop} (h : T.Inductive P) {s : S} (hr : T.Reachable s) :
    P s := by
  obtain ⟨s₀, ls, hi, hm⟩ := hr
  exact h.run hm (h.init s₀ hi)

/-- Strengthening: `Q` is inductive relative to an invariant `P`. -/
theorem Inductive.and {P Q : S → Prop} (hP : T.Inductive P) (h0 : ∀ s, T.init s → Q s)
    (h1 : ∀ s l s', P s → Q s → T.step s l s' → Q s') : T.Inductive fun s => P s ∧ Q s where
  init s hi := ⟨hP.init s hi, h0 s hi⟩
  step s l s' h hs := ⟨hP.step s l s' h.1 hs, h1 s l s' h.1 h.2 hs⟩

/-- A preorder every step obeys (under an invariant) relates the ends of a run. -/
theorem Run.rel {P : S → Prop} {R : S → S → Prop} (hP : T.Inductive P) (hrefl : ∀ s, R s s)
    (htrans : ∀ a b c, R a b → R b c → R a c)
    (hstep : ∀ s l s', P s → T.step s l s' → R s s') {s s' : S} {ls : List L}
    (hr : T.Run s ls s') (hp : P s) : R s s' := by
  induction hr with
  | nil => exact hrefl _
  | cons hs _ ih => exact htrans _ _ _ (hstep _ _ _ hp hs) (ih (hP.step _ _ _ hp hs))

/-- What uses up a resource that never comes back happens at most once in a run. -/
theorem Run.countP_le_one {P : S → Prop} (hP : T.Inductive P) (spent : S → Prop) (use : L → Bool)
    (hkeep : ∀ s l s', P s → T.step s l s' → spent s → spent s')
    (huse : ∀ s l s', P s → T.step s l s' → use l = true → ¬spent s ∧ spent s') {s s' : S}
    {ls : List L} (hr : T.Run s ls s') (hp : P s) :
    ls.countP use ≤ 1 ∧ (spent s → ls.countP use = 0) := by
  induction hr with
  | nil => exact ⟨Nat.zero_le _, fun _ => rfl⟩
  | @cons s m s' l ls hs _ ih =>
    obtain ⟨ih1, ih0⟩ := ih (hP.step _ _ _ hp hs)
    rw [List.countP_cons]
    cases hl : use l with
    | true =>
      obtain ⟨hfresh, hspent⟩ := huse _ _ _ hp hs hl
      rw [ih0 hspent]
      exact ⟨Nat.le_refl 1, fun h => absurd h hfresh⟩
    | false =>
      refine ⟨ih1, fun h => ?_⟩
      rw [ih0 (hkeep _ _ _ hp hs h)]
      rfl

/-! ## Runs under a condition on every step -/

/-- The system restricted to the steps that meet `H` in the state before them. -/
def restrict (T : LTS S L) (H : L → S → Prop) : LTS S L where
  init := T.init
  step s l s' := T.step s l s' ∧ H l s

theorem Inductive.restrict {P : S → Prop} (h : T.Inductive P) (H : L → S → Prop) :
    (T.restrict H).Inductive P where
  init := h.init
  step s l s' hp hs := h.step s l s' hp hs.1

theorem Run.of_restrict {H : L → S → Prop} {s s' : S} {ls : List L}
    (h : (T.restrict H).Run s ls s') : T.Run s ls s' := by
  induction h with
  | nil => exact .nil _
  | cons hs _ ih => exact .cons hs.1 ih

theorem Reachable.of_restrict {H : L → S → Prop} {s : S} (h : (T.restrict H).Reachable s) :
    T.Reachable s := by
  obtain ⟨s₀, ls, hi, hr⟩ := h
  exact ⟨s₀, ls, hi, hr.of_restrict⟩

/-- A condition that always holds restricts nothing. -/
theorem Reachable.restrict {H : L → S → Prop} {s : S} (h : T.Reachable s) (hH : ∀ l s, H l s) :
    (T.restrict H).Reachable s := by
  obtain ⟨s₀, ls, h0, hr⟩ := h
  refine ⟨s₀, ls, h0, ?_⟩
  clear h0
  induction hr with
  | nil => exact .nil _
  | cons hs _ ih => exact .cons ⟨hs, hH _ _⟩ ih

end LTS
end AutomationTool
