import AutomationTool.Core.Prog

/-!
# Calls that need a permit

Programs that share a service, and a call of theirs that may only be made with a permit
another call granted them before. The service grants the permit once: granting spends what
it needs, and nothing brings that back.

* `Run.countP_le_credit`: what each use takes from a credit that no step raises happens at
  most as often as the first state's credit.
* `Prog.licensed`: a program uses no permit it was not granted.
* `pool_uses_once`: in every interleaving of licensed programs there is at most one use.
-/
namespace AutomationTool

universe u v

theorem LTS.Run.countP_le_credit {S : Type u} {L : Type v} {T : LTS S L} (credit : S → Nat)
    (use : L → Bool) {P : S → Prop} (hP : T.Inductive P)
    (hstep : ∀ s l s', P s → T.step s l s' → credit s' + (if use l then 1 else 0) ≤ credit s)
    {s s' : S} {ls : List L} (hr : T.Run s ls s') (hp : P s) :
    credit s' + ls.countP use ≤ credit s := by
  induction hr with
  | nil => simp
  | @cons s m s' l ls hs _ ih =>
    have h1 := hstep _ _ _ hp hs
    have h2 := ih (hP.step _ _ _ hp hs)
    rw [List.countP_cons]
    omega

variable {σ Op : Type} {Ret : Op → Type} {α β : Type}

/-- Which answers grant the permit, and which calls use it. -/
structure Licence (Op : Type) (Ret : Op → Type) where
  grants : (o : Op) → Ret o → Bool
  uses : Op → Bool

namespace Prog

variable (A : Licence Op Ret)

/-- Whether a permit is held after a call. -/
def holds (held : Bool) (o : Op) (r : Ret o) : Bool := !A.uses o && (held || A.grants o r)

/-- The program uses no permit it does not hold. -/
def licensed : Bool → Prog Op Ret α → Prop
  | _, .pure _ => True
  | _, .raise => True
  | held, .call o k => (A.uses o = true → held = true) ∧ ∀ r, (k r).licensed (holds A held o r)

variable {A}

theorem licensed_mono {p : Prog Op Ret α} (h : p.licensed A false) (held : Bool) :
    p.licensed A held := by
  induction p generalizing held with
  | pure a => exact trivial
  | raise => exact trivial
  | call o k ih =>
    cases held with
    | false => exact h
    | true =>
      refine ⟨fun _ => rfl, fun r => ?_⟩
      have hr := h.2 r
      cases huse : A.uses o with
      | true => exact absurd (h.1 huse) Bool.false_ne_true
      | false =>
        cases hg : A.grants o r with
        | true => simpa [holds, huse, hg] using hr
        | false =>
          simp only [holds, huse, hg] at hr
          exact ih r hr _

theorem licensed_bind {p : Prog Op Ret α} {f : α → Prog Op Ret β} {held : Bool}
    (hp : p.licensed A held) (hf : ∀ a, (f a).licensed A false) : (p >>= f).licensed A held := by
  induction p generalizing held with
  | pure a => exact licensed_mono (hf a) held
  | raise => exact trivial
  | call o k ih => exact ⟨hp.1, fun r => ih r (hp.2 r)⟩

/-- A program that makes no such call needs no permit. -/
theorem licensed_of_uses {p : Prog Op Ret α} (h : p.uses fun o => A.uses o = false) :
    p.licensed A false := by
  induction p with
  | pure a => exact trivial
  | raise => exact trivial
  | call o k ih =>
    refine ⟨fun huse => ?_, fun r => licensed_mono (ih r (h.2 r)) _⟩
    exact absurd (huse.symm.trans h.1) (Bool.noConfusion)

/-- A program that may raise a value. -/
theorem licensed_bindE {ε : Type} {x : ExceptT ε (Prog Op Ret) α}
    {f : α → ExceptT ε (Prog Op Ret) β} {held : Bool} (hx : x.run.licensed A held)
    (hf : ∀ a, (f a).run.licensed A false) : (x >>= f).run.licensed A held := by
  refine licensed_bind hx fun r => ?_
  cases r with
  | ok a => exact hf a
  | error e => exact trivial

end Prog

section

variable {A : Licence Op Ret} {init : σ → Prop} {exec : (o : Op) → σ → Ret o × σ}
  {offered : Prog Op Ret Unit → Prop}

/-- The call of a label uses the permit. -/
def PoolLabel.usesPermit (A : Licence Op Ret) : PoolLabel Op Ret → Bool
  | .turn _ c => A.uses c.1
  | _ => false

open Classical in
/-- The program holds the permit, and may need it. -/
noncomputable def holder (A : Licence Op Ret) (p : Prog Op Ret Unit) : Bool :=
  decide ¬p.licensed A false

theorem holder_iff {p : Prog Op Ret Unit} : holder A p = true ↔ ¬p.licensed A false := by
  simp [holder]

open Classical in
/-- One while the permit can still be granted, and one for every program that holds it. -/
noncomputable def permits (A : Licence Op Ret) (spent : σ → Prop) (P : Pool σ Op Ret) : Nat :=
  (if spent P.state then 0 else 1) + P.procs.countP (holder A)

theorem countP_set {p : Prog Op Ret Unit → Bool} {procs : List (Prog Op Ret Unit)} {i : Nat}
    {x y : Prog Op Ret Unit} (hi : procs[i]? = some x) :
    (procs.set i y).countP p + (if p x then 1 else 0) =
      procs.countP p + (if p y then 1 else 0) := by
  induction procs generalizing i with
  | nil => simp at hi
  | cons z zs ih =>
    cases i with
    | zero =>
      cases hi
      simp only [List.set_cons_zero, List.countP_cons]
      omega
    | succ i =>
      have := ih (i := i) (by simpa using hi)
      simp only [List.set_cons_succ, List.countP_cons] at this ⊢
      omega

open Classical in
/-- One call of a program: a use gives up the permit, a grant takes the service's. -/
theorem permit_turn {spent : σ → Prop} (hspent : ∀ o s, spent s → spent (exec o s).2)
    (hgrants : ∀ o s, A.grants o (exec o s).1 = true → ¬spent s ∧ spent (exec o s).2) {s : σ}
    {o : Op} {k : Ret o → Prog Op Ret Unit} (h : (Prog.call o k).licensed A true) :
    (if spent (exec o s).2 then 0 else 1) + (if A.uses o then 1 else 0) +
        (if holder A (k (exec o s).1) then 1 else 0) ≤
      (if spent s then 0 else 1) + (if holder A (.call o k) then 1 else 0) := by
  have hkeep : spent s → spent (exec o s).2 := hspent o s
  have hgrant := hgrants o s
  have hnext := h.2 (exec o s).1
  cases huse : A.uses o with
  | true =>
    -- the program held the permit and gives it up
    have hheld : holder A (.call o k) = true :=
      holder_iff.2 fun hc => Bool.noConfusion (hc.1 huse)
    have hgone : ¬holder A (k (exec o s).1) = true := by
      rw [holder_iff, not_not]
      simpa [Prog.holds, huse] using hnext
    rw [if_pos hheld, if_neg hgone, if_pos rfl]
    split_ifs <;> first | omega | exact absurd (hkeep ‹_›) ‹_›
  | false =>
    rw [if_neg Bool.false_ne_true, Nat.add_zero]
    cases hg : A.grants o (exec o s).1 with
    | true =>
      obtain ⟨hfree, hspent'⟩ := hgrant hg
      rw [if_pos hspent', if_neg hfree]
      split_ifs <;> omega
    | false =>
      have hsame : holder A (k (exec o s).1) = true → holder A (.call o k) = true := by
        rw [holder_iff, holder_iff, not_imp_not]
        intro hc
        simpa [Prog.holds, huse, hg] using hc.2 (exec o s).1
      split_ifs <;> first | omega | exact absurd (hkeep ‹_›) ‹_› | exact absurd (hsame ‹_›) ‹_›

/-- In a run of licensed programs the permit is used at most once. -/
theorem pool_uses_once (spent : σ → Prop)
    (hspent : ∀ o s, spent s → spent (exec o s).2)
    (hgrants : ∀ o s, A.grants o (exec o s).1 = true → ¬spent s ∧ spent (exec o s).2)
    (hoffered : ∀ p, offered p → p.licensed A false) {P₀ P : Pool σ Op Ret}
    {ls : List (PoolLabel Op Ret)} (h0 : (pool init exec offered).init P₀)
    (hr : (pool init exec offered).Run P₀ ls P) : ls.countP (PoolLabel.usesPermit A) ≤ 1 := by
  classical
  have hI : (pool init exec offered).Inductive fun P => ∀ p ∈ P.procs, p.licensed A true := by
    constructor
    · rintro P ⟨-, hp⟩ p hmem
      rw [hp] at hmem
      cases hmem
    · rintro P l P' hall hs p hmem
      cases hs with
      | spawn hp =>
        rcases List.mem_append.1 hmem with h | h
        · exact hall p h
        · rw [List.mem_singleton.1 h]
          exact Prog.licensed_mono (hoffered _ hp) true
      | @turn i o k hi =>
        rcases List.mem_or_eq_of_mem_set hmem with h | rfl
        · exact hall p h
        · have := (hall _ (List.mem_of_getElem? hi)).2 (exec o P.state).1
          revert this
          cases Prog.holds A true o (exec o P.state).1 with
          | true => exact id
          | false => exact fun h => Prog.licensed_mono h true
      | crash => cases hmem
  have hstep : ∀ P l P', (∀ p ∈ P.procs, p.licensed A true) → (pool init exec offered).step P l P' →
      permits A spent P' + (if PoolLabel.usesPermit A l then 1 else 0) ≤ permits A spent P := by
    rintro P l P' hall hs
    cases hs with
    | spawn hp =>
      have hfree := mt holder_iff.1 (not_not.2 (hoffered _ hp))
      simp [permits, PoolLabel.usesPermit, List.countP_append, hfree]
    | @turn i o k hi =>
      have hset := countP_set (p := holder A) (y := k (exec o P.state).1) hi
      have hturn := permit_turn hspent hgrants (s := P.state) (hall _ (List.mem_of_getElem? hi))
      show (if spent (exec o P.state).2 then 0 else 1) + (P.procs.set i _).countP _ +
        (if A.uses o then 1 else 0) ≤ (if spent P.state then 0 else 1) + P.procs.countP _
      omega
    | crash => simp [permits, PoolLabel.usesPermit]
  have hle := hr.countP_le_credit (permits A spent) (PoolLabel.usesPermit A) hI hstep
    (hI.init _ h0)
  have h1 : permits A spent P₀ ≤ 1 := by
    unfold permits
    rw [h0.2]
    split <;> simp
  omega

end
end AutomationTool
