import AutomationTool.Core.Prog

/-!
# Programs among others, under a condition on the calls

The rules for the runs of a pool all of whose calls meet a condition `H` in the state they
are made in. Between two calls of a program the state moves along `rely`; every call keeps
the invariant and itself moves along `rely`, where it meets `H`.

* `Prog.amid`: what a program does under these rules, and what holds of its result;
  `amid_bind` and, for programs that may raise a value, `amid_bindE` compose it.
* `amid_of_uses`: a program all of whose calls keep the rules by themselves.
* `pool_amid`: the invariant holds in every state such a run reaches.
-/
namespace AutomationTool

variable {σ Op : Type} {Ret : Op → Type} {α β ε : Type}

/-- What everybody may rely on. -/
structure Interference (exec : (o : Op) → σ → Ret o × σ) where
  inv : σ → Prop
  rely : σ → σ → Prop
  /-- The condition on the calls of the run. -/
  cond : Op → σ → Prop
  refl : ∀ s, rely s s
  trans : ∀ {a b c}, rely a b → rely b c → rely a c

/-- A call that keeps the rules. -/
def Interference.keeps {exec : (o : Op) → σ → Ret o × σ} (C : Interference exec) (o : Op) : Prop :=
  ∀ s, C.inv s → C.cond o s → C.inv (exec o s).2 ∧ C.rely s (exec o s).2

namespace Prog

variable {exec : (o : Op) → σ → Ret o × σ} (C : Interference exec)

/-- The program keeps the rules, and `Q` holds where it ends. -/
def amid : Prog Op Ret α → (α → σ → Prop) → σ → Prop
  | .pure a, Q, s => Q a s
  | .raise, _, _ => True
  | .call o k, Q, s => ∀ s', C.inv s' → C.rely s s' → C.cond o s' →
      C.inv (exec o s').2 ∧ C.rely s' (exec o s').2 ∧ (k (exec o s').1).amid Q (exec o s').2

variable {C}

theorem amid_mono {p : Prog Op Ret α} {Q Q' : α → σ → Prop} {s : σ} (h : p.amid C Q s)
    (hQ : ∀ a s, Q a s → Q' a s) : p.amid C Q' s := by
  induction p generalizing s with
  | pure a => exact hQ a s h
  | raise => exact trivial
  | call o k ih =>
    intro s' hi hr hc
    obtain ⟨h1, h2, h3⟩ := h s' hi hr hc
    exact ⟨h1, h2, ih _ h3⟩

theorem amid_bind {p : Prog Op Ret α} {f : α → Prog Op Ret β} {Q : β → σ → Prop} {s : σ}
    (h : p.amid C (fun a s => (f a).amid C Q s) s) : (p >>= f).amid C Q s := by
  induction p generalizing s with
  | pure a => exact h
  | raise => exact trivial
  | call o k ih =>
    intro s' hi hr hc
    obtain ⟨h1, h2, h3⟩ := h s' hi hr hc
    exact ⟨h1, h2, ih _ h3⟩

theorem amid_call {o : Op} {k : Ret o → Prog Op Ret α} {Q : α → σ → Prop} {s : σ}
    (h : ∀ s', C.inv s' → C.rely s s' → C.cond o s' → C.inv (exec o s').2 ∧
      C.rely s' (exec o s').2 ∧ (k (exec o s').1).amid C Q (exec o s').2) :
    (call o k).amid C Q s := h

/-- What others do first does not matter. -/
theorem amid_rely {p : Prog Op Ret α} {Q : α → σ → Prop} {s s' : σ} (h : p.amid C Q s)
    (hr : C.rely s s') (hQ : ∀ a, Q a s → Q a s') : p.amid C Q s' := by
  cases p with
  | pure a => exact hQ a h
  | raise => exact trivial
  | call o k => exact fun t hi ht hc => h t hi (C.trans hr ht) hc

/-- A program of calls that keep the rules: where it ends, the state moved along `rely`. -/
theorem amid_of_uses {p : Prog Op Ret α} (hp : p.uses C.keeps) {s₀ s : σ} (hs : C.inv s)
    (h₀ : C.rely s₀ s) : p.amid C (fun _ t => C.inv t ∧ C.rely s₀ t) s := by
  induction p generalizing s with
  | pure a => exact ⟨hs, h₀⟩
  | raise => exact trivial
  | call o k ih =>
    intro s' hi hr hc
    obtain ⟨h1, h2⟩ := hp.1 s' hi hc
    exact ⟨h1, h2, ih _ (hp.2 _) h1 (C.trans (C.trans h₀ hr) h2)⟩

/-- Where a program ends, the invariant holds and the state moved along `rely`. -/
theorem amid_since {p : Prog Op Ret α} {Q : α → σ → Prop} {s₀ s : σ} (hs : C.inv s)
    (h₀ : C.rely s₀ s) (h : p.amid C Q s) :
    p.amid C (fun a t => Q a t ∧ C.inv t ∧ C.rely s₀ t) s := by
  induction p generalizing s with
  | pure a => exact ⟨h, hs, h₀⟩
  | raise => exact trivial
  | call o k ih =>
    intro s' hi hr hc
    obtain ⟨h1, h2, h3⟩ := h s' hi hr hc
    exact ⟨h1, h2, ih _ h1 (C.trans (C.trans h₀ hr) h2) h3⟩

/-! ## Programs that may raise a value -/

/-- `Q` holds of what is returned, nothing is said of what is raised. -/
def Returned (Q : α → σ → Prop) : Except ε α → σ → Prop
  | .ok a, s => Q a s
  | .error _, _ => True

variable {x : ExceptT ε (Prog Op Ret) α} {f : α → ExceptT ε (Prog Op Ret) β}
  {Q : β → σ → Prop} {s : σ}

theorem amid_bindE (h : x.run.amid C (Returned fun a s => (f a).run.amid C (Returned Q) s) s) :
    (x >>= f).run.amid C (Returned Q) s := by
  refine amid_bind (amid_mono h fun r s hr => ?_)
  cases r with
  | ok a => exact hr
  | error e => exact trivial

/-- What is shown of the first part holds where the second one starts. -/
theorem amid_thenE {Q' : α → σ → Prop} (hx : x.run.amid C (Returned Q') s) (hs : C.inv s)
    (h : ∀ a t, C.inv t → C.rely s t → Q' a t → (f a).run.amid C (Returned Q) t) :
    (x >>= f).run.amid C (Returned Q) s := by
  refine amid_bindE (amid_mono (amid_since hs (C.refl s) hx) fun r t ht => ?_)
  cases r with
  | ok a => exact h a t ht.2.1 ht.2.2 ht.1
  | error e => exact trivial

/-- A part of calls that keep the rules, whatever it returns. -/
theorem amid_usesE (hx : x.run.uses C.keeps) (hs : C.inv s)
    (h : ∀ a t, C.inv t → C.rely s t → (f a).run.amid C (Returned Q) t) :
    (x >>= f).run.amid C (Returned Q) s := by
  refine amid_bindE (amid_mono (amid_of_uses hx hs (C.refl s)) fun r t ht => ?_)
  cases r with
  | ok a => exact h a t ht.1 ht.2
  | error e => exact trivial

theorem uses_bindE {A : Op → Prop} (hx : x.run.uses A) (hf : ∀ a, (f a).run.uses A) :
    (x >>= f).run.uses A := by
  refine uses_bind hx fun r => ?_
  cases r with
  | ok a => exact hf a
  | error e => exact trivial

end Prog

/-! ## Their pool -/

/-- The invariant holds throughout every run of such programs whose calls meet the
condition. -/
theorem pool_amid {init : σ → Prop} {exec : (o : Op) → σ → Ret o × σ}
    {offered : Prog Op Ret Unit → Prop} (C : Interference exec) (h0 : ∀ s, init s → C.inv s)
    (hsafe : ∀ p, offered p → ∀ s, C.inv s → p.amid C (fun _ _ => True) s) {P : Pool σ Op Ret}
    (hP : ((pool init exec offered).restrict (PoolLabel.meets C.cond)).Reachable P) :
    C.inv P.state := by
  have hI : ((pool init exec offered).restrict (PoolLabel.meets C.cond)).Inductive fun P =>
      C.inv P.state ∧ ∀ p ∈ P.procs, p.amid C (fun _ _ => True) P.state := by
    constructor
    · rintro P ⟨hi, hp⟩
      refine ⟨h0 _ hi, fun p hmem => ?_⟩
      rw [hp] at hmem
      cases hmem
    · rintro P l P' ⟨hinv, hall⟩ ⟨hs, hH⟩
      cases hs with
      | spawn hp =>
        refine ⟨hinv, fun p hmem => ?_⟩
        rcases List.mem_append.1 hmem with h | h
        · exact hall p h
        · rw [List.mem_singleton.1 h]
          exact hsafe _ hp _ hinv
      | @turn i o k hi =>
        obtain ⟨h1, h2, h3⟩ := hall _ (List.mem_of_getElem? hi) P.state hinv (C.refl _) hH
        refine ⟨h1, fun p hmem => ?_⟩
        rcases List.mem_or_eq_of_mem_set hmem with h | rfl
        · exact Prog.amid_rely (hall p h) h2 fun _ => id
        · exact h3
      | crash => exact ⟨hinv, fun p hmem => nomatch hmem⟩
  exact (hI.reachable hP).1

end AutomationTool
