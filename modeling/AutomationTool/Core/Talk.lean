import Mathlib

/-!
# Computations that record what they ask

A `Talk` asks its environment questions and records every question with the
answer it got, an exception included. The environment sees the whole record,
so an environment that keeps a state, or one that changes its mind, is a
function of the record.

* `ask`: one question; `raise`, `rescue`: an exception and its handler.
* `Spec P m Q R`: from a record in `P`, `m` either returns a value in `Q` or
  raises an exception in `R`, each beside the record it leaves. One rule for
  each way of building a computation; `spec_foldlM` is the rule for loops, its
  invariant speaks of the part of the list already walked.
-/
namespace AutomationTool

def Talk (χ ε α : Type) : Type := List χ → Except ε α × List χ

namespace Talk

variable {χ ε α β : Type}

def pure (a : α) : Talk χ ε α := fun h => (.ok a, h)

def raise (e : ε) : Talk χ ε α := fun h => (.error e, h)

def bind (m : Talk χ ε α) (f : α → Talk χ ε β) : Talk χ ε β := fun h =>
  match m h with
  | (.ok a, h') => f a h'
  | (.error e, h') => (.error e, h')

instance : Monad (Talk χ ε) where
  pure := Talk.pure
  bind := Talk.bind

/-- One question: `answer` is the environment's, `entry` what is recorded. -/
def ask (answer : List χ → Except ε α) (entry : Except ε α → χ) : Talk χ ε α := fun h =>
  (answer h, h ++ [entry (answer h)])

/-- `try m except e: handler e`. -/
def rescue (m : Talk χ ε α) (handler : ε → Talk χ ε α) : Talk χ ε α := fun h =>
  match m h with
  | (.ok a, h') => (.ok a, h')
  | (.error e, h') => handler e h'

/-- What a computation leaves behind, whichever way it ends. -/
def Ends (Q : α → List χ → Prop) (R : ε → List χ → Prop) : Except ε α × List χ → Prop
  | (.ok a, h) => Q a h
  | (.error e, h) => R e h

def Spec (P : List χ → Prop) (m : Talk χ ε α) (Q : α → List χ → Prop)
    (R : ε → List χ → Prop) : Prop :=
  ∀ h, P h → Ends Q R (m h)

variable {P P' : List χ → Prop} {Q Q' : α → List χ → Prop} {R R' : ε → List χ → Prop}

theorem spec_pure {a : α} (h : ∀ l, P l → Q a l) :
    Spec P (Pure.pure a : Talk χ ε α) Q R := h

theorem spec_raise {e : ε} (h : ∀ l, P l → R e l) : Spec P (raise e : Talk χ ε α) Q R := h

theorem spec_bind {m : Talk χ ε α} {f : α → Talk χ ε β} {S : β → List χ → Prop}
    (hm : Spec P m Q R) (hf : ∀ a, Spec (Q a) (f a) S R) : Spec P (m >>= f) S R := by
  intro l hl
  have hml := hm l hl
  change Ends S R (bind m f l)
  unfold bind
  cases hr : m l with
  | mk r l' =>
    rw [hr] at hml
    cases r with
    | ok a => exact hf a l' hml
    | error e => exact hml

theorem spec_ask {answer : List χ → Except ε α} {entry : Except ε α → χ}
    (hok : ∀ l a, P l → answer l = .ok a → Q a (l ++ [entry (.ok a)]))
    (herr : ∀ l e, P l → answer l = .error e → R e (l ++ [entry (.error e)])) :
    Spec P (ask answer entry) Q R := by
  intro l hl
  unfold ask
  cases ha : answer l with
  | ok a => exact hok l a hl ha
  | error e => exact herr l e hl ha

theorem spec_rescue {m : Talk χ ε α} {handler : ε → Talk χ ε α} {S : ε → List χ → Prop}
    (hm : Spec P m Q S) (hh : ∀ e, Spec (S e) (handler e) Q R) : Spec P (rescue m handler) Q R := by
  intro l hl
  have hml := hm l hl
  unfold rescue
  cases hr : m l with
  | mk r l' =>
    rw [hr] at hml
    cases r with
    | ok a => exact hml
    | error e => exact hh e l' hml

theorem Spec.mono {m : Talk χ ε α} (h : Spec P m Q R) (hP : ∀ l, P' l → P l)
    (hQ : ∀ a l, Q a l → Q' a l) (hR : ∀ e l, R e l → R' e l) : Spec P' m Q' R' := by
  intro l hl
  have hml := h l (hP l hl)
  cases hr : m l with
  | mk r l' =>
    rw [hr] at hml
    cases r with
    | ok a => exact hQ a l' hml
    | error e => exact hR e l' hml

/-- A loop keeps an invariant of the elements it has walked. -/
theorem spec_foldlM {γ : Type} {f : β → γ → Talk χ ε β} {I : List γ → β → List χ → Prop}
    {xs : List γ}
    (hf : ∀ done x rest b, xs = done ++ x :: rest →
      Spec (I done b) (f b x) (fun b' => I (done ++ [x]) b') R) (b : β) :
    Spec (I [] b) (xs.foldlM f b) (fun b' => I xs b') R := by
  suffices ∀ rest done b, xs = done ++ rest →
      Spec (I done b) (rest.foldlM f b) (fun b' => I xs b') R from this xs [] b rfl
  intro rest
  induction rest with
  | nil =>
    intro done b hxs
    rw [List.append_nil] at hxs
    rw [List.foldlM_nil]
    exact spec_pure fun l hl => hxs ▸ hl
  | cons x rest ih =>
    intro done b hxs
    rw [List.foldlM_cons]
    refine spec_bind (hf done x rest b hxs) fun b' => ?_
    exact ih (done ++ [x]) b' (by simp [hxs])

end Talk

end AutomationTool
