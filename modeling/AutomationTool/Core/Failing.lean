import Mathlib

/-!
# Computations that may fail

What is known of the parts of a computation in `Except` that went through.

* `bind_eq_ok`: both parts did.
* `mapM_eq_ok`: every element did; `mapM_eq_some` is the same of `Option`.
* `forRange_meets`: what a loop over a range keeps, and what is known when it fails.
-/
namespace AutomationTool

variable {ε α β σ : Type}

theorem bind_eq_ok {x : Except ε α} {f : α → Except ε β} {b : β} :
    x >>= f = .ok b ↔ ∃ a, x = .ok a ∧ f a = .ok b := by
  cases x with
  | error e =>
    constructor
    · intro h
      cases h
    · rintro ⟨a, h, -⟩
      cases h
  | ok a =>
    constructor
    · exact fun h => ⟨a, rfl, h⟩
    · rintro ⟨a', h, hf⟩
      cases h
      exact hf

theorem mapM_of_forall₂ {f : α → Except ε β} {as : List α} {bs : List β}
    (h : List.Forall₂ (fun a b => f a = .ok b) as bs) : as.mapM f = .ok bs := by
  induction h with
  | nil => rfl
  | cons ha _ ih =>
    rw [List.mapM_cons]
    exact bind_eq_ok.2 ⟨_, ha, bind_eq_ok.2 ⟨_, ih, rfl⟩⟩

theorem mapM_eq_ok {f : α → Except ε β} {as : List α} {bs : List β} :
    as.mapM f = .ok bs ↔ List.Forall₂ (fun a b => f a = .ok b) as bs := by
  refine ⟨fun h => ?_, mapM_of_forall₂⟩
  induction as generalizing bs with
  | nil =>
    cases h
    exact .nil
  | cons a as ih =>
    rw [List.mapM_cons] at h
    obtain ⟨b, hb, h⟩ := bind_eq_ok.1 h
    obtain ⟨bs', hbs, h⟩ := bind_eq_ok.1 h
    cases h
    exact .cons hb (ih hbs)

theorem mapM_eq_some {f : α → Option β} {as : List α} {bs : List β} :
    as.mapM f = some bs ↔ List.Forall₂ (fun a b => f a = some b) as bs := by
  constructor
  · intro h
    induction as generalizing bs with
    | nil =>
      cases h
      exact .nil
    | cons a as ih =>
      rw [List.mapM_cons] at h
      obtain ⟨b, hb, h⟩ := Option.bind_eq_some_iff.1 h
      obtain ⟨bs', hbs, h⟩ := Option.bind_eq_some_iff.1 h
      cases h
      exact .cons hb (ih hbs)
  · intro h
    induction h with
    | nil => rfl
    | cons ha _ ih =>
      rw [List.mapM_cons]
      exact Option.bind_eq_some_iff.2 ⟨_, ha, Option.bind_eq_some_iff.2 ⟨_, ih, rfl⟩⟩

theorem exists_forall₂ {R : α → β → Prop} {as : List α} (h : ∀ a ∈ as, ∃ b, R a b) :
    ∃ bs, List.Forall₂ R as bs := by
  induction as with
  | nil => exact ⟨[], .nil⟩
  | cons a as ih =>
    obtain ⟨b, hb⟩ := h a List.mem_cons_self
    obtain ⟨bs, hbs⟩ := ih fun x hx => h x (List.mem_cons_of_mem _ hx)
    exact ⟨b :: bs, .cons hb hbs⟩

theorem exists_mapM {f : α → Option β} {as : List α} (h : ∀ a ∈ as, ∃ b, f a = some b) :
    ∃ bs, as.mapM f = some bs := by
  obtain ⟨bs, hbs⟩ := exists_forall₂ h
  exact ⟨bs, mapM_eq_some.2 hbs⟩

/-- Lists that agree element by element in some respect. -/
theorem map_eq_of_forall₂ {γ : Type} {R : α → β → Prop} {as : List α} {bs : List β}
    (h : List.Forall₂ R as bs) {f : α → γ} {g : β → γ} (hfg : ∀ a b, R a b → g b = f a) :
    bs.map g = as.map f := by
  induction h with
  | nil => rfl
  | cons hab _ ih => rw [List.map_cons, List.map_cons, ih, hfg _ _ hab]

/-- What belongs to an element of the second list. -/
theorem forall₂_mem_right {R : α → β → Prop} {as : List α} {bs : List β}
    (h : List.Forall₂ R as bs) {b : β} (hb : b ∈ bs) : ∃ a ∈ as, R a b := by
  induction h with
  | nil => cases hb
  | cons hab _ ih =>
    rcases List.mem_cons.1 hb with rfl | hb
    · exact ⟨_, List.mem_cons_self, hab⟩
    · obtain ⟨a, ha, hr⟩ := ih hb
      exact ⟨a, List.mem_cons_of_mem _ ha, hr⟩

/-- What is known of a computation, whichever way it ends. -/
def Meets (post : α → Prop) (bad : ε → Prop) : Except ε α → Prop
  | .ok a => post a
  | .error e => bad e

theorem Meets.bind {x : Except ε α} {f : α → Except ε β} {post : α → Prop} {post' : β → Prop}
    {bad : ε → Prop} (hx : Meets post bad x) (hf : ∀ a, post a → Meets post' bad (f a)) :
    Meets post' bad (x >>= f) := by
  cases x with
  | error e => exact hx
  | ok a => exact hf a hx

/-- `for i in range(start, start + count)`, with the state it changes. -/
def forRange (body : Nat → σ → Except ε σ) : Nat → Nat → σ → Except ε σ
  | _, 0, s => .ok s
  | i, count + 1, s => body i s >>= forRange body (i + 1) count

/-- The rule for such a loop: its invariant speaks of the next index. -/
theorem forRange_meets {body : Nat → σ → Except ε σ} (inv : Nat → σ → Prop) (bad : ε → Prop)
    (start count : Nat) {s : σ} (hs : inv start s)
    (hbody : ∀ i s, start ≤ i → i < start + count → inv i s →
      Meets (inv (i + 1)) bad (body i s)) :
    Meets (inv (start + count)) bad (forRange body start count s) := by
  induction count generalizing start s with
  | zero => exact hs
  | succ count ih =>
    refine (hbody start s (Nat.le_refl _) (by omega) hs).bind fun s' hs' => ?_
    have hrest := ih (start + 1) hs' fun i s hle hlt hi => hbody i s (by omega) (by omega) hi
    rwa [show start + 1 + count = start + (count + 1) by omega] at hrest

end AutomationTool
