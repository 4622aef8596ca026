import Mathlib

/-!
# Backtracking that remembers where it failed

A search goes through choices in some order and tries what follows each of them. Where all of
them have failed it writes down the key of the place, and does not try them there again. `W` is
what it has written down and spent: it may stop looking (it is not `live` any more), and it may
break off (`none`).

* `Spends`: computations that have the value they have without a limit, wherever they do not
  break off, and leave alone what has been written down.
* `Tells`: searches that find only what is there, and find it as long as they are live.
* `tells_attempt`, `tells_memoised`: going through the choices, and writing down.
-/
namespace AutomationTool.MemoSearch

variable {W Kept Key Choice α β : Type}

abbrev Search (W : Type) := StateT W Option

theorem bind_eq_some {x : Search W α} {f : α → Search W β} {w w' : W} {b : β} :
    (x >>= f) w = some (b, w') ↔ ∃ a u, x w = some (a, u) ∧ f a u = some (b, w') := by
  show (x w).bind (fun p => f p.1 p.2) = some (b, w') ↔ _
  rw [Option.bind_eq_some_iff, Prod.exists]

theorem pure_eq_some {a b : α} {w w' : W} :
    (pure a : Search W α) w = some (b, w') ↔ b = a ∧ w' = w := by
  show some (a, w) = some (b, w') ↔ _
  rw [Option.some.injEq, Prod.mk.injEq, eq_comm, @eq_comm _ w]

/-! ## Spending -/

/-- Where `x` does not break off, it has the value of `y` and leaves `kept` as it was. -/
def Spends (kept : W → Kept) (x y : Search W α) : Prop :=
  ∀ ⦃w b w'⦄, x w = some (b, w') → kept w' = kept w ∧ ∀ v, ∃ v', y v = some (b, v')

section

variable {kept : W → Kept}

theorem Spends.pure (a : α) : Spends kept (pure a : Search W α) (pure a) := by
  intro w b w' h
  obtain ⟨rfl, rfl⟩ := pure_eq_some.1 h
  exact ⟨rfl, fun v => ⟨v, rfl⟩⟩

theorem Spends.bind {x y : Search W α} {f g : α → Search W β} (hx : Spends kept x y)
    (hf : ∀ a, Spends kept (f a) (g a)) : Spends kept (x >>= f) (y >>= g) := by
  intro w b w' h
  obtain ⟨a, u, ha, hb⟩ := bind_eq_some.1 h
  obtain ⟨hkept, hvalue⟩ := hx ha
  obtain ⟨hkept', hvalue'⟩ := hf a hb
  refine ⟨hkept'.trans hkept, fun v => ?_⟩
  obtain ⟨v1, h1⟩ := hvalue v
  obtain ⟨v2, h2⟩ := hvalue' v1
  exact ⟨v2, bind_eq_some.2 ⟨a, v1, h1, h2⟩⟩

theorem Spends.ite {p : Prop} [Decidable p] {x y x' y' : Search W α} (h : Spends kept x y)
    (h' : Spends kept x' y') : Spends kept (if p then x else x') (if p then y else y') := by
  split
  · exact h
  · exact h'

/-- The value of a computation without limits. -/
def Yields (y : Search W α) (a : α) : Prop := ∀ v, ∃ v', y v = some (a, v')

theorem Yields.unique [Nonempty W] {y : Search W α} {a b : α} (ha : Yields y a) (hb : Yields y b) :
    a = b := by
  obtain ⟨v⟩ := ‹Nonempty W›
  obtain ⟨v1, h1⟩ := ha v
  obtain ⟨v2, h2⟩ := hb v
  rw [h1] at h2
  exact congrArg Prod.fst (Option.some.inj h2)

end

/-! ## Searching -/

section

variable (live : W → Prop) (failed : W → List Key) (Holds : Key → Prop)

/-- Nothing is where the search has written down that it has failed. -/
def Honest (w : W) : Prop := ∀ k ∈ failed w, ¬Holds k

/-- The search finds `P` only where it holds, and when it is live afterwards it finds it then. -/
def Tells (x : Search W Bool) (P : Prop) : Prop :=
  ∀ ⦃w b w'⦄, x w = some (b, w') →
    (b = true → P) ∧
      (live w' → live w ∧ (Honest failed Holds w → Honest failed Holds w' ∧ (b = false → ¬P)))

variable (spend : Search W Bool) (check next : Choice → Search W Bool)

/-- The choices in turn, as long as `spend` allows another one; `none` when all have failed. -/
def attempt : List Choice → Search W (Option Bool)
  | [] => pure none
  | c :: cs => do
    if !(← spend) then pure (some false)
    else if !(← check c) then attempt cs
    else if ← next c then pure (some true)
    else attempt cs

/-- What has failed under this key before is not tried again. -/
def memoised [DecidableEq Key] (write : Key → W → W) (key : Key)
    (x : Search W (Option Bool)) : Search W Bool := fun w =>
  if key ∈ failed w then some (false, w)
  else
    match x w with
    | none => none
    | some (some found, w') => some (found, w')
    | some (none, w') => some (false, write key w')

variable {live failed Holds spend check next}

/-- A computation that only spends tells whether its value is `true`. -/
theorem tells_of_spends [Nonempty W] {kept : W → Kept} {x y : Search W Bool}
    (hkept : ∀ ⦃w w'⦄, kept w' = kept w → failed w' = failed w ∧ (live w' ↔ live w))
    (h : Spends kept x y) : Tells live failed Holds x (Yields y true) := by
  intro w b w' hrun
  obtain ⟨hsame, hvalue⟩ := h hrun
  obtain ⟨hfailed, hlive⟩ := hkept hsame
  refine ⟨fun hb => hb ▸ hvalue, fun hw' => ⟨hlive.1 hw', fun hw => ⟨?_, fun hb htrue => ?_⟩⟩⟩
  · unfold Honest
    rwa [hfailed]
  · rw [Yields.unique hvalue htrue] at hb
    cases hb

/-- The choices in turn find one that is there. -/
theorem tells_attempt {P Q : Choice → Prop}
    (hspend : ∀ ⦃w b w'⦄, spend w = some (b, w') →
      (b = false → ¬live w') ∧ (live w' → live w ∧ (Honest failed Holds w → Honest failed Holds w')))
    (hcheck : ∀ c, Tells live failed Holds (check c) (P c))
    (hnext : ∀ c, Tells live failed Holds (next c) (Q c)) (cs : List Choice)
    {w w' : W} {r : Option Bool} (h : attempt spend check next cs w = some (r, w')) :
    (r = some true → ∃ c ∈ cs, P c ∧ Q c) ∧
      (live w' → live w ∧ r ≠ some false ∧
        (Honest failed Holds w → Honest failed Holds w' ∧ (r = none → ∀ c ∈ cs, ¬(P c ∧ Q c)))) := by
  induction cs generalizing w with
  | nil =>
    obtain ⟨rfl, rfl⟩ := pure_eq_some.1 h
    exact ⟨nofun, fun hlive => ⟨hlive, nofun, fun hhonest => ⟨hhonest, fun _ => nofun⟩⟩⟩
  | cons c cs ih =>
    obtain ⟨go, w1, hgo, h⟩ := bind_eq_some.1 h
    obtain ⟨hstop, hkept⟩ := hspend hgo
    cases go with
    | false =>
      obtain ⟨rfl, rfl⟩ := pure_eq_some.1 h
      exact ⟨nofun, fun hlive => absurd hlive (hstop rfl)⟩
    | true =>
      obtain ⟨ok, w2, hok, h⟩ := bind_eq_some.1 h
      obtain ⟨hP, hkept2⟩ := hcheck c hok
      -- The choices that are left once this one has failed.
      have hrest {w3 : W} (h : attempt spend check next cs w3 = some (r, w'))
          (hfailed : live w3 → live w1 ∧ (Honest failed Holds w1 → Honest failed Holds w3 ∧
            ¬(P c ∧ Q c))) :
          (r = some true → ∃ c' ∈ c :: cs, P c' ∧ Q c') ∧
            (live w' → live w ∧ r ≠ some false ∧ (Honest failed Holds w → Honest failed Holds w' ∧
              (r = none → ∀ c' ∈ c :: cs, ¬(P c' ∧ Q c')))) := by
        obtain ⟨hfound, hlive⟩ := ih h
        refine ⟨fun hr => ?_, fun hw' => ?_⟩
        · obtain ⟨c', hc', hholds⟩ := hfound hr
          exact ⟨c', List.mem_cons_of_mem _ hc', hholds⟩
        · obtain ⟨h3, hr, hhonest'⟩ := hlive hw'
          obtain ⟨h1, hnot⟩ := hfailed h3
          obtain ⟨h0, hhonest⟩ := hkept h1
          refine ⟨h0, hr, fun hw => ?_⟩
          obtain ⟨hw3, hc⟩ := hnot (hhonest hw)
          obtain ⟨hdone, hcs⟩ := hhonest' hw3
          exact ⟨hdone, fun hr => List.forall_mem_cons.2 ⟨hc, hcs hr⟩⟩
      cases ok with
      | false =>
        refine hrest h fun h2 => ?_
        obtain ⟨h1, hnot⟩ := hkept2 h2
        refine ⟨h1, fun hw => ?_⟩
        obtain ⟨hw2, hnP⟩ := hnot hw
        exact ⟨hw2, fun hboth => hnP rfl hboth.1⟩
      | true =>
        obtain ⟨found, w3, hfound, h⟩ := bind_eq_some.1 h
        obtain ⟨hQ, hkept3⟩ := hnext c hfound
        cases found with
        | false =>
          refine hrest h fun h3 => ?_
          obtain ⟨h2, hnot⟩ := hkept3 h3
          obtain ⟨h1, hhonest2⟩ := hkept2 h2
          refine ⟨h1, fun hw => ?_⟩
          obtain ⟨hw3, hnQ⟩ := hnot (hhonest2 hw).1
          exact ⟨hw3, fun hboth => hnQ rfl hboth.2⟩
        | true =>
          obtain ⟨rfl, rfl⟩ := pure_eq_some.1 h
          refine ⟨fun _ => ⟨c, List.mem_cons_self, hP rfl, hQ rfl⟩, fun hw' => ?_⟩
          obtain ⟨h2, hhonest3⟩ := hkept3 hw'
          obtain ⟨h1, hhonest2⟩ := hkept2 h2
          obtain ⟨h0, hhonest⟩ := hkept h1
          exact ⟨h0, nofun, fun hw => ⟨(hhonest3 (hhonest2 (hhonest hw)).1).1, nofun⟩⟩

/-- Writing down that the choices have failed hides nothing. -/
theorem tells_memoised [DecidableEq Key] {write : Key → W → W}
    (hwrite : ∀ k w, failed (write k w) = k :: failed w) (hlive : ∀ k w, live (write k w) ↔ live w)
    {key : Key} {x : Search W (Option Bool)}
    (hx : ∀ ⦃w r w'⦄, x w = some (r, w') →
      (r = some true → Holds key) ∧
        (live w' → live w ∧ r ≠ some false ∧ (Honest failed Holds w → Honest failed Holds w' ∧
          (r = none → ¬Holds key)))) :
    Tells live failed Holds (memoised failed write key x) (Holds key) := by
  intro w b w' h
  unfold memoised at h
  split at h
  · rename_i hknown
    cases h
    exact ⟨nofun, fun hw => ⟨hw, fun hhonest => ⟨hhonest, fun _ => hhonest key hknown⟩⟩⟩
  · split at h
    · cases h
    · rename_i found w2 hrun
      cases h
      obtain ⟨hfound, hkept⟩ := hx hrun
      refine ⟨fun hb => hfound (congrArg some hb), fun hw' => ?_⟩
      obtain ⟨hw, hnot, hhonest⟩ := hkept hw'
      exact ⟨hw, fun hold => ⟨(hhonest hold).1, fun hb => absurd (congrArg some hb) hnot⟩⟩
    · rename_i w2 hrun
      cases h
      obtain ⟨-, hkept⟩ := hx hrun
      refine ⟨nofun, fun hw' => ?_⟩
      obtain ⟨hw, -, hhonest⟩ := hkept ((hlive _ _).1 hw')
      refine ⟨hw, fun hold => ?_⟩
      obtain ⟨hw2, hnone⟩ := hhonest hold
      refine ⟨?_, fun _ => hnone rfl⟩
      unfold Honest
      rw [hwrite]
      exact List.forall_mem_cons.2 ⟨hnone rfl, hw2⟩

end

end AutomationTool.MemoSearch
