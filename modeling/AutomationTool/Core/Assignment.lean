import AutomationTool.Core.Failing

/-!
# Giving everyone something of their own

Everyone has a list of choices: things of which each can be given once, and free ones
(`none`) that take nothing from anybody. `assign` finds a thing for one more, moving those
who have one already where it must; a thing is looked at once in a search (`seen`), and
`fuel` is how far a search may go.

* `Augments`: what a search that succeeds changes.
* `assign_outcome`: a search either augments, or everything it saw has an owner whose
  choices it saw too.
* `assignAll_spec`: everyone gets something exactly when that can be.
-/
namespace AutomationTool.Assignment

variable {ι μ : Type} [DecidableEq μ]

structure Search (ι μ : Type) where
  owner : μ → Option ι
  seen : List μ

def give (owner : μ → Option ι) (m : μ) (i : ι) : μ → Option ι :=
  fun m' => if m' = m then some i else owner m'

section

variable (choices : ι → List (Option μ)) (blocked : List μ)

/-- The loop over the choices of `i`; `retry j` finds something else for `j`. -/
def scan (retry : ι → Search ι μ → Bool × Search ι μ) (i : ι) :
    List (Option μ) → Search ι μ → Bool × Search ι μ
  | [], s => (false, s)
  | none :: _, s => (true, s)
  | some m :: rest, s =>
    if m ∈ blocked ∨ m ∈ s.seen then scan retry i rest s
    else
      match s.owner m with
      | none => (true, ⟨give s.owner m i, m :: s.seen⟩)
      | some j =>
        match retry j ⟨s.owner, m :: s.seen⟩ with
        | (true, s') => (true, ⟨give s'.owner m i, s'.seen⟩)
        | (false, s') => scan retry i rest s'

def assign : Nat → ι → Search ι μ → Bool × Search ι μ
  | 0, _, s => (false, s)
  | fuel + 1, i, s => scan blocked (assign fuel) i (choices i) s

/-- Everyone in turn; `none` when somebody gets nothing. -/
def assignAll (fuel : Nat) : List ι → (μ → Option ι) → Option (μ → Option ι)
  | [], owner => some owner
  | i :: is, owner =>
    match assign choices blocked fuel i ⟨owner, []⟩ with
    | (true, s) => assignAll fuel is s.owner
    | (false, _) => none

/-- `f` gives everyone of `is` one of their choices, and nothing twice. -/
structure Assigns (is : List ι) (f : ι → Option μ) : Prop where
  choice : ∀ i ∈ is, f i ∈ choices i
  allowed : ∀ i ∈ is, ∀ m ∈ f i, m ∉ blocked
  apart : ∀ i ∈ is, ∀ j ∈ is, ∀ m, f i = some m → f j = some m → i = j

/-- A search for `i` that touches nothing of `avoid` turns the first owners into the second. -/
inductive Augments : ι → List μ → (μ → Option ι) → (μ → Option ι) → Prop
  | free {i : ι} {avoid : List μ} {owner : μ → Option ι} :
      none ∈ choices i → Augments i avoid owner owner
  | take {i : ι} {avoid : List μ} {owner : μ → Option ι} {m : μ} :
      some m ∈ choices i → m ∉ blocked → m ∉ avoid → owner m = none →
      Augments i avoid owner (give owner m i)
  | push {i j : ι} {avoid avoid' : List μ} {owner owner' : μ → Option ι} {m : μ} :
      some m ∈ choices i → m ∉ blocked → m ∉ avoid → owner m = some j →
      m ∈ avoid' → avoid ⊆ avoid' → Augments j avoid' owner owner' →
      Augments i avoid owner (give owner' m i)

/-- All the choices of `i` are blocked or seen. -/
def Stuck (i : ι) (seen : List μ) : Prop :=
  ∀ c ∈ choices i, ∃ m, c = some m ∧ (m ∈ blocked ∨ m ∈ seen)

/-- A search that found nothing: what it saw has owners, and they are stuck. -/
structure Fails (i : ι) (s s' : Search ι μ) : Prop where
  owner : s'.owner = s.owner
  seen : s.seen ⊆ s'.seen
  nodup : s'.seen.Nodup
  stuck : Stuck choices blocked i s'.seen
  owned : ∀ m ∈ s'.seen, m ∉ s.seen →
    ∃ j, s.owner m = some j ∧ Stuck choices blocked j s'.seen

def Outcome (i : ι) (s : Search ι μ) : Bool × Search ι μ → Prop
  | (true, s') => Augments choices blocked i s.seen s.owner s'.owner
  | (false, s') => Fails choices blocked i s s'

end

variable {choices : ι → List (Option μ)} {blocked : List μ} {i j : ι} {m : μ}
  {owner owner' : μ → Option ι} {avoid avoid' : List μ}

theorem give_same : give owner m i m = some i := if_pos rfl

theorem give_other {m' : μ} (h : m' ≠ m) : give owner m i m' = owner m' := if_neg h

theorem Augments.mono (h : Augments choices blocked i avoid' owner owner')
    (hsub : avoid ⊆ avoid') : Augments choices blocked i avoid owner owner' := by
  cases h with
  | free hc => exact .free hc
  | take hc hb ha ho => exact .take hc hb (fun hm => ha (hsub hm)) ho
  | push hc hb ha ho hm hsub' hrest =>
    exact .push hc hb (fun hm' => ha (hsub hm')) ho hm (fun _ hx => hsub' (hsub hx)) hrest

omit [DecidableEq μ] in
theorem Stuck.mono {seen seen' : List μ} (h : Stuck choices blocked i seen) (hsub : seen ⊆ seen') :
    Stuck choices blocked i seen' := by
  intro c hc
  obtain ⟨m, rfl, hblocked | hseen⟩ := h c hc
  · exact ⟨m, rfl, .inl hblocked⟩
  · exact ⟨m, rfl, .inr (hsub hseen)⟩

/-! ## What a search does -/

/-- How many of the things were not seen. -/
def unseen (things seen : List μ) : Nat := (things.toFinset \ seen.toFinset).card

theorem unseen_mono {things seen seen' : List μ} (h : seen ⊆ seen') :
    unseen things seen' ≤ unseen things seen := by
  refine Finset.card_le_card (Finset.sdiff_subset_sdiff (Finset.Subset.refl _) fun m hm => ?_)
  exact List.mem_toFinset.2 (h (List.mem_toFinset.1 hm))

theorem unseen_cons_lt {things seen : List μ} (hm : m ∈ things) (hs : m ∉ seen) :
    unseen things (m :: seen) < unseen things seen := by
  refine Finset.card_lt_card (Finset.ssubset_iff_of_subset ?_ |>.2 ⟨m, ?_, ?_⟩)
  · exact Finset.sdiff_subset_sdiff (Finset.Subset.refl _) fun x hx =>
      List.mem_toFinset.2 (List.mem_cons_of_mem _ (List.mem_toFinset.1 hx))
  · simp [hm, hs]
  · simp

theorem scan_outcome {things : List μ} (hthings : ∀ j m, some m ∈ choices j → m ∈ things)
    {fuel : Nat} {retry : ι → Search ι μ → Bool × Search ι μ}
    (hretry : ∀ j s, s.seen.Nodup → unseen things s.seen < fuel →
      Outcome choices blocked j s (retry j s))
    (rest : List (Option μ)) (s : Search ι μ) (hrest : rest ⊆ choices i)
    (hdone : ∀ c ∈ choices i, c ∈ rest ∨ ∃ m, c = some m ∧ (m ∈ blocked ∨ m ∈ s.seen))
    (hnodup : s.seen.Nodup) (hfuel : unseen things s.seen < fuel + 1) :
    Outcome choices blocked i s (scan blocked retry i rest s) := by
  induction rest generalizing s with
  | nil =>
    refine ⟨rfl, List.Subset.refl _, hnodup, fun c hc => ?_, fun m hm hnot => absurd hm hnot⟩
    rcases hdone c hc with hnil | hstuck
    · cases hnil
    · exact hstuck
  | cons c rest ih =>
    have hsub : rest ⊆ choices i := fun _ hc => hrest (List.mem_cons_of_mem _ hc)
    cases c with
    | none => exact .free (hrest List.mem_cons_self)
    | some m =>
      have hm := hrest (List.mem_cons_self (a := some m))
      rw [scan]
      by_cases hskip : m ∈ blocked ∨ m ∈ s.seen
      · rw [if_pos hskip]
        refine ih s hsub (fun c hc => ?_) hnodup hfuel
        rcases hdone c hc with hmem | hstuck
        · rcases List.mem_cons.1 hmem with rfl | hmem
          · exact .inr ⟨m, rfl, hskip⟩
          · exact .inl hmem
        · exact .inr hstuck
      · rw [if_neg hskip]
        obtain ⟨hblocked, hseen⟩ := not_or.1 hskip
        cases howner : s.owner m with
        | none => exact .take hm hblocked hseen howner
        | some j =>
          have hlt := unseen_cons_lt (hthings i m hm) hseen
          have hinner := hretry j ⟨s.owner, m :: s.seen⟩
            (List.nodup_cons.2 ⟨hseen, hnodup⟩) (Nat.lt_of_lt_of_le hlt (by omega))
          cases hrun : retry j ⟨s.owner, m :: s.seen⟩ with
          | mk moved s' =>
            simp only [hrun]
            rw [hrun] at hinner
            cases moved with
            | true =>
              exact .push hm hblocked hseen howner List.mem_cons_self
                (fun _ hx => List.mem_cons_of_mem _ hx) hinner
            | false =>
              obtain ⟨hsame, hgrown, hnodup', hstuck, howned⟩ := hinner
              have hall : s.seen ⊆ s'.seen := fun _ hx => hgrown (List.mem_cons_of_mem _ hx)
              have hmseen : m ∈ s'.seen := hgrown List.mem_cons_self
              have hlater := ih s' hsub (fun c hc => by
                rcases hdone c hc with hmem | ⟨m', rfl, hm'⟩
                · rcases List.mem_cons.1 hmem with rfl | hmem
                  · exact .inr ⟨m, rfl, .inr hmseen⟩
                  · exact .inl hmem
                · exact .inr ⟨m', rfl, hm'.imp_right fun hx => hall hx⟩) hnodup'
                (Nat.lt_of_le_of_lt (unseen_mono hall) hfuel)
              show Outcome choices blocked i s (scan blocked retry i rest s')
              cases hscan : scan blocked retry i rest s' with
              | mk found s'' =>
                rw [hscan] at hlater
                cases found with
                | true =>
                  show Augments choices blocked i s.seen s.owner s''.owner
                  have haug : Augments choices blocked i s'.seen s'.owner s''.owner := hlater
                  rw [show s'.owner = s.owner from hsame] at haug
                  exact haug.mono hall
                | false =>
                  obtain ⟨hsame', hgrown', hnodup'', hstuck', howned'⟩ := hlater
                  refine ⟨hsame'.trans hsame, fun _ hx => hgrown' (hall hx), hnodup'', hstuck',
                    fun x hx hnot => ?_⟩
                  by_cases hmid : x ∈ s'.seen
                  · by_cases hxm : x = m
                    · subst hxm
                      exact ⟨j, howner, hstuck.mono hgrown'⟩
                    · obtain ⟨k, hk, hkstuck⟩ := howned x hmid fun hmem => by
                        rcases List.mem_cons.1 hmem with heq | hmem
                        · exact hxm heq
                        · exact hnot hmem
                      exact ⟨k, hk, hkstuck.mono hgrown'⟩
                  · obtain ⟨k, hk, hkstuck⟩ := howned' x hx hmid
                    rw [show s'.owner = s.owner from hsame] at hk
                    exact ⟨k, hk, hkstuck⟩

/-- With fuel for everything unseen a search augments or fails for a reason. -/
theorem assign_outcome {things : List μ} (hthings : ∀ j m, some m ∈ choices j → m ∈ things)
    (fuel : Nat) (i : ι) (s : Search ι μ) (hnodup : s.seen.Nodup)
    (hfuel : unseen things s.seen < fuel) :
    Outcome choices blocked i s (assign choices blocked fuel i s) := by
  induction fuel generalizing i s with
  | zero => omega
  | succ fuel ih =>
    exact scan_outcome hthings (fun j s hs hlt => ih j s hs hlt) (choices i) s
      (List.Subset.refl _) (fun c hc => .inl hc) hnodup hfuel

/-! ## What a search that succeeds leaves -/

/-- Everything that is given is a choice of its owner. -/
def Valid (choices : ι → List (Option μ)) (blocked : List μ) (owner : μ → Option ι) : Prop :=
  ∀ m i, owner m = some i → some m ∈ choices i ∧ m ∉ blocked

/-- Nobody owns two things. -/
def Alone (owner : μ → Option ι) (i : ι) : Prop :=
  ∀ m m', owner m = some i → owner m' = some i → m = m'

def Covered (choices : ι → List (Option μ)) (owner : μ → Option ι) (i : ι) : Prop :=
  none ∈ choices i ∨ ∃ m, owner m = some i

/-- What is left when `i` got something outside `avoid`. -/
structure Left (choices : ι → List (Option μ)) (blocked : List μ) (i : ι) (avoid : List μ)
    (owner owner' : μ → Option ι) : Prop where
  kept : ∀ m ∈ avoid, owner' m = owner m
  valid : Valid choices blocked owner'
  alone : ∀ j, j ≠ i → Alone owner' j
  covered : ∀ j, j ≠ i → Covered choices owner j → Covered choices owner' j
  found : none ∈ choices i ∨ ∃ m, m ∉ avoid ∧ owner' m = some i
  one : ∀ m m', m ∉ avoid → m' ∉ avoid → owner' m = some i → owner' m' = some i → m = m'
  still : ∀ j, j ≠ i → (∀ m, owner m = some j → m ∈ avoid) →
    ∀ m, owner' m = some j ↔ owner m = some j
  owners : ∀ m j, owner' m = some j → j = i ∨ ∃ m', owner m' = some j

theorem give_eq_some {k : ι} {m' : μ} (h : give owner m i m' = some k) :
    m' = m ∧ i = k ∨ m' ≠ m ∧ owner m' = some k := by
  by_cases heq : m' = m
  · subst heq
    rw [give_same] at h
    exact .inl ⟨rfl, Option.some.inj h⟩
  · rw [give_other heq] at h
    exact .inr ⟨heq, h⟩

theorem Augments.left (h : Augments choices blocked i avoid owner owner')
    (hvalid : Valid choices blocked owner) (halone : ∀ j, Alone owner j)
    (hown : ∀ m, owner m = some i → m ∈ avoid) :
    Left choices blocked i avoid owner owner' := by
  induction h with
  | free hc =>
    exact ⟨fun _ _ => rfl, hvalid, fun j _ => halone j, fun _ _ h => h, .inl hc,
      fun m _ hm _ hmi => absurd (hown m hmi) hm, fun _ _ _ _ => Iff.rfl,
      fun m _ hm => .inr ⟨m, hm⟩⟩
  | @take i avoid owner m hc hb ha ho =>
    refine ⟨fun m' hm' => give_other fun heq => ha (heq ▸ hm'), ?_, ?_, ?_,
      .inr ⟨m, ha, give_same⟩, ?_, ?_, ?_⟩
    · intro m' k hk
      rcases give_eq_some hk with ⟨rfl, rfl⟩ | ⟨-, hk⟩
      · exact ⟨hc, hb⟩
      · exact hvalid m' k hk
    · intro j hj m₁ m₂ h₁ h₂
      rcases give_eq_some h₁ with ⟨-, heq⟩ | ⟨-, h₁⟩
      · exact absurd heq.symm hj
      · rcases give_eq_some h₂ with ⟨-, heq⟩ | ⟨-, h₂⟩
        · exact absurd heq.symm hj
        · exact halone j m₁ m₂ h₁ h₂
    · rintro j - (hfree | ⟨m', hm'⟩)
      · exact .inl hfree
      · refine .inr ⟨m', ?_⟩
        rw [give_other, hm']
        rintro rfl
        rw [ho] at hm'
        cases hm'
    · intro m₁ m₂ hm₁ hm₂ h₁ h₂
      rcases give_eq_some h₁ with ⟨rfl, -⟩ | ⟨-, h₁⟩
      · rcases give_eq_some h₂ with ⟨rfl, -⟩ | ⟨-, h₂⟩
        · rfl
        · exact absurd (hown m₂ h₂) hm₂
      · exact absurd (hown m₁ h₁) hm₁
    · intro j hj _ m'
      by_cases heq : m' = m
      · subst heq
        rw [give_same, ho]
        simp [Ne.symm hj]
      · rw [give_other heq]
    · intro m' k hk
      rcases give_eq_some hk with ⟨-, rfl⟩ | ⟨-, hk⟩
      · exact .inl rfl
      · exact .inr ⟨m', hk⟩
  | @push i j avoid avoid' owner owner' m hc hb ha ho hm hsub hrest ih =>
    have hji : j ≠ i := by
      rintro rfl
      exact ha (hown m ho)
    have hl := ih hvalid halone fun m' hm' => by
      rw [halone j m' m hm' ho]
      exact hm
    have hmj : owner' m = some j := (hl.kept m hm).trans ho
    have hi : ∀ m', owner' m' = some i ↔ owner m' = some i :=
      hl.still i hji.symm fun m' hm' => hsub (hown m' hm')
    refine ⟨?_, ?_, ?_, ?_, .inr ⟨m, ha, give_same⟩, ?_, ?_, ?_⟩
    · intro m' hm'
      rw [give_other, hl.kept m' (hsub hm')]
      rintro rfl
      exact ha hm'
    · intro m' k hk
      rcases give_eq_some hk with ⟨rfl, rfl⟩ | ⟨-, hk⟩
      · exact ⟨hc, hb⟩
      · exact hl.valid m' k hk
    · intro k hk m₁ m₂ h₁ h₂
      rcases give_eq_some h₁ with ⟨-, heq⟩ | ⟨hne₁, h₁⟩
      · exact absurd heq.symm hk
      rcases give_eq_some h₂ with ⟨-, heq⟩ | ⟨hne₂, h₂⟩
      · exact absurd heq.symm hk
      by_cases hkj : k = j
      · -- what `j` has now is new: of what was seen it only had `m`
        subst hkj
        have hnew : ∀ m', m' ≠ m → owner' m' = some k → m' ∉ avoid' := by
          intro m' hne hm' hmem
          rw [hl.kept m' hmem] at hm'
          exact hne (halone k m' m hm' ho)
        exact hl.one m₁ m₂ (hnew m₁ hne₁ h₁) (hnew m₂ hne₂ h₂) h₁ h₂
      · exact hl.alone k hkj m₁ m₂ h₁ h₂
    · intro k hk hcovered
      by_cases hkj : k = j
      · subst hkj
        rcases hl.found with hfree | ⟨m', hm', hmk⟩
        · exact .inl hfree
        · refine .inr ⟨m', ?_⟩
          rw [give_other, hmk]
          rintro rfl
          exact hm' hm
      · rcases hl.covered k hkj hcovered with hfree | ⟨m', hmk⟩
        · exact .inl hfree
        · refine .inr ⟨m', ?_⟩
          rw [give_other, hmk]
          rintro rfl
          rw [hmj] at hmk
          exact hkj (Option.some.inj hmk).symm
    · intro m₁ m₂ hm₁ hm₂ h₁ h₂
      rcases give_eq_some h₁ with ⟨rfl, -⟩ | ⟨-, h₁⟩
      · rcases give_eq_some h₂ with ⟨rfl, -⟩ | ⟨-, h₂⟩
        · rfl
        · exact absurd (hown m₂ ((hi m₂).1 h₂)) hm₂
      · exact absurd (hown m₁ ((hi m₁).1 h₁)) hm₁
    · intro k hk hkown m'
      have hkj : k ≠ j := by
        rintro rfl
        exact ha (hkown m ho)
      by_cases heq : m' = m
      · subst heq
        rw [give_same, ho]
        simp [Ne.symm hk, Ne.symm hkj]
      · rw [give_other heq]
        exact hl.still k hkj (fun m'' hm'' => hsub (hkown m'' hm'')) m'
    · intro m' k hk
      rcases give_eq_some hk with ⟨-, rfl⟩ | ⟨-, hk⟩
      · exact .inl rfl
      · rcases hl.owners m' k hk with rfl | hbefore
        · exact .inr ⟨m, ho⟩
        · exact .inr hbefore

/-! ## Everyone in turn -/

/-- Those of `done` all have something, and nobody else. -/
structure Served (choices : ι → List (Option μ)) (blocked : List μ) (done : List ι)
    (owner : μ → Option ι) : Prop where
  valid : Valid choices blocked owner
  alone : ∀ j, Alone owner j
  covered : ∀ j ∈ done, Covered choices owner j
  owners : ∀ m j, owner m = some j → j ∈ done

omit [DecidableEq μ] in
theorem served_nil : Served choices blocked [] fun _ => none where
  valid := nofun
  alone := fun _ _ _ h => nomatch h
  covered := nofun
  owners := nofun

theorem Served.next {done : List ι} (h : Served choices blocked done owner) (hi : i ∉ done)
    (haug : Augments choices blocked i [] owner owner') :
    Served choices blocked (i :: done) owner' := by
  have hl := haug.left h.valid h.alone fun m hm => absurd (h.owners m i hm) hi
  refine ⟨hl.valid, fun j => ?_, fun j hj => ?_, fun m j hm => ?_⟩
  · by_cases hji : j = i
    · subst hji
      exact fun m m' => hl.one m m' List.not_mem_nil List.not_mem_nil
    · exact hl.alone j hji
  · by_cases hji : j = i
    · subst hji
      rcases hl.found with hfree | ⟨m, -, hm⟩
      · exact .inl hfree
      · exact .inr ⟨m, hm⟩
    · exact hl.covered j hji (h.covered j ((List.mem_cons.1 hj).resolve_left hji))
  · rcases hl.owners m j hm with rfl | ⟨m', hm'⟩
    · exact List.mem_cons_self
    · exact List.mem_cons_of_mem _ (h.owners m' j hm')

omit [DecidableEq μ] in
theorem Served.assigns {done : List ι} (h : Served choices blocked done owner) :
    ∃ f, Assigns choices blocked done f := by
  have hall : ∀ i, ∃ c : Option μ, i ∈ done → c ∈ choices i ∧ ∀ m ∈ c, owner m = some i := by
    intro i
    by_cases hi : i ∈ done
    · rcases h.covered i hi with hfree | ⟨m, hm⟩
      · exact ⟨none, fun _ => ⟨hfree, nofun⟩⟩
      · exact ⟨some m, fun _ => ⟨(h.valid m i hm).1, by rintro _ ⟨⟩; exact hm⟩⟩
    · exact ⟨none, fun hmem => absurd hmem hi⟩
  choose f hf using hall
  refine ⟨f, fun i hi => (hf i hi).1, fun i hi m hm => ?_, fun i hi j hj m hfi hfj => ?_⟩
  · exact (h.valid m i ((hf i hi).2 m hm)).2
  · have hown := (hf i hi).2 m hfi
    rw [(hf j hj).2 m hfj] at hown
    exact (Option.some.inj hown).symm

omit [DecidableEq μ] in
theorem owners_nodup {ms : List μ} {js : List ι} (halone : ∀ j, Alone owner j)
    (h : List.Forall₂ (fun m j => owner m = some j) ms js) (hms : ms.Nodup) : js.Nodup := by
  induction h with
  | nil => exact List.nodup_nil
  | @cons m j ms js hm hrest ih =>
    obtain ⟨hnot, hms⟩ := List.nodup_cons.1 hms
    refine List.nodup_cons.2 ⟨fun hj => ?_, ih hms⟩
    obtain ⟨m', hm', howner⟩ := forall₂_mem_right hrest hj
    rw [← halone j m m' hm howner] at hm'
    exact hnot hm'

omit [DecidableEq μ] in
/-- Where a search fails there is not enough for those who are stuck. -/
theorem Fails.not_assigns {done is : List ι} {s' : Search ι μ}
    (hfails : Fails choices blocked i ⟨owner, []⟩ s') (h : Served choices blocked done owner)
    (hi : i ∉ done) (hsub : i :: done ⊆ is) (f : ι → Option μ) :
    ¬Assigns choices blocked is f := by
  intro hf
  -- whoever is stuck needs something that was seen
  have hneeds : ∀ j ∈ is, Stuck choices blocked j s'.seen → ∃ m ∈ s'.seen, f j = some m := by
    intro j hj hstuck
    obtain ⟨m, hm, hblocked | hseen⟩ := hstuck (f j) (hf.choice j hj)
    · exact absurd hblocked (hf.allowed j hj m hm)
    · exact ⟨m, hseen, hm⟩
  obtain ⟨js, hjs⟩ := exists_forall₂ (R := fun m j => owner m = some j ∧
    Stuck choices blocked j s'.seen) fun m hm => hfails.owned m hm List.not_mem_nil
  have hnodup : (i :: js).Nodup := by
    refine List.nodup_cons.2 ⟨fun hmem => ?_,
      owners_nodup h.alone (hjs.imp fun _ _ hm => hm.1) hfails.nodup⟩
    obtain ⟨m, -, hm, -⟩ := forall₂_mem_right hjs hmem
    exact hi (h.owners m i hm)
  have hstuck : ∀ j ∈ i :: js, j ∈ is ∧ ∃ m ∈ s'.seen, f j = some m := by
    intro j hj
    rcases List.mem_cons.1 hj with rfl | hj
    · have hmem := hsub List.mem_cons_self
      exact ⟨hmem, hneeds _ hmem hfails.stuck⟩
    · obtain ⟨m, -, hm, hstuck⟩ := forall₂_mem_right hjs hj
      have hmem := hsub (List.mem_cons_of_mem _ (h.owners m j hm))
      exact ⟨hmem, hneeds j hmem hstuck⟩
  have hmap : ((i :: js).map f).Nodup := by
    refine List.Nodup.map_on (fun a ha b hb hab => ?_) hnodup
    obtain ⟨hais, m, -, hm⟩ := hstuck a ha
    exact hf.apart a hais b (hstuck b hb).1 m hm (hab ▸ hm)
  have hsubset : (i :: js).map f ⊆ s'.seen.map some := by
    intro c hc
    obtain ⟨j, hj, rfl⟩ := List.mem_map.1 hc
    obtain ⟨-, m, hm, heq⟩ := hstuck j hj
    rw [heq]
    exact List.mem_map_of_mem hm
  have hle := (List.subperm_of_subset hmap hsubset).length_le
  have hlength := hjs.length_eq
  simp only [List.length_map, List.length_cons] at hle
  omega

/-- Everyone gets something exactly when that can be. -/
theorem assignAll_spec {things : List μ} (hthings : ∀ j m, some m ∈ choices j → m ∈ things)
    {fuel : Nat} (hfuel : things.length < fuel) {done is all : List ι}
    (hdone : Served choices blocked done owner) (hall : all.Perm (is ++ done)) (hnodup : all.Nodup) :
    (assignAll choices blocked fuel is owner).isSome = true ↔
      ∃ f, Assigns choices blocked all f := by
  induction is generalizing owner done with
  | nil =>
    have hassigns := hdone.assigns
    simp only [assignAll, Option.isSome_some, true_iff]
    obtain ⟨f, hf⟩ := hassigns
    rw [List.nil_append] at hall
    exact ⟨f, fun i hi => hf.choice i (hall.mem_iff.1 hi),
      fun i hi => hf.allowed i (hall.mem_iff.1 hi),
      fun i hi j hj => hf.apart i (hall.mem_iff.1 hi) j (hall.mem_iff.1 hj)⟩
  | cons i is ih =>
    have hi : i ∉ done := by
      have hsplit := hall.nodup_iff.1 hnodup
      rw [List.cons_append, List.nodup_cons] at hsplit
      exact fun hmem => hsplit.1 (List.mem_append_right _ hmem)
    have hunseen : unseen things [] < fuel := by
      refine Nat.lt_of_le_of_lt ?_ hfuel
      unfold unseen
      rw [List.toFinset_nil, Finset.sdiff_empty]
      exact List.toFinset_card_le things
    have hout : Outcome choices blocked i ⟨owner, []⟩
        (assign choices blocked fuel i ⟨owner, []⟩) :=
      assign_outcome hthings fuel i ⟨owner, []⟩ List.nodup_nil hunseen
    rw [assignAll]
    cases hrun : assign choices blocked fuel i ⟨owner, []⟩ with
    | mk found s' =>
      rw [hrun] at hout
      cases found with
      | true =>
        exact ih (hdone.next hi hout) (hall.trans List.perm_middle.symm)
      | false =>
        simp only [Option.isSome_none, Bool.false_eq_true, false_iff]
        rintro ⟨f, hf⟩
        refine Fails.not_assigns hout hdone hi (fun j hj => hall.mem_iff.2 ?_) f hf
        rcases List.mem_cons.1 hj with rfl | hj
        · exact List.mem_cons_self
        · exact List.mem_append_right _ hj

end AutomationTool.Assignment
