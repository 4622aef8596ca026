import AutomationTool.Executor.Skills.SkillReplayer

/-!
# What a replay leaves behind

The walk of `replaySkill` over the steps keeps `Stage`: the record is one of
the steps walked so far, no exception has passed, and the variable `dispatched`
says whether an external action has been attempted. So a failure the replay
raises by itself (`Owned`) says the truth about that; the other way out is an
exception that passes through (`Escaped`), which says nothing.
-/
namespace AutomationTool.Executor.Skills

variable {η : Type}

section

variable (skill : AutomationSkill) (hook : Option (Hook η))

/-- What the replay knows after the steps `done`. -/
structure Stage (done : List SkillStep) (p : Progress) (L : Transcript η) : Prop where
  conduct : Conduct skill hook done L
  whole : Whole L
  dispatched : p.dispatched = true ↔ Attempted L
  counted : p.externalPerformed = done.countP (·.external)
  checkpoint : p.lastCheckpoint ∈ 0 :: skill.stepIndexes

/-- A failure of the replay's own. -/
structure Owned (e : Raised) (L : Transcript η) : Prop where
  whole : Whole L
  failure : ∃ f, e = .replayFailed f ∧ (f.dispatched = true ↔ Attempted L) ∧
    f.checkpointIndex ∈ 0 :: skill.stepIndexes

/-- The last call raised, and nobody caught it. -/
def Escaped (e : Raised) (L : Transcript η) : Prop :=
  ∃ L' c, L = L' ++ [c] ∧ Whole L' ∧ c.escapes = some e

/-- How a replay that raised ends. -/
def Broken (e : Raised) (L : Transcript η) : Prop :=
  ∃ done, done <+: skill.steps ∧ Closed skill hook done L ∧ (Owned skill e L ∨ Escaped e L)

end

variable {skill : AutomationSkill} {hook : Option (Hook η)} {done : List SkillStep} {p : Progress}
  {page : ReplayPage η}

/-! ## Records -/

namespace Conduct

variable {L : Transcript η}

theorem performed (h : Conduct skill hook done L) : performedSteps L = done := by
  unfold performedSteps
  induction h with
  | start => rfl
  | look _ hc ih => simp [ih, Call.quiet_performed hc]
  | inner _ _ ih => simp [ih, Call.performed]
  | unannounced _ _ _ _ ih => simp [ih, Call.performed]
  | announced _ _ _ ih => simp [ih, List.filterMap_cons, Call.performed]

theorem bounded (h : Conduct skill hook done L) :
    done.countP (·.external) ≤ skill.maxExternalSteps := by
  induction h with
  | start => exact Nat.zero_le _
  | look _ _ ih => exact ih
  | inner _ hs ih => simpa [hs] using ih
  | unannounced _ hs hlt _ _ => simpa [hs] using Nat.succ_le_of_lt hlt
  | announced _ hs hlt _ => simpa [hs] using Nat.succ_le_of_lt hlt

/-- As many calls of the hook as external actions. -/
theorem hooks (h : Conduct skill hook done L) (hh : hook.isSome) :
    L.countP Call.isHook = L.countP Call.dispatches := by
  induction h with
  | start => rfl
  | look _ hc ih => simp [ih, Call.quiet_isHook hc, Call.dispatches, Call.quiet_performed hc]
  | inner _ hs ih => simp [ih, Call.isHook, Call.dispatches, Call.performed, hs]
  | unannounced _ _ _ hnone _ => simp [hnone] at hh
  | announced _ hs _ ih =>
    simp [ih, List.countP_cons, Call.isHook, Call.dispatches, Call.performed, hs]

/-- Each external action comes right after a call of the hook, which is its own. -/
theorem each_announced (h : Conduct skill hook done L) (hh : hook.isSome) {before : Transcript η}
    {c : Call η} (hc : before ++ [c] <+: L) (hd : c.dispatches = true) :
    (∃ earlier, before = earlier ++ [.hook (.ok ())]) ∧
      before.countP Call.isHook = before.countP Call.dispatches + 1 := by
  induction h with
  | start => simp at hc
  | look _ hq ih =>
    rcases List.prefix_concat_iff.1 hc with heq | hpre
    · obtain ⟨-, rfl⟩ := List.append_singleton_inj.1 heq
      simp [Call.dispatches, Call.quiet_performed hq] at hd
    · exact ih hpre
  | inner _ hs ih =>
    rcases List.prefix_concat_iff.1 hc with heq | hpre
    · obtain ⟨-, rfl⟩ := List.append_singleton_inj.1 heq
      simp [Call.dispatches, Call.performed, hs] at hd
    · exact ih hpre
  | unannounced _ _ _ hnone _ => simp [hnone] at hh
  | announced h _ _ ih =>
    rcases List.prefix_concat_iff.1 hc with heq | hpre
    · obtain ⟨rfl, rfl⟩ := List.append_singleton_inj.1 heq
      exact ⟨⟨_, rfl⟩, by simp [h.hooks hh, Call.isHook, Call.dispatches, Call.performed]⟩
    · rcases List.prefix_concat_iff.1 hpre with heq | hpre
      · obtain ⟨-, rfl⟩ := List.append_singleton_inj.1 heq
        simp [Call.dispatches, Call.performed] at hd
      · exact ih hpre

end Conduct

namespace Closed

variable {L : Transcript η}

theorem performed (h : Closed skill hook done L) : performedSteps L = done := by
  cases h with
  | conduct h => exact h.performed
  | refused h =>
    rw [← h.performed]
    simp [performedSteps, Call.performed]

theorem bounded (h : Closed skill hook done L) :
    done.countP (·.external) ≤ skill.maxExternalSteps := by
  cases h with
  | conduct h => exact h.bounded
  | refused h => exact h.bounded

theorem each_announced (h : Closed skill hook done L) (hh : hook.isSome) {before : Transcript η}
    {c : Call η} (hc : before ++ [c] <+: L) (hd : c.dispatches = true) :
    (∃ earlier, before = earlier ++ [.hook (.ok ())]) ∧
      before.countP Call.isHook = before.countP Call.dispatches + 1 := by
  cases h with
  | conduct h => exact h.each_announced hh hc hd
  | refused h =>
    rcases List.prefix_concat_iff.1 hc with heq | hpre
    · obtain ⟨-, rfl⟩ := List.append_singleton_inj.1 heq
      simp [Call.dispatches, Call.performed] at hd
    · exact h.each_announced hh hpre hd

end Closed

/-! ## The walk -/

theorem start_stage : Stage skill hook [] {} [] where
  conduct := .start
  whole := by simp [Whole]
  dispatched := by simp [Attempted]
  counted := rfl
  checkpoint := List.mem_cons_self

/-- Looking at the page changes nothing. -/
theorem Stage.look {L : Transcript η} {c : Call η} (h : Stage skill hook done p L)
    (hc : c.quiet = true) (he : c.escapes = none) : Stage skill hook done p (L ++ [c]) where
  conduct := h.conduct.look hc
  whole := whole_snoc.2 ⟨h.whole, he⟩
  dispatched := by
    rw [attempted_snoc, h.dispatched, Call.dispatches, Call.quiet_performed hc]
    simp
  counted := h.counted
  checkpoint := h.checkpoint

theorem Stage.at_step {L : Transcript η} {s : SkillStep} (h : Stage skill hook done p L)
    (hs : s ∈ skill.steps) :
    Stage skill hook done { p with
      currentIndex := s.index
      lastCheckpoint := if s.checkpoint then s.index else p.lastCheckpoint } L where
  conduct := h.conduct
  whole := h.whole
  dispatched := h.dispatched
  counted := h.counted
  checkpoint := by
    show (if s.checkpoint then s.index else p.lastCheckpoint) ∈ _
    split
    · exact List.mem_cons_of_mem _ (List.mem_map_of_mem hs)
    · exact h.checkpoint

theorem fail_spec {α : Type} {Q : α → Transcript η → Prop} {message : String}
    (hdone : done <+: skill.steps) :
    Talk.Spec (Stage skill hook done p) (fail p message) Q (Broken skill hook) := by
  apply Talk.spec_raise
  intro L h
  exact ⟨done, hdone, .conduct h.conduct, .inl ⟨h.whole, _, rfl, h.dispatched, h.checkpoint⟩⟩

/-- Every call of the page that only looks. -/
theorem look_spec {α : Type} {answer : Transcript η → Except Raised α}
    {entry : Except Raised α → Call η} (hdone : done <+: skill.steps)
    (hq : ∀ r, (entry r).quiet = true) (hok : ∀ a, (entry (.ok a)).escapes = none)
    (herr : ∀ e, (entry (.error e)).escapes = some e) :
    Talk.Spec (Stage skill hook done p) (.ask answer entry) (fun _ => Stage skill hook done p)
      (Broken skill hook) := by
  apply Talk.spec_ask
  · intro L a h _
    exact h.look (hq _) (hok a)
  · intro L e h _
    exact ⟨done, hdone, .conduct (h.conduct.look (hq _)), .inr ⟨L, _, rfl, h.whole, herr e⟩⟩

theorem conditionHolds_spec {c : SkillCondition} (hdone : done <+: skill.steps) :
    Talk.Spec (Stage skill hook done p) (conditionHolds page c) (fun _ => Stage skill hook done p)
      (Broken skill hook) :=
  look_spec hdone (fun _ => rfl) (fun _ => rfl) fun _ => rfl

theorem checkConditions_spec {message : String} (cs : List SkillCondition)
    (hdone : done <+: skill.steps) :
    Talk.Spec (Stage skill hook done p) (checkConditions page p message cs)
      (fun _ => Stage skill hook done p) (Broken skill hook) := by
  induction cs with
  | nil => exact Talk.spec_pure fun _ h => h
  | cons c cs ih =>
    refine Talk.spec_bind (conditionHolds_spec hdone) fun holds => ?_
    cases holds with
    | true => exact ih
    | false => exact fail_spec hdone

theorem preflight_spec {parameters : String → Option String} (steps : List SkillStep)
    (hdone : done <+: skill.steps) :
    Talk.Spec (Stage skill hook done p) (preflight parameters p steps)
      (fun _ => Stage skill hook done p) (Broken skill hook) := by
  induction steps with
  | nil => exact Talk.spec_pure fun _ h => h
  | cons s steps ih =>
    unfold preflight
    split
    · exact fail_spec hdone
    · exact ih

theorem actionPayload_spec {parameters : String → Option String} {s : SkillStep}
    (hdone : done <+: skill.steps) :
    Talk.Spec (Stage skill hook done p) (actionPayload parameters p s)
      (fun _ => Stage skill hook done p) (Broken skill hook) := by
  unfold actionPayload
  split
  · split
    · exact fail_spec hdone
    · exact Talk.spec_pure fun _ h => h
  all_goals exact Talk.spec_pure fun _ h => h

/-- The record between the announcement of `s` and its action: `p` is what holds once the
action has been attempted. -/
structure Announced (skill : AutomationSkill) (hook : Option (Hook η)) (done : List SkillStep)
    (s : SkillStep) (p : Progress) (L : Transcript η) : Prop where
  acted : ∀ handle value answer,
    Conduct skill hook (done ++ [s]) (L ++ [.act s handle value answer])
  whole : Whole L
  dispatched : p.dispatched = true ↔ Attempted L ∨ s.external = true
  counted : p.externalPerformed = (done ++ [s]).countP (·.external)
  checkpoint : p.lastCheckpoint ∈ 0 :: skill.stepIndexes

theorem announce_spec {s : SkillStep} (hdone : done <+: skill.steps) :
    Talk.Spec (Stage skill hook done p) (announce skill hook p s)
      (Announced skill hook done s) (Broken skill hook) := by
  unfold announce
  cases hs : s.external with
  | false =>
    refine Talk.spec_pure fun L h => ⟨fun _ _ _ => h.conduct.inner hs, h.whole, ?_, ?_,
      h.checkpoint⟩
    · simp [h.dispatched, hs]
    · simp [h.counted, hs]
  | true =>
    simp only [if_true]
    split
    · -- the count is one ahead of the record here, which no failure reads
      exact Talk.spec_raise fun L h =>
        ⟨done, hdone, .conduct h.conduct, .inl ⟨h.whole, _, rfl, h.dispatched, h.checkpoint⟩⟩
    · rename_i hle
      have hcount : ∀ {L : Transcript η}, Stage skill hook done p L →
          done.countP (·.external) < skill.maxExternalSteps := by
        intro L h
        have := h.counted
        omega
      cases hook with
      | none =>
        refine Talk.spec_bind (Q := fun _ => Stage skill none done p)
          (Talk.spec_pure fun _ h => h) fun _ => Talk.spec_pure fun L h =>
          ⟨fun _ _ _ => h.conduct.unannounced hs (hcount h) rfl, h.whole, ?_, ?_, h.checkpoint⟩
        · simp [hs]
        · simp [h.counted, hs]
      | some onExternalDispatch =>
        refine Talk.spec_bind
          (Q := fun _ L => ∃ L', L = L' ++ [.hook (.ok ())] ∧
            Stage skill (some onExternalDispatch) done p L')
          (Talk.spec_ask ?_ ?_) fun _ => Talk.spec_pure ?_
        · intro L _ h _
          exact ⟨L, rfl, h⟩
        · intro L e h _
          exact ⟨done, hdone, .refused h.conduct, .inr ⟨L, _, rfl, h.whole, rfl⟩⟩
        · rintro _ ⟨L, rfl, h⟩
          refine ⟨fun _ _ _ => h.conduct.announced hs (hcount h), whole_snoc.2 ⟨h.whole, rfl⟩,
            ?_, ?_, h.checkpoint⟩
          · simp [hs]
          · simp [h.counted, hs]

theorem perform_spec {s : SkillStep} {handle : η} {value : Option String}
    (hdone : done ++ [s] <+: skill.steps) :
    Talk.Spec (Announced skill hook done s p) (perform page p s handle value)
      (fun _ => Stage skill hook (done ++ [s]) p) (Broken skill hook) := by
  have hact : ∀ {L : Transcript η} {answer : Except Raised Unit},
      (Call.act s handle value answer).escapes = none → Announced skill hook done s p L →
      Stage skill hook (done ++ [s]) p (L ++ [.act s handle value answer]) := by
    intro L answer he h
    refine ⟨h.acted handle value answer, whole_snoc.2 ⟨h.whole, he⟩, ?_, h.counted, h.checkpoint⟩
    rw [attempted_snoc, h.dispatched]
    rfl
  apply Talk.spec_rescue (S := fun e L => ∃ L', L = L' ++ [.act s handle value (.error e)] ∧
    Announced skill hook done s p L')
  · apply Talk.spec_ask
    · intro L _ h _
      exact hact rfl h
    · intro L e h _
      exact ⟨L, rfl, h⟩
  · intro e
    cases he : e.isException with
    | true =>
      refine (fail_spec hdone).mono ?_ (fun _ _ h => h) fun _ _ h => h
      rintro _ ⟨L, rfl, h⟩
      exact hact (by simp [Call.escapes, he]) h
    | false =>
      apply Talk.spec_raise
      rintro _ ⟨L, rfl, h⟩
      exact ⟨_, hdone, .conduct (h.acted _ _ _), .inr ⟨L, _, rfl, h.whole, by
        simp [Call.escapes, he]⟩⟩

/-- **A step** of the loop performs its own step, or breaks off. -/
theorem replayStep_spec {parameters : String → Option String} {s : SkillStep}
    (hdone : done ++ [s] <+: skill.steps) :
    Talk.Spec (Stage skill hook done p) (replayStep skill page parameters hook p s)
      (Stage skill hook (done ++ [s])) (Broken skill hook) := by
  have hbefore : done <+: skill.steps := (List.prefix_append done [s]).trans hdone
  have hmem : s ∈ skill.steps := hdone.subset (by simp)
  refine Talk.Spec.mono (P := Stage skill hook done _) ?_ (fun L h => h.at_step hmem)
    (fun _ _ h => h) fun _ _ h => h
  refine Talk.spec_bind (actionPayload_spec hbefore) fun value => ?_
  refine Talk.spec_bind (checkConditions_spec _ hbefore) fun _ => ?_
  refine Talk.spec_bind
    (look_spec hbefore (fun _ => rfl) (fun _ => rfl) fun _ => rfl) fun found => ?_
  cases found with
  | none => exact fail_spec hbefore
  | some handle =>
    refine Talk.spec_bind (announce_spec hbefore) fun p' => ?_
    refine Talk.spec_bind (perform_spec hdone) fun _ => ?_
    refine Talk.spec_bind (checkConditions_spec _ hdone) fun _ => ?_
    exact Talk.spec_pure fun _ h => h

theorem elementsVisible_spec (evidences : List SkillEvidence) (hdone : done <+: skill.steps) :
    Talk.Spec (Stage skill hook done p) (elementsVisible page evidences)
      (fun _ => Stage skill hook done p) (Broken skill hook) := by
  induction evidences with
  | nil => exact Talk.spec_pure fun _ h => h
  | cons evidence rest ih =>
    unfold elementsVisible
    split
    · refine Talk.spec_bind (conditionHolds_spec hdone) fun holds => ?_
      cases holds with
      | true => exact ih
      | false => exact Talk.spec_pure fun _ h => h
    · exact ih

theorem successEvidenceHolds_spec (hdone : done <+: skill.steps) :
    Talk.Spec (Stage skill hook done p) (successEvidenceHolds skill page)
      (fun _ => Stage skill hook done p) (Broken skill hook) := by
  unfold successEvidenceHolds
  dsimp only
  split
  · exact elementsVisible_spec _ hdone
  · refine Talk.spec_bind (look_spec hdone (fun _ => rfl) (fun _ => rfl) fun _ => rfl)
      fun path => ?_
    split
    · exact elementsVisible_spec _ hdone
    · exact Talk.spec_pure fun _ h => h

/-- **A whole replay**: the record is one of all the steps, or the replay broke off. -/
theorem replaySkill_spec {parameters : String → Option String} :
    Talk.Spec (· = []) (replaySkill skill page parameters hook)
      (fun _ L => Conduct skill hook skill.steps L ∧ Whole L) (Broken skill hook) := by
  unfold replaySkill
  split
  · refine Talk.spec_raise fun L hL => ?_
    subst hL
    have h : Stage skill hook [] {} [] := start_stage
    exact ⟨[], List.nil_prefix, .conduct .start, .inl ⟨h.whole, _, rfl, h.dispatched,
      List.mem_cons_self⟩⟩
  · refine Talk.Spec.mono (P := Stage skill hook [] {}) ?_ (fun L hL => hL ▸ start_stage)
      (fun _ _ h => h) fun _ _ h => h
    refine Talk.spec_bind (preflight_spec _ List.nil_prefix) fun _ => ?_
    refine Talk.spec_bind (Talk.spec_foldlM (I := Stage skill hook) ?_ {}) fun p => ?_
    · intro done s rest p hsteps
      exact replayStep_spec ⟨rest, by simp [hsteps]⟩
    refine Talk.spec_bind (successEvidenceHolds_spec (List.prefix_refl _)) fun holds => ?_
    cases holds with
    | true => exact Talk.spec_pure fun L h => ⟨h.conduct, h.whole⟩
    | false => exact fail_spec (List.prefix_refl _)

end AutomationTool.Executor.Skills
