import AutomationTool.Executor.ScriptAlignment

/-!
# What the search for the cuts of a transcript finds

`IsSplit` says what a cut has to be, without a window, an order, a memory or a budget.

* `length_bounds`: a slice that proves its sentence is as long as the windows allow.
* `completes_iff`: so a cut can be gone on with if and only if that can be done with one of the
  candidate ends; whether it can depends on the last three ends only.
* `sentencesAlign_exact`: the search finds a cut only if there is one, and finds one whenever
  there is and no budget is exhausted.
-/
namespace AutomationTool.Executor.ScriptAlignment

open MemoSearch

variable {α : Type} [DecidableEq α]

/-! ## What is to be found -/

/-- `_slice_proves_sentence`, without a budget. -/
def ProvesSentence (sentences : List (List α)) (sentenceIndex : Nat) (actual : List α) : Prop :=
  Yields (sliceProvesSentence unlimited sentences sentenceIndex actual) true

/-- `_slice_preserves_adjacent_boundaries`, without a budget. -/
def PreservesBoundaries (sentences : List (List α)) (sentenceIndex : Nat)
    (previousActual actual followingActual : List α) : Prop :=
  Yields (slicePreservesAdjacentBoundaries unlimited sentences sentenceIndex previousActual actual
    followingActual) true

/-- The slices are one for every sentence, each of which proves it, and those in the middle
preserve the boundaries of their neighbours. -/
structure IsSplit (sentences : List (List α)) (transcript : List α) (slices : List (List α)) :
    Prop where
  flatten : slices.flatten = transcript
  length : slices.length = sentences.length
  proves : ∀ i s, slices[i]? = some s → ProvesSentence sentences i s
  preserves : ∀ i a b c, slices[i]? = some a → slices[i + 1]? = some b → slices[i + 2]? = some c →
    PreservesBoundaries sentences (i + 1) a b c

/-- The whole texts are near each other. -/
def TextsAlign (sentences : List (List α)) (transcript : List α) : Prop :=
  ∃ distance, Yields (alignmentDistance unlimited sentences.flatten transcript none) (some distance)

/-! ## Budgets do not change what is found -/

/-- What only the search itself writes. -/
def Work.kept (w : Work) : List (Nat × List Nat) × Bool := (w.failedStates, w.stopped)

variable {limits : Limits}

theorem spends_consumeDistanceDpCells (required : Nat) :
    Spends Work.kept (consumeDistanceDpCells limits required)
      (consumeDistanceDpCells unlimited required) := by
  intro w b w' h
  unfold consumeDistanceDpCells at h
  split at h
  · cases h
  · rename_i hroom
    cases h
    refine ⟨rfl, fun v => ⟨_, if_neg ?_⟩⟩
    rintro (hsmall | hspent)
    · exact hroom (.inl hsmall)
    · cases hspent

theorem spends_consumeAdjacentDpCells (required : Nat) :
    Spends Work.kept (consumeAdjacentDpCells limits required)
      (consumeAdjacentDpCells unlimited required) := by
  intro w b w' h
  unfold consumeAdjacentDpCells at h
  split at h
  · cases h
  · rename_i hroom
    cases h
    refine ⟨rfl, fun v => ⟨_, if_neg ?_⟩⟩
    rintro (hsmall | hspent)
    · exact hroom (.inl hsmall)
    · cases hspent

theorem spends_alignmentDistance (scriptText transcript : List α) (maximumDistance : Option Nat) :
    Spends Work.kept (alignmentDistance limits scriptText transcript maximumDistance)
      (alignmentDistance unlimited scriptText transcript maximumDistance) := by
  unfold alignmentDistance
  refine .ite (.pure _) (.ite (.pure _) (.ite (.pure _) (.ite (.pure _) ?_)))
  exact .bind (spends_consumeDistanceDpCells _) fun _ => .pure _

theorem spends_provesAgainst (expected actual : List α) (expectedDistance : Nat)
    (others : List (List α)) :
    Spends Work.kept (provesAgainst limits expected actual expectedDistance others)
      (provesAgainst unlimited expected actual expectedDistance others) := by
  induction others with
  | nil => exact .pure _
  | cons other others ih =>
    have hnear : Spends Work.kept (otherDistance limits other actual expectedDistance)
        (otherDistance unlimited other actual expectedDistance) :=
      .ite (.pure _) (spends_alignmentDistance ..)
    refine .ite ih (.bind hnear fun near => ?_)
    exact .ite (.pure _) (.ite (.pure _) ih)

theorem spends_sliceProvesSentence (sentences : List (List α)) (sentenceIndex : Nat)
    (actual : List α) :
    Spends Work.kept (sliceProvesSentence limits sentences sentenceIndex actual)
      (sliceProvesSentence unlimited sentences sentenceIndex actual) := by
  refine .bind (spends_alignmentDistance ..) fun distance => ?_
  cases distance with
  | none => exact .pure _
  | some expectedDistance => exact spends_provesAgainst ..

theorem spends_slicePreservesAdjacentBoundaries (sentences : List (List α)) (sentenceIndex : Nat)
    (previousActual actual followingActual : List α) :
    Spends Work.kept
      (slicePreservesAdjacentBoundaries limits sentences sentenceIndex previousActual actual
        followingActual)
      (slicePreservesAdjacentBoundaries unlimited sentences sentenceIndex previousActual actual
        followingActual) := by
  refine .bind (spends_alignmentDistance ..) fun previousDistance =>
    .bind (spends_alignmentDistance ..) fun followingDistance => ?_
  cases previousDistance with
  | none => exact .pure _
  | some previousDistance =>
    cases followingDistance with
    | none => exact .pure _
    | some followingDistance =>
      exact .ite (.pure _) (.bind (spends_consumeAdjacentDpCells _) fun _ => .pure _)

/-! ## Windows -/

theorem alignmentDistance_bounds {expected actual : List α} {distance : Nat}
    (h : Yields (alignmentDistance unlimited expected actual none) (some distance)) :
    (alignedSliceLengthBounds expected).1 ≤ actual.length ∧
      actual.length ≤ (alignedSliceLengthBounds expected).2 ∧ actual ≠ [] := by
  obtain ⟨w', h⟩ := h {}
  unfold alignmentDistance at h
  simp only at h
  split at h
  · cases h
  · rename_i hne
    rw [not_or] at hne
    have hexpected := List.length_pos_iff.2 hne.1
    have hactual := List.length_pos_iff.2 hne.2
    unfold alignedSliceLengthBounds
    split at h
    · rename_i hsame
      rw [hsame]
      refine ⟨?_, ?_, hne.2⟩ <;> omega
    · split at h
      · cases h
      · split at h
        · cases h
        · rename_i hnear
          refine ⟨?_, ?_, hne.2⟩ <;> omega

theorem ProvesSentence.bounds {sentences : List (List α)} {sentenceIndex : Nat} {actual : List α}
    (h : ProvesSentence sentences sentenceIndex actual) :
    (alignedSliceLengthBounds (sentences.getD sentenceIndex [])).1 ≤ actual.length ∧
      actual.length ≤ (alignedSliceLengthBounds (sentences.getD sentenceIndex [])).2 ∧
      actual ≠ [] := by
  obtain ⟨w', h⟩ := h {}
  obtain ⟨distance, u, hdistance, h⟩ := bind_eq_some.1 h
  cases distance with
  | none =>
    obtain ⟨hb, -⟩ := pure_eq_some.1 h
    cases hb
  | some distance =>
    exact alignmentDistance_bounds ((@spends_alignmentDistance _ _ unlimited _ _ _) hdistance).2

/-! ## Going on -/

/-- The slices between the ends, the last one first. -/
def slicesOf (transcript : List α) : List Nat → List (List α)
  | [] => []
  | stop :: ends => slice transcript (ends.headD 0) stop :: slicesOf transcript ends

/-- `more` can follow the slices `before`, the last one of which comes first. -/
def Follows (sentences : List (List α)) : Nat → List (List α) → List (List α) → Prop
  | _, _, [] => True
  | sentenceIndex, before, actual :: more =>
    ProvesSentence sentences sentenceIndex actual ∧
      (∀ middle previous, before.take 2 = [middle, previous] →
        PreservesBoundaries sentences (sentenceIndex - 1) previous middle actual) ∧
      Follows sentences (sentenceIndex + 1) (actual :: before) more

variable {sentences : List (List α)} {transcript : List α}

/-- Only the last two slices matter. -/
theorem follows_congr {sentenceIndex : Nat} {before before' more : List (List α)}
    (h : before.take 2 = before'.take 2) :
    Follows sentences sentenceIndex before more ↔ Follows sentences sentenceIndex before' more := by
  induction more generalizing sentenceIndex before before' with
  | nil => exact Iff.rfl
  | cons actual more ih =>
    have hnext : (actual :: before).take 2 = (actual :: before').take 2 := by
      cases before <;> cases before' <;> simp_all
    simp only [Follows, h, ih hnext]

omit [DecidableEq α] in
/-- `slicesOf` with the last three ends has the last two slices. -/
theorem slicesOf_take (ends : List Nat) :
    (slicesOf transcript (ends.take 3)).take 2 = (slicesOf transcript ends).take 2 := by
  match ends with
  | [] => rfl
  | [_] => rfl
  | [_, _] => rfl
  | _ :: _ :: _ :: _ => rfl

variable (sentences transcript) in
/-- The rest of the transcript can be cut when this many slices have been, the last of which end
here. -/
def Completes (state : Nat × List Nat) : Prop :=
  state.2.headD 0 ≤ transcript.length ∧
    ∃ more, more.length + state.1 = sentences.length ∧
      more.flatten = transcript.drop (state.2.headD 0) ∧
      Follows sentences state.1 (slicesOf transcript state.2) more

theorem completes_take (sentenceIndex : Nat) (ends : List Nat) :
    Completes sentences transcript (sentenceIndex, ends.take 3) ↔
      Completes sentences transcript (sentenceIndex, ends) := by
  have hhead : (ends.take 3).headD 0 = ends.headD 0 := by cases ends <;> rfl
  simp only [Completes, hhead, follows_congr (slicesOf_take ends)]

/-- Slices that follow are together as long as the windows of their sentences allow. -/
theorem Follows.bounds {sentenceIndex : Nat} {before more : List (List α)}
    (h : Follows sentences sentenceIndex before more)
    (hlength : more.length + sentenceIndex = sentences.length) :
    (suffixBounds (sentences.drop sentenceIndex)).1 ≤ more.flatten.length ∧
      more.flatten.length ≤ (suffixBounds (sentences.drop sentenceIndex)).2 := by
  induction more generalizing sentenceIndex before with
  | nil =>
    rw [List.length_nil, Nat.zero_add] at hlength
    rw [hlength, List.drop_length]
    exact ⟨le_refl 0, le_refl 0⟩
  | cons actual more ih =>
    rw [List.length_cons] at hlength
    have hin : sentenceIndex < sentences.length := by omega
    obtain ⟨hproves, -, hrest⟩ := h
    obtain ⟨hmin, hmax, -⟩ := hproves.bounds
    obtain ⟨hmin', hmax'⟩ := ih hrest (by omega)
    rw [List.drop_eq_getElem_cons hin, List.flatten_cons, List.length_append]
    rw [List.getD_eq_getElem?_getD, List.getElem?_eq_getElem hin, Option.getD_some] at hmin hmax
    simp only [suffixBounds, List.map_cons, List.sum_cons] at hmin' hmax' ⊢
    omega

/-! ## One more slice -/

theorem mem_candidateEnds {first last stop : Nat} (hfirst : first ≤ stop) (hlast : stop ≤ last)
    (preferred : Nat) : stop ∈ candidateEnds first last preferred := by
  unfold candidateEnds
  simp only [List.mem_cons, List.mem_flatMap, List.mem_append, List.mem_range'_1]
  rcases Nat.lt_trichotomy stop (max first (min preferred last)) with hlt | heq | hgt
  · refine .inr ⟨max first (min preferred last) - stop, by omega, .inl ?_⟩
    rw [if_pos (by omega), List.mem_singleton]
    omega
  · exact .inl heq
  · refine .inr ⟨stop - max first (min preferred last), by omega, .inr ?_⟩
    rw [if_pos (by omega), List.mem_singleton]
    omega

omit [DecidableEq α] in
theorem slice_eq (start stop : Nat) :
    slice transcript start stop = (transcript.drop start).take (stop - start) := List.drop_take

variable (sentences transcript) in
/-- The slice from the last end to this one may come next. -/
def Accepts (ends : List Nat) (stop : Nat) : Prop :=
  ProvesSentence sentences ends.length (slice transcript (ends.headD 0) stop) ∧
    ∀ middle previous, (slicesOf transcript ends).take 2 = [middle, previous] →
      PreservesBoundaries sentences (ends.length - 1) previous middle
        (slice transcript (ends.headD 0) stop)

/-- The ends that `partition_from` tries. -/
def triedEnds (sentences : List (List α)) (transcript : List α) (sentenceIndex start : Nat) :
    List Nat :=
  let expected := sentences.getD sentenceIndex []
  let bounds := alignedSliceLengthBounds expected
  let suffix := suffixBounds (sentences.drop (sentenceIndex + 1))
  candidateEnds (max (start + bounds.1) (transcript.length - suffix.2))
    (min (start + bounds.2) (transcript.length - suffix.1)) (start + expected.length)

/-- The cut can be gone on with exactly when it can be with one of the ends that are tried. -/
theorem completes_iff {ends : List Nat} (hlength : ends.length < sentences.length) :
    Completes sentences transcript (ends.length, ends) ↔
      ∃ stop ∈ triedEnds sentences transcript ends.length (ends.headD 0),
        Accepts sentences transcript ends stop ∧
          Completes sentences transcript (ends.length + 1, stop :: ends) := by
  constructor
  · rintro ⟨hstart, more, hmore, hflatten, hfollows⟩
    cases more with
    | nil =>
      simp only [List.length_nil, Nat.zero_add] at hmore
      omega
    | cons actual more =>
      obtain ⟨hproves, hpreserves, hrest⟩ := hfollows
      obtain ⟨hmin, hmax, -⟩ := hproves.bounds
      obtain ⟨hmin', hmax'⟩ := hrest.bounds (by rw [List.length_cons] at hmore; omega)
      have htotal := congrArg List.length hflatten
      rw [List.flatten_cons, List.length_append, List.length_drop] at htotal
      simp only at hstart htotal hmin hmax hmin' hmax'
      have hslice : slice transcript (ends.headD 0) (ends.headD 0 + actual.length) = actual := by
        rw [slice_eq, Nat.add_sub_cancel_left]
        show (transcript.drop _).take _ = _
        rw [← hflatten, List.flatten_cons, List.take_left]
      refine ⟨ends.headD 0 + actual.length, ?_, ⟨?_, ?_⟩, ?_, more, ?_, ?_, ?_⟩
      · exact mem_candidateEnds (by omega) (by omega) _
      · rw [hslice]
        exact hproves
      · rw [hslice]
        exact hpreserves
      · show ends.headD 0 + actual.length ≤ transcript.length
        omega
      · rw [List.length_cons] at hmore
        show more.length + (ends.length + 1) = _
        omega
      · show more.flatten = transcript.drop (ends.headD 0 + actual.length)
        rw [← List.drop_drop]
        show _ = (transcript.drop _).drop _
        rw [← hflatten, List.flatten_cons, List.drop_left]
      · show Follows sentences (ends.length + 1) (slice transcript (ends.headD 0) _ :: _) more
        rw [hslice]
        exact hrest
  · rintro ⟨stop, -, ⟨hproves, hpreserves⟩, hstop, more, hmore, hflatten, hfollows⟩
    obtain ⟨-, -, hne⟩ := hproves.bounds
    have hpos := List.length_pos_iff.2 hne
    simp only [List.headD_cons] at hstop hflatten
    rw [slice_eq, List.length_take, List.length_drop] at hpos
    refine ⟨?_, slice transcript (ends.headD 0) stop :: more, ?_, ?_, hproves, hpreserves, hfollows⟩
    · show ends.headD 0 ≤ transcript.length
      omega
    · simp only at hmore
      rw [List.length_cons]
      show more.length + 1 + ends.length = _
      omega
    · have hsplit : transcript.drop stop = (transcript.drop (ends.headD 0)).drop (stop - ends.headD 0) := by
        rw [List.drop_drop]
        congr 1
        omega
      rw [List.flatten_cons, hflatten, hsplit, slice_eq, List.take_append_drop]

theorem spends_acceptsEnd (sentenceIndex start : Nat) (ends : List Nat) (stop : Nat) :
    Spends Work.kept (acceptsEnd limits sentences transcript sentenceIndex start ends stop)
      (acceptsEnd unlimited sentences transcript sentenceIndex start ends stop) := by
  refine .bind (spends_sliceProvesSentence ..) fun proves => ?_
  exact .ite (.pure _) (.ite (.pure _) (spends_slicePreservesAdjacentBoundaries ..))

omit [DecidableEq α] in
/-- `previous_start` and `middle_start` are where the last two slices begin. -/
theorem lastSlices_eq {ends : List Nat} (h : 2 ≤ ends.length) :
    (slicesOf transcript ends).take 2 =
      [slice transcript (ends.getD 1 0) (ends.headD 0),
        slice transcript (if ends.length = 2 then 0 else ends.getD 2 0) (ends.getD 1 0)] := by
  match ends, h with
  | [_, _], _ => rfl
  | _ :: _ :: _ :: _, _ => simp [slicesOf]

theorem acceptsEnd_iff {ends : List Nat} (stop : Nat) :
    Yields (acceptsEnd unlimited sentences transcript ends.length (ends.headD 0) ends stop) true ↔
      Accepts sentences transcript ends stop := by
  constructor
  · intro h
    obtain ⟨w', h⟩ := h {}
    obtain ⟨proves, u, hproves, h⟩ := bind_eq_some.1 h
    cases proves with
    | false =>
      obtain ⟨hb, -⟩ := pure_eq_some.1 h
      cases hb
    | true =>
      refine ⟨((@spends_sliceProvesSentence _ _ unlimited _ _ _) hproves).2, ?_⟩
      intro middle previous hlast
      have htwo : 2 ≤ ends.length := by
        match ends with
        | [] => cases hlast
        | [_] => cases hlast
        | _ :: _ :: _ => exact Nat.le_add_left 2 _
      rw [lastSlices_eq htwo, List.cons.injEq, List.cons.injEq] at hlast
      obtain ⟨rfl, rfl, -⟩ := hlast
      simp only [Bool.not_true, Bool.false_eq_true, if_false, if_neg (Nat.not_lt.2 htwo)] at h
      exact ((@spends_slicePreservesAdjacentBoundaries _ _ unlimited _ _ _ _ _) h).2
  · rintro ⟨hproves, hpreserves⟩ w
    obtain ⟨u, hu⟩ := hproves w
    by_cases htwo : ends.length < 2
    · refine ⟨u, bind_eq_some.2 ⟨true, u, hu, ?_⟩⟩
      simp only [Bool.not_true, Bool.false_eq_true, if_false, if_pos htwo]
      rfl
    · obtain ⟨w', h⟩ := hpreserves _ _ (lastSlices_eq (Nat.not_lt.1 htwo)) u
      refine ⟨w', bind_eq_some.2 ⟨true, u, hu, ?_⟩⟩
      simp only [Bool.not_true, Bool.false_eq_true, if_false, if_neg htwo]
      exact h

/-! ## The search -/

/-- No candidate has been left out. -/
def Live (w : Work) : Prop := w.stopped = false

theorem kept_eq {w w' : Work} (h : w'.kept = w.kept) :
    w'.failedStates = w.failedStates ∧ (Live w' ↔ Live w) := by
  obtain ⟨hfailed, hstopped⟩ := Prod.mk.inj h
  exact ⟨hfailed, by rw [Live, Live, hstopped]⟩

instance : Nonempty Work := ⟨{}⟩

theorem consumeWork_spec {w w' : Work} {go : Bool} (h : consumeWork limits w = some (go, w')) :
    (go = false → ¬Live w') ∧ (Live w' → Live w ∧
      (Honest Work.failedStates (Completes sentences transcript) w →
        Honest Work.failedStates (Completes sentences transcript) w')) := by
  unfold consumeWork at h
  split at h
  · cases h
    exact ⟨fun _ => nofun, nofun⟩
  · cases h
    exact ⟨nofun, fun hlive => ⟨hlive, id⟩⟩

theorem partitionFrom_tells {left start : Nat} {ends : List Nat}
    (hlength : ends.length + left = sentences.length) (hstart : start = ends.headD 0) :
    Tells Live Work.failedStates (Completes sentences transcript)
      (partitionFrom limits sentences transcript left start ends)
      (Completes sentences transcript (ends.length, ends)) := by
  induction left generalizing start ends with
  | zero =>
    have hdone : Completes sentences transcript (ends.length, ends) ↔ start = transcript.length := by
      subst hstart
      constructor
      · rintro ⟨hin, more, hmore, hflatten, -⟩
        have hnil : more = [] := List.length_eq_zero_iff.1 (by simp only at hmore; omega)
        subst hnil
        have hrest := List.drop_eq_nil_iff.1 hflatten.symm
        exact le_antisymm hin hrest
      · intro hend
        have hrest : transcript.drop (ends.headD 0) = [] := List.drop_eq_nil_of_le hend.ge
        exact ⟨hend.le, [], by simpa using hlength, hrest.symm, trivial⟩
    intro w b w' h
    obtain ⟨rfl, rfl⟩ := pure_eq_some.1 h
    rw [hdone, decide_eq_true_eq, decide_eq_false_iff_not]
    exact ⟨id, fun hlive => ⟨hlive, fun hhonest => ⟨hhonest, id⟩⟩⟩
  | succ left ih =>
    have hindex : sentences.length - (left + 1) = ends.length := by omega
    have hsplit := @completes_iff _ _ _ transcript _
      (show ends.length < sentences.length by omega)
    subst hstart
    rw [← completes_take]
    unfold partitionFrom
    rw [hindex]
    have hwrite (state : Nat × List Nat) (w : Work) :
        ({ w with failedStates := state :: w.failedStates } : Work).failedStates =
          state :: w.failedStates := rfl
    refine tells_memoised hwrite (fun _ _ => Iff.rfl) fun w r w' h => ?_
    have hcheck (stop : Nat) : Tells Live Work.failedStates (Completes sentences transcript)
        (acceptsEnd limits sentences transcript ends.length (ends.headD 0) ends stop)
        (Accepts sentences transcript ends stop) := by
      rw [← acceptsEnd_iff]
      exact tells_of_spends (fun _ _ => kept_eq) (spends_acceptsEnd ..)
    have hnext (stop : Nat) : Tells Live Work.failedStates (Completes sentences transcript)
        (partitionFrom limits sentences transcript left stop (stop :: ends))
        (Completes sentences transcript (ends.length + 1, stop :: ends)) :=
      ih (by rw [List.length_cons]; omega) rfl
    obtain ⟨hfound, hlive⟩ := tells_attempt (fun _ _ _ => consumeWork_spec) hcheck hnext
      (triedEnds sentences transcript ends.length (ends.headD 0)) h
    rw [completes_take, hsplit]
    refine ⟨hfound, fun hw' => ?_⟩
    obtain ⟨hw, hr, hhonest⟩ := hlive hw'
    refine ⟨hw, hr, fun hold => ?_⟩
    obtain ⟨hnew, hnone⟩ := hhonest hold
    exact ⟨hnew, fun hr ⟨stop, hstop, hboth⟩ => hnone hr stop hstop hboth⟩

/-! ## The whole cut -/

omit [DecidableEq α] in
theorem getElem?_of_take_two {before more : List (List α)} {actual middle previous : List α}
    (h : before.take 2 = [middle, previous]) :
    2 ≤ before.length ∧ (before.reverse ++ actual :: more)[before.length - 2]? = some previous ∧
      (before.reverse ++ actual :: more)[before.length - 1]? = some middle ∧
      (before.reverse ++ actual :: more)[before.length]? = some actual := by
  match before, h with
  | _ :: _ :: rest, h =>
    simp only [List.take_succ_cons, List.take_zero, List.cons.injEq, and_true] at h
    obtain ⟨rfl, rfl⟩ := h
    refine ⟨Nat.le_add_left 2 _, ?_, ?_, ?_⟩
    · simp
    · simp
    · simp [Nat.add_assoc]

omit [DecidableEq α] in
theorem exists_take_two {before : List (List α)} (h : 2 ≤ before.length) :
    ∃ middle previous, before.take 2 = [middle, previous] := by
  match before, h with
  | middle :: previous :: _, _ => exact ⟨middle, previous, rfl⟩

/-- Slices follow when each proves its sentence, and each one behind two others preserves. -/
theorem follows_iff {before more : List (List α)} :
    Follows sentences before.length before more ↔
      (∀ j s, more[j]? = some s → ProvesSentence sentences (before.length + j) s) ∧
        ∀ j a b c, (before.reverse ++ more)[j]? = some a → (before.reverse ++ more)[j + 1]? = some b →
          (before.reverse ++ more)[j + 2]? = some c → before.length ≤ j + 2 →
            PreservesBoundaries sentences (j + 1) a b c := by
  induction more generalizing before with
  | nil =>
    refine ⟨fun _ => ⟨fun j s h => ?_, fun j a b c _ _ hc hle => ?_⟩, fun _ => trivial⟩
    · rw [List.getElem?_nil] at h
      cases h
    · rw [List.append_nil, List.getElem?_eq_none (by rw [List.length_reverse]; exact hle)] at hc
      cases hc
  | cons actual more ih =>
    have hall : (actual :: before).reverse ++ more = before.reverse ++ actual :: more := by
      rw [List.reverse_cons, List.append_assoc]
      rfl
    have hnext := @ih (actual :: before)
    rw [hall, List.length_cons] at hnext
    constructor
    · rintro ⟨hproves, hlast, hrest⟩
      obtain ⟨hproves', hpreserves⟩ := hnext.1 hrest
      refine ⟨fun j s h => ?_, fun j a b c ha hb hc hle => ?_⟩
      · cases j with
        | zero =>
          cases h
          exact hproves
        | succ j =>
          rw [Nat.add_comm j, ← Nat.add_assoc]
          exact hproves' j s h
      · rcases Nat.lt_or_ge before.length (j + 2) with hlt | hge
        · exact hpreserves j a b c ha hb hc hlt
        · -- The triple that ends with the new slice.
          have hlength : before.length = j + 2 := le_antisymm hle hge
          obtain ⟨middle, previous, htake⟩ := @exists_take_two _ before (by omega)
          obtain ⟨-, ha', hb', hc'⟩ := @getElem?_of_take_two _ _ more actual _ _ htake
          simp only [hlength, Nat.add_sub_cancel, show j + 2 - 1 = j + 1 from rfl] at ha' hb' hc'
          rw [ha', Option.some.injEq] at ha
          rw [hb', Option.some.injEq] at hb
          rw [hc', Option.some.injEq] at hc
          subst ha hb hc
          have hpreserved := hlast middle previous htake
          rwa [hlength] at hpreserved
    · rintro ⟨hproves, hpreserves⟩
      refine ⟨hproves 0 actual rfl, fun middle previous h => ?_, hnext.2 ⟨fun j s h => ?_, ?_⟩⟩
      · obtain ⟨htwo, ha, hb, hc⟩ := @getElem?_of_take_two _ _ more actual _ _ h
        have hindex : before.length - 1 = before.length - 2 + 1 := by omega
        have hend : before.length - 2 + 2 = before.length := by omega
        rw [hindex] at hb ⊢
        exact hpreserves (before.length - 2) previous middle actual ha hb (by rw [hend]; exact hc)
          hend.ge
      · have hproved := hproves (j + 1) s h
        rwa [Nat.add_comm j, ← Nat.add_assoc] at hproved
      · exact fun j a b c ha hb hc hle => hpreserves j a b c ha hb hc (by omega)

theorem completes_nil_iff :
    Completes sentences transcript (0, []) ↔ ∃ slices, IsSplit sentences transcript slices := by
  constructor
  · rintro ⟨-, slices, hlength, hflatten, hfollows⟩
    obtain ⟨hproves, hpreserves⟩ := (@follows_iff _ _ _ [] _).1 hfollows
    refine ⟨slices, hflatten, hlength, fun i s h => ?_, fun i a b c ha hb hc => ?_⟩
    · have hproved := hproves i s h
      rwa [List.length_nil, Nat.zero_add] at hproved
    · exact hpreserves i a b c ha hb hc (Nat.zero_le _)
  · rintro ⟨slices, h⟩
    refine ⟨Nat.zero_le _, slices, h.length, h.flatten, (@follows_iff _ _ _ [] _).2 ⟨?_, ?_⟩⟩
    · intro j s hs
      rw [List.length_nil, Nat.zero_add]
      exact h.proves j s hs
    · intro j a b c ha hb hc _
      exact h.preserves j a b c ha hb hc

theorem alignSentences_spec {w : Work} {aligned : Bool}
    (h : alignSentences limits sentences transcript {} = some (aligned, w)) :
    (aligned = true →
      TextsAlign sentences transcript ∧ Completes sentences transcript (0, [])) ∧
    (TextsAlign sentences transcript → Completes sentences transcript (0, []) → Live w →
      aligned = true) := by
  obtain ⟨distance, u, hdistance, h⟩ := bind_eq_some.1 h
  obtain ⟨hkept, hvalue⟩ := spends_alignmentDistance _ _ _ hdistance
  cases distance with
  | none =>
    obtain ⟨rfl, rfl⟩ := pure_eq_some.1 h
    refine ⟨nofun, fun ⟨distance, haligned⟩ => ?_⟩
    cases Yields.unique hvalue haligned
  | some distance =>
    simp only at h
    split at h
    · rename_i hbounds
      obtain ⟨rfl, rfl⟩ := pure_eq_some.1 h
      refine ⟨nofun, fun _ ⟨_, more, hmore, hflatten, hfollows⟩ => ?_⟩
      have hin := hfollows.bounds hmore
      rw [hflatten] at hin
      exact absurd hin hbounds
    · obtain ⟨hfound, hlive⟩ :=
        (@partitionFrom_tells _ _ _ _ _ _ _ [] (Nat.zero_add sentences.length) rfl) h
      refine ⟨fun haligned => ⟨⟨distance, hvalue⟩, hfound haligned⟩, fun _ hcompletes hw => ?_⟩
      obtain ⟨-, hhonest⟩ := hlive hw
      have hstart : Honest Work.failedStates (Completes sentences transcript) u := by
        unfold Honest
        rw [(kept_eq hkept).1]
        exact nofun
      exact eq_true_of_ne_false fun hb => (hhonest hstart).2 hb hcompletes

/-- **The search is exact**: it finds a cut only when the texts align and there is a cut, and it
finds one whenever they do, there is one and no budget is exhausted. -/
theorem sentencesAlign_exact (limits : Limits) (sentences : List (List α)) (transcript : List α) :
    (sentencesAlign limits sentences transcript = true →
      TextsAlign sentences transcript ∧ ∃ slices, IsSplit sentences transcript slices) ∧
    (TextsAlign sentences transcript → (∃ slices, IsSplit sentences transcript slices) →
      ¬Exhausted limits sentences transcript → sentencesAlign limits sentences transcript = true) := by
  rw [← completes_nil_iff]
  unfold sentencesAlign Exhausted
  cases hrun : alignSentences limits sentences transcript {} with
  | none => exact ⟨nofun, fun _ _ hexhausted => absurd trivial hexhausted⟩
  | some result =>
    obtain ⟨hfound, hall⟩ := alignSentences_spec hrun
    refine ⟨hfound, fun htexts hsplit hexhausted => hall htexts hsplit ?_⟩
    exact eq_false_of_ne_true hexhausted

/-! ## A transcript with a slip -/

def script : List (List Char) := ["goodmorning".toList, "letusbegin".toList, "thankyou".toList]

/-- One letter is wrong, and the script is recognised with the budgets of the source. -/
theorem slip_aligned : ∃ slices, IsSplit script "goodmorningletusbeginthamkyou".toList slices :=
  ((sentencesAlign_exact alignmentLimits script "goodmorningletusbeginthamkyou".toList).1
    (by decide +kernel)).2

end AutomationTool.Executor.ScriptAlignment
