import AutomationTool.Core.Failing

/-!
# The layout of a caption

A caption is drawn with a chain of faces: each character with the first one that covers it. The
lines of its text are broken where they stop fitting, one character at a time, each piece is cut
into runs of one face, and the pieces are stacked on a canvas of the size of the text.

The faces are parameters: what a face covers, how wide it draws, how far it reaches above and
below the baseline. Lengths are rational.

* `wrapFrom_spec`: the pieces of a line.
* `segmentRuns_spec`: the runs of a piece.
* `sides_inside`: on the left and on the right every line lies inside the canvas.
-/
namespace AutomationTool.Executor.CaptionLayout

variable {Key : Type}

/-! ## Faces -/

inductive CaptionRejected
  | controlCharacter
  | glyphUnavailable
  | characterTooWide
  | captionTooTall
  | frameRejected
  | nothingToDraw
  | noInk
deriving DecidableEq

/-- `UNDRAWABLE_CODEPOINTS`. -/
def undrawable (character : Char) : Bool :=
  let codepoint := character.toNat
  codepoint < 0x20 ∨ codepoint = 0x7F ∨ (0x80 ≤ codepoint ∧ codepoint < 0xA0) ∨
    codepoint = 0x2028 ∨ codepoint = 0x2029

/-- The faces at one size. -/
structure Faces (Key : Type) where
  coverage : Key → Char → Bool
  getlength : Key → List Char → ℚ
  ascent : Key → ℚ
  descent : Key → ℚ

/-- mirrors fonts.py:348-363 -/
structure FontChain (Key : Type) where
  keys : List Key
  nonempty : keys ≠ []
  nodup : keys.Nodup

section

variable (faces : Faces Key) (chain : FontChain Key)

/-- mirrors fonts.py:365-382 -/
def FontChain.faceFor (character : Char) : Except CaptionRejected Key :=
  if undrawable character then .error .controlCharacter
  else
    match chain.keys.find? (faces.coverage · character) with
    | none => .error .glyphUnavailable
    | some key => .ok key

structure TextRun (Key : Type) where
  fontKey : Key
  text : List Char
deriving DecidableEq

/-- The loop over the characters, with the runs so far, the last one first.
mirrors fonts.py:401-408 -/
def segmentFrom [DecidableEq Key] :
    List (TextRun Key) → List Char → Except CaptionRejected (List (TextRun Key))
  | runs, [] => .ok runs.reverse
  | runs, character :: text => do
    let fontKey ← chain.faceFor faces character
    match runs with
    | [] => segmentFrom [⟨fontKey, [character]⟩] text
    | last :: earlier =>
      if last.fontKey = fontKey then segmentFrom (⟨fontKey, last.text ++ [character]⟩ :: earlier) text
      else segmentFrom (⟨fontKey, [character]⟩ :: last :: earlier) text

/-- mirrors fonts.py:393-408 -/
def segmentRuns [DecidableEq Key] (text : List Char) : Except CaptionRejected (List (TextRun Key)) :=
  segmentFrom faces chain [] text

/-! ## Lines -/

/-- The loop over the characters of one line.
mirrors render.py:425-442 -/
def wrapFrom (wrapWidth : Nat) :
    List Char → ℚ → List Char → Except CaptionRejected (List (List Char))
  | current, _, [] => .ok [current]
  | current, width, character :: line => do
    let fontKey ← chain.faceFor faces character
    let advance := faces.getlength fontKey [character]
    if advance > wrapWidth then .error .characterTooWide
    else if current ≠ [] ∧ width + advance > wrapWidth then do
      let rest ← wrapFrom wrapWidth [character] advance line
      .ok (current :: rest)
    else wrapFrom wrapWidth (current ++ [character]) (width + advance) line

/-- mirrors render.py:403-443 -/
def wrap (wrapWidth : Nat) (lines : List (List Char)) : Except CaptionRejected (List (List Char)) := do
  let wrapped ← lines.mapM (wrapFrom faces chain wrapWidth [] 0)
  .ok wrapped.flatten

/-- `_LaidOutLine`. -/
structure LaidOutLine (Key : Type) where
  runs : List (TextRun Key)
  width : ℚ
  ascent : ℚ
  descent : ℚ
deriving DecidableEq

/-- mirrors render.py:446-470 -/
def layOut [DecidableEq Key] (primaryKey : Key) (line : List Char) :
    Except CaptionRejected (LaidOutLine Key) := do
  let runs ← segmentRuns faces chain line
  let width := (runs.map fun run => faces.getlength run.fontKey run.text).sum
  match runs with
  | [] => .ok ⟨[], width, faces.ascent primaryKey, faces.descent primaryKey⟩
  | run :: rest =>
    .ok
      { runs
        width
        ascent := (rest.map fun run => faces.ascent run.fontKey).foldl max (faces.ascent run.fontKey)
        descent :=
          (rest.map fun run => faces.descent run.fontKey).foldl max (faces.descent run.fontKey) }

end

/-! ## The canvas -/

/-- Python's `round`, to the even one of two that are as near. -/
def roundHalfEven (q : ℚ) : ℤ :=
  if q - ⌊q⌋ < 1 / 2 then ⌊q⌋
  else if q - ⌊q⌋ > 1 / 2 then ⌊q⌋ + 1
  else if ⌊q⌋ % 2 = 0 then ⌊q⌋
  else ⌊q⌋ + 1

/-- mirrors render.py:162-225 -/
structure CaptionRenderStyle (Key : Type) where
  fontKey : Key
  fontPx : Nat
  strokePx : Nat
  lineSpacing : ℚ
  font : 12 ≤ fontPx ∧ fontPx ≤ 200
  stroke : strokePx ≤ 20
  spacing : 1 ≤ lineSpacing ∧ lineSpacing ≤ 3
  letterform : strokePx * 2 < fontPx

/-- A line where it is drawn. -/
structure PlacedLine (Key : Type) where
  line : LaidOutLine Key
  left : ℚ
  baseline : ℚ

structure Canvas (Key : Type) where
  width : ℤ
  height : ℚ
  placed : List (PlacedLine Key)

/-- The line box with the stroke around it lies inside the canvas. -/
structure Inside (stroke : Nat) (canvas : Canvas Key) (p : PlacedLine Key) : Prop where
  left : 0 ≤ p.left - stroke
  right : p.left + p.line.width + stroke ≤ canvas.width
  top : 0 ≤ p.baseline - p.line.ascent - stroke
  bottom : p.baseline + p.line.descent + stroke ≤ canvas.height

section

variable (style : CaptionRenderStyle Key)

/-- From a line's baseline to the next one. -/
def step (line : LaidOutLine Key) : ℤ :=
  roundHalfEven ((line.ascent + line.descent) * style.lineSpacing)

def steps (lines : List (LaidOutLine Key)) : ℤ := (lines.map (step style)).sum

/-- `text_width`. -/
def textWidth (first : LaidOutLine Key) (rest : List (LaidOutLine Key)) : ℚ :=
  (rest.map (·.width)).foldl max first.width

/-- `height`, of the lines `first :: rest`. -/
def blockHeight (first : LaidOutLine Key) (rest : List (LaidOutLine Key)) : ℚ :=
  2 * style.strokePx + first.ascent + steps style (first :: rest).dropLast +
    (rest.getLast?.getD first).descent

/-- The loop over the lines.
mirrors render.py:531-544 -/
def place (text : ℚ) : ℚ → List (LaidOutLine Key) → List (PlacedLine Key)
  | _, [] => []
  | baseline, line :: lines =>
    { line, baseline, left := style.strokePx + (text - line.width) / 2 } ::
      place text (baseline + step style line) lines

/-- `inked`: something has been painted.
mirrors render.py:498-555 -/
def draw (frameHeight : Nat) (inked : Bool) :
    List (LaidOutLine Key) → Except CaptionRejected (Canvas Key)
  | [] => .error .nothingToDraw
  | first :: rest =>
    let text := textWidth first rest
    let height := blockHeight style first rest
    if height > frameHeight then .error .captionTooTall
    else if ¬inked then .error .noInk
    else
      .ok
        { width := ⌈text⌉ + 2 * style.strokePx
          height
          placed := place style text (style.strokePx + first.ascent) (first :: rest) }

/-- Of the lines of a text, without tabs; `inked` says whether painting the canvas leaves something.
mirrors render.py:622-659 -/
def renderCaption [DecidableEq Key] (faces : Faces Key) (chain : FontChain Key)
    (frameWidth frameHeight : Nat) (inked : Bool) (lines : List (List Char)) : Except CaptionRejected (Canvas Key) :=
  if ¬(128 ≤ frameWidth ∧ frameWidth ≤ 4096 ∧ 128 ≤ frameHeight ∧ frameHeight ≤ 4096 ∧
      style.fontPx ≤ frameHeight) then
    .error .frameRejected
  else if lines = [] then .error .nothingToDraw
  else do
    let wrapped ← wrap faces chain (frameWidth - 2 * 48) lines
    let laidOut ← wrapped.mapM (layOut faces chain style.fontKey)
    draw style frameHeight inked laidOut

end

/-! ## Pieces and runs -/

section

variable {faces : Faces Key} {chain : FontChain Key}

/-- The first face of the chain that covers a character. -/
def FirstCovering (faces : Faces Key) (chain : FontChain Key) (key : Key) (character : Char) : Prop :=
  ∃ before after, chain.keys = before ++ key :: after ∧ faces.coverage key character = true ∧
    ∀ other ∈ before, faces.coverage other character = false

theorem firstCovering_of_faceFor {character : Char} {key : Key}
    (h : chain.faceFor faces character = .ok key) : FirstCovering faces chain key character := by
  unfold FontChain.faceFor at h
  split at h
  · cases h
  · split at h
    · cases h
    · rename_i found hfound
      cases h
      obtain ⟨hcovers, before, after, hkeys, hbefore⟩ := List.find?_eq_some_iff_append.1 hfound
      exact ⟨before, after, hkeys, hcovers, fun other hother => by simpa using hbefore other hother⟩

/-- How wide a character is drawn. -/
def advanceOf (faces : Faces Key) (chain : FontChain Key) (character : Char) : ℚ :=
  match chain.faceFor faces character with
  | .error _ => 0
  | .ok key => faces.getlength key [character]

def pieceWidth (faces : Faces Key) (chain : FontChain Key) (piece : List Char) : ℚ :=
  (piece.map (advanceOf faces chain)).sum

variable (faces chain) in
/-- The pieces are those of the line, none is too wide, and none could have taken one character
more. -/
structure Wrapped (wrapWidth : Nat) (line : List Char) (pieces : List (List Char)) : Prop where
  flatten : pieces.flatten = line
  fits : ∀ piece ∈ pieces, piece ≠ [] → pieceWidth faces chain piece ≤ wrapWidth
  full : pieces.IsChain fun piece next => ∃ character, next.head? = some character ∧
    wrapWidth < pieceWidth faces chain piece + advanceOf faces chain character

theorem wrapFrom_spec {wrapWidth : Nat} {current line : List Char} {width : ℚ}
    {pieces : List (List Char)} (hwidth : width = pieceWidth faces chain current)
    (hfits : current ≠ [] → width ≤ wrapWidth)
    (h : wrapFrom faces chain wrapWidth current width line = .ok pieces) :
    Wrapped faces chain wrapWidth (current ++ line) pieces ∧
      ∃ more, pieces.head? = some (current ++ more) := by
  induction line generalizing current width pieces with
  | nil =>
    cases h
    refine ⟨⟨by simp, fun piece hpiece hne => ?_, .singleton _⟩, [], by simp⟩
    rw [List.mem_singleton] at hpiece
    subst hpiece
    exact hwidth ▸ hfits hne
  | cons character line ih =>
    rw [wrapFrom] at h
    obtain ⟨key, hkey, h⟩ := bind_eq_ok.1 h
    have hadvance : advanceOf faces chain character = faces.getlength key [character] := by
      rw [advanceOf, hkey]
    simp only [← hadvance] at h
    split at h
    · cases h
    · rename_i hnarrow
      rw [not_lt] at hnarrow
      split at h
      · rename_i hbreak
        obtain ⟨rest, hrest, h⟩ := bind_eq_ok.1 h
        cases h
        obtain ⟨hwrapped, more, hmore⟩ := ih (by simp [pieceWidth]) (fun _ => hnarrow) hrest
        refine ⟨⟨?_, ?_, ?_⟩, [], by simp⟩
        · rw [List.flatten_cons, hwrapped.flatten]
          rfl
        · rw [List.forall_mem_cons]
          exact ⟨fun hne => hwidth ▸ hfits hne, hwrapped.fits⟩
        · cases rest with
          | nil => cases hmore
          | cons next rest =>
            cases hmore
            exact .cons_cons ⟨character, rfl, hwidth ▸ hbreak.2⟩ hwrapped.full
      · rename_i hjoin
        have hroom : width + advanceOf faces chain character ≤ wrapWidth := by
          by_cases hne : current = []
          · subst hne
            rw [hwidth]
            simpa [pieceWidth] using hnarrow
          · exact le_of_not_gt fun hgt => hjoin ⟨hne, hgt⟩
        obtain ⟨hwrapped, more, hmore⟩ := ih (by simp [hwidth, pieceWidth]) (fun _ => hroom) h
        rw [List.append_assoc] at hwrapped hmore
        exact ⟨hwrapped, _, hmore⟩

variable (faces chain) in
/-- The runs are those of the text, each of one face, as long as they can be. -/
structure Segmented (text : List Char) (runs : List (TextRun Key)) : Prop where
  flatten : (runs.map (·.text)).flatten = text
  covered : ∀ run ∈ runs, run.text ≠ [] ∧ ∀ character ∈ run.text,
    chain.faceFor faces character = .ok run.fontKey
  maximal : (runs.map (·.fontKey)).IsChain (· ≠ ·)

theorem segmentFrom_spec [DecidableEq Key] {runs segmented : List (TextRun Key)}
    {before text : List Char} (hruns : Segmented faces chain before runs.reverse)
    (h : segmentFrom faces chain runs text = .ok segmented) :
    Segmented faces chain (before ++ text) segmented := by
  induction text generalizing runs before with
  | nil =>
    cases h
    rw [List.append_nil]
    exact hruns
  | cons character text ih =>
    rw [segmentFrom] at h
    obtain ⟨key, hkey, h⟩ := bind_eq_ok.1 h
    rw [show before ++ character :: text = (before ++ [character]) ++ text by simp]
    cases runs with
    | nil =>
      have hnil : before = [] := hruns.flatten.symm
      subst hnil
      exact ih ⟨rfl, by simp [hkey], .singleton _⟩ h
    | cons last earlier =>
      have hflatten := hruns.flatten
      have hmaximal := hruns.maximal
      have hcovered := hruns.covered
      simp only [List.reverse_cons, List.map_append, List.flatten_append, List.map_cons,
        List.map_nil, List.flatten_cons, List.flatten_nil, List.append_nil] at hflatten hmaximal
      rw [List.reverse_cons, List.forall_mem_append, List.forall_mem_singleton] at hcovered
      obtain ⟨hearlier, hne, hlast⟩ := hcovered
      simp only at h
      split at h
      · rename_i hsame
        subst hsame
        refine ih ⟨?_, ?_, ?_⟩ h
        · simp [← hflatten]
        · rw [List.reverse_cons, List.forall_mem_append, List.forall_mem_singleton,
            List.forall_mem_append, List.forall_mem_singleton]
          exact ⟨hearlier, by simp, hlast, hkey⟩
        · simpa using hmaximal
      · rename_i hother
        refine ih ⟨?_, ?_, ?_⟩ h
        · simp [← hflatten]
        · rw [List.reverse_cons, List.reverse_cons, List.forall_mem_append, List.forall_mem_append,
            List.forall_mem_singleton, List.forall_mem_singleton]
          exact ⟨⟨hearlier, hne, hlast⟩, by simp [hkey]⟩
        · rw [List.reverse_cons, List.map_append]
          refine hruns.maximal.append (.singleton _) fun x hx y hy => ?_
          rw [List.reverse_cons, List.map_append, List.map_singleton, List.getLast?_concat] at hx
          cases hx
          cases hy
          exact hother

theorem segmentRuns_spec [DecidableEq Key] {text : List Char} {runs : List (TextRun Key)}
    (h : segmentRuns faces chain text = .ok runs) : Segmented faces chain text runs :=
  @segmentFrom_spec _ _ _ _ [] _ [] _ ⟨rfl, nofun, .nil⟩ h

end

/-! ## The sides of the canvas -/

section

theorem le_foldl_max (first : ℚ) (rest : List ℚ) :
    ∀ q ∈ first :: rest, q ≤ rest.foldl max first := by
  induction rest generalizing first with
  | nil => simp
  | cons next rest ih =>
    intro q hq
    have hnext := ih (max first next)
    rcases List.mem_cons.1 hq with rfl | hq
    · exact (le_max_left q next).trans (hnext _ List.mem_cons_self)
    · rcases List.mem_cons.1 hq with rfl | hq
      · exact (le_max_right first q).trans (hnext _ List.mem_cons_self)
      · exact hnext q (List.mem_cons_of_mem _ hq)

variable {style : CaptionRenderStyle Key}

/-- The lines are placed one after the other, centred. -/
theorem mem_place {text baseline : ℚ} {lines : List (LaidOutLine Key)} {p : PlacedLine Key} :
    p ∈ place style text baseline lines ↔ ∃ before line after, lines = before ++ line :: after ∧
      p = { line, left := style.strokePx + (text - line.width) / 2,
            baseline := baseline + steps style before } := by
  induction lines generalizing baseline with
  | nil => simp [place]
  | cons first lines ih =>
    rw [place, List.mem_cons, ih]
    constructor
    · rintro (rfl | ⟨before, line, after, rfl, rfl⟩)
      · exact ⟨[], first, lines, rfl, by simp [steps]⟩
      · refine ⟨first :: before, line, after, rfl, ?_⟩
        simp only [steps, List.map_cons, List.sum_cons, Int.cast_add, add_assoc]
    · rintro ⟨before, line, after, hlines, rfl⟩
      cases before with
      | nil =>
        cases hlines
        exact .inl (by simp [steps])
      | cons _ before =>
        cases hlines
        refine .inr ⟨before, line, after, rfl, ?_⟩
        simp only [steps, List.map_cons, List.sum_cons, Int.cast_add, add_assoc]

/-- On the left and on the right there is room for every line and its stroke. -/
theorem sides_inside {first line : LaidOutLine Key} {rest : List (LaidOutLine Key)}
    (h : line ∈ first :: rest) :
    let text := textWidth first rest
    let left := style.strokePx + (text - line.width) / 2
    0 ≤ left - style.strokePx ∧
      left + line.width + style.strokePx ≤ (⌈text⌉ + 2 * style.strokePx : ℤ) := by
  intro text left
  have hwidth : line.width ≤ text := by
    have hle := le_foldl_max first.width (rest.map (·.width)) line.width
    rw [← List.map_cons] at hle
    exact hle (List.mem_map_of_mem h)
  have hceil := Int.le_ceil text
  push_cast
  constructor <;> simp only [left] <;> linarith

end

end AutomationTool.Executor.CaptionLayout
