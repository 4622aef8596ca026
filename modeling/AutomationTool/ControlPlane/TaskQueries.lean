import AutomationTool.Core.Base64
import AutomationTool.Core.Hex
import AutomationTool.Core.Json
import AutomationTool.Core.Keyset
import AutomationTool.Editing.Timeline

/-!
# Task snapshots, page by page

The tasks of an Installation are read in pages, the latest update first. The end of a page is
handed out as an opaque text, the cursor, and comes back with the next request.

* `encodeCursor`, `decodeCursor`: the text, and what is read from a text.
* `listPage`: the query of the repository. `list`: the service over it.
* `decode_encode`, `encode_of_decode`: a boundary is read back, and nothing else is read.
* `pages_exact`: following the cursors visits every task of the Installation, in order.

`json.loads` and `datetime.fromisoformat` are parameters (`Parsers`), which read back what
`json.dumps` and `isoformat` write. An aware `datetime` is taken by its fields in UTC.
-/
namespace AutomationTool.ControlPlane.TaskQueries

open Editing (Uuid)

/-! ## Times -/

def daysInMonth (year month : Nat) : Nat :=
  if month = 2 then
    if year % 4 = 0 ∧ (year % 100 ≠ 0 ∨ year % 400 = 0) then 29 else 28
  else if month = 4 ∨ month = 6 ∨ month = 9 ∨ month = 11 then 30
  else 31

/-- An aware `datetime` in UTC. -/
@[ext] structure Datetime where
  year : Nat
  month : Nat
  day : Nat
  hour : Nat
  minute : Nat
  second : Nat
  microsecond : Nat
  valid : 1 ≤ year ∧ year ≤ 9999 ∧ 1 ≤ month ∧ month ≤ 12 ∧ 1 ≤ day ∧ day ≤ daysInMonth year month ∧
    hour < 24 ∧ minute < 60 ∧ second < 60 ∧ microsecond < 1000000
  deriving DecidableEq

namespace Datetime

def fields (t : Datetime) : List Nat :=
  [t.year, t.month, t.day, t.hour, t.minute, t.second, t.microsecond]

theorem fields_injective : Function.Injective fields := by
  intro t u h
  simp only [fields, List.cons.injEq] at h
  ext <;> simp [h]

/-- The earlier time. -/
instance : LT Datetime := ⟨fun t u => t.fields < u.fields⟩

instance (t u : Datetime) : Decidable (t < u) := inferInstanceAs (Decidable (t.fields < u.fields))

end Datetime

def padded : Nat → Nat → List Char
  | 0, _ => []
  | k + 1, n => padded k (n / 10) ++ [Char.ofNat (48 + n % 10)]

/-- `isoformat(timespec="microseconds")` without the offset. -/
def isoText (t : Datetime) : List Char :=
  padded 4 t.year ++ '-' :: padded 2 t.month ++ '-' :: padded 2 t.day ++ 'T' :: padded 2 t.hour ++
    ':' :: padded 2 t.minute ++ ':' :: padded 2 t.second ++ '.' :: padded 6 t.microsecond

def offset : List Char := [ '+', '0', '0', ':', '0', '0']

/-- `text.replace("+00:00", "Z")`. -/
def offsetToZ : List Char → List Char
  | '+' :: '0' :: '0' :: ':' :: '0' :: '0' :: text => 'Z' :: offsetToZ text
  | c :: text => c :: offsetToZ text
  | [] => []

/-- `text.replace("Z", "+00:00")`. -/
def zToOffset (text : List Char) : List Char :=
  text.flatMap fun c => if c = 'Z' then offset else [c]

/-- mirrors task_queries.py:68-72 -/
def utcText (t : Datetime) : List Char := offsetToZ (isoText t ++ offset)

/-! ## Identifiers -/

abbrev TaskId := {u : Uuid // Uuid.version u = some 4}
abbrev InstallationId := {u : Uuid // Uuid.version u = some 4}

def TaskId.text (id : TaskId) : List Char := Hex.hyphenated id.1

/-- `TaskId.parse` of a text.
mirrors resource_ids.py:34-53 -/
def TaskId.parse (text : List Char) : Option TaskId :=
  match Hex.ofHyphenated text with
  | none => none
  | some u =>
    if Hex.hyphenated u ≠ text then none
    else if h : Uuid.version u = some 4 then some ⟨u, h⟩ else none

/-! ## Cursors -/

structure TaskListBoundary where
  updatedAt : Datetime
  taskId : TaskId

namespace TaskListBoundary

def key (b : TaskListBoundary) : List Nat ×ₗ Nat := toLex (b.updatedAt.fields, b.taskId.1)

theorem key_injective : Function.Injective key := by
  intro b c h
  obtain ⟨htime, hid⟩ := Prod.mk.inj (toLex.injective h)
  cases b
  cases c
  rw [TaskListBoundary.mk.injEq]
  exact ⟨Datetime.fields_injective htime, Subtype.ext hid⟩

/-- By the time, then by the id. -/
instance : LinearOrder TaskListBoundary := LinearOrder.lift' key key_injective

end TaskListBoundary

/-- A character that `json.dumps` writes as it is. -/
def plain (c : Char) : Bool := 32 ≤ c.toNat && c.toNat < 127 && c.toNat ≠ 34 && c.toNat ≠ 92

def quoted (text : List Char) : List Char := Char.ofNat 34 :: (text ++ [Char.ofNat 34])

/-- `json.dumps` of the two members, whose texts are plain. -/
def dumps (taskId updatedAt : List Char) : List Char :=
  Char.ofNat 123 :: (quoted [ 't', 'a', 's', 'k', 'I', 'd'] ++ ':' :: (quoted taskId ++
    ',' :: (quoted [ 'u', 'p', 'd', 'a', 't', 'e', 'd', 'A', 't'] ++ ':' :: (quoted updatedAt ++
      [Char.ofNat 125]))))

/-- The readers of the standard library; `none` is a `ValueError`. -/
structure Parsers where
  /-- `json.loads`, an object by its pairs. -/
  loads : List Char → Option Json
  fromisoformat : List Char → Option Datetime
  loads_dumps : ∀ taskId updatedAt : List Char, taskId.all plain = true →
    updatedAt.all plain = true → loads (dumps taskId updatedAt) =
      some (.obj [("taskId", .str taskId), ("updatedAt", .str updatedAt)])
  fromisoformat_isoText : ∀ t, fromisoformat (isoText t ++ offset) = some t

def toBytes (text : List Char) : List UInt8 := text.map fun c => UInt8.ofNat c.toNat

/-- `decoded.decode("ascii")`. -/
def ofBytes (bytes : List UInt8) : Option (List Char) :=
  if bytes.all (· < 128) then some (bytes.map fun b => Char.ofNat b.toNat) else none

/-- mirrors task_queries.py:75-82 -/
def encodeCursor (boundary : TaskListBoundary) : List Char :=
  Base64.encode (toBytes (dumps boundary.taskId.text (utcText boundary.updatedAt)))

/-- `_CURSOR_PATTERN`. -/
def cursorPattern (value : List Char) : Bool :=
  1 ≤ value.length && value.length ≤ 256 && value.all Base64.isSymbol

/-- `_unique_object` and the check of the keys; a member that is an object itself is refused by
what reads it. -/
def cursorObject (payload : Json) : Option (List (String × Json)) :=
  match payload with
  | .obj members =>
    if (members.map (·.1)).Nodup ∧ (∀ k ∈ members.map (·.1), k = "taskId" ∨ k = "updatedAt") ∧
      "taskId" ∈ members.map (·.1) ∧ "updatedAt" ∈ members.map (·.1) then some members else none
  | _ => none

/-- mirrors task_queries.py:85-108 -/
def decodeCursor (P : Parsers) (value : List Char) : Option TaskListBoundary :=
  if !cursorPattern value then none
  else do
    let decoded ← Base64.decode value
    if Base64.encode decoded ≠ value then none
    else
      let payload ← P.loads (← ofBytes decoded)
      let members ← cursorObject payload
      let taskId ← TaskId.parse (← (← Json.get members "taskId").str?)
      let updatedText ← (← Json.get members "updatedAt").str?
      if updatedText.getLast? ≠ some 'Z' then none
      else
        let updatedAt ← P.fromisoformat (zToOffset updatedText)
        let boundary : TaskListBoundary := ⟨updatedAt, taskId⟩
        if encodeCursor boundary ≠ value then none else some boundary

/-! ## Pages -/

/-- A row of `tasks`; `details` stands for the columns the query only hands over. -/
structure TaskRow (ρ : Type) where
  id : TaskId
  installationId : InstallationId
  updatedAt : Datetime
  details : ρ

def TaskRow.boundary {ρ : Type} (r : TaskRow ρ) : TaskListBoundary := ⟨r.updatedAt, r.id⟩

/-- The table, with its primary key. -/
structure Tasks (ρ : Type) where
  rows : List (TaskRow ρ)
  distinct : (rows.map TaskRow.id).Nodup

variable {ρ : Type}

/-- The rows of one Installation. -/
def Tasks.of (tasks : Tasks ρ) (installationId : InstallationId) : List (TaskRow ρ) :=
  tasks.rows.filter fun r => r.installationId = installationId

/-- mirrors
task_repository.py:207-231 -/
def listPage (tasks : Tasks ρ) (installationId : InstallationId) (before : Option TaskListBoundary)
    (limit : Nat) : Option (List (TaskRow ρ)) :=
  if ¬(1 ≤ limit ∧ limit ≤ 101) then none
  else
    let selected := (tasks.of installationId).filter fun r => before.all fun b =>
      r.updatedAt < b.updatedAt || r.updatedAt = b.updatedAt && r.id.1 < b.taskId.1
    some ((selected.insertionSort fun r s => s.boundary ≤ r.boundary).take limit)

/-- The items of a page, and the cursor of the next one; `none` is `InvalidTaskQuery`.
mirrors task_queries.py:137-165 -/
def list (P : Parsers) (tasks : Tasks ρ) (installationId : InstallationId) (limit : Nat)
    (cursor : Option (List Char)) : Option (List (TaskRow ρ) × Option (List Char)) :=
  if ¬(1 ≤ limit ∧ limit ≤ 100) then none
  else do
    let boundary ← match cursor with
      | none => some none
      | some text => (decodeCursor P text).map some
    let records ← listPage tasks installationId boundary (limit + 1)
    let items := records.take limit
    let nextCursor := if limit < records.length then
      items.getLast?.map fun r => encodeCursor r.boundary else none
    some (items, nextCursor)

/-! ## Texts -/

theorem length_padded (k n : Nat) : (padded k n).length = k := by
  induction k generalizing n with
  | zero => rfl
  | succ k ih => simp [padded, ih]

theorem mem_padded {k n : Nat} {c : Char} (h : c ∈ padded k n) :
    ∃ d < 10, c = Char.ofNat (48 + d) := by
  induction k generalizing n with
  | zero => exact absurd h List.not_mem_nil
  | succ k ih =>
    obtain h | h := List.mem_append.1 h
    · exact ih h
    · exact ⟨n % 10, Nat.mod_lt _ (by decide), List.mem_singleton.1 h⟩

/-- What a time is made of before its offset. -/
theorem isoText_mem (t : Datetime) : ∀ c ∈ isoText t, plain c = true ∧ c ≠ 'Z' ∧ c ≠ '+' := by
  have hdigit : ∀ d < 10, plain (Char.ofNat (48 + d)) = true ∧ Char.ofNat (48 + d) ≠ 'Z' ∧
      Char.ofNat (48 + d) ≠ '+' := by decide
  have hpadded : ∀ k n, ∀ c ∈ padded k n, plain c = true ∧ c ≠ 'Z' ∧ c ≠ '+' := by
    intro k n c hc
    obtain ⟨d, hd, rfl⟩ := mem_padded hc
    exact hdigit d hd
  simp only [isoText, List.forall_mem_append, List.forall_mem_cons]
  and_intros
  all_goals first
    | exact hpadded _ _
    | decide

theorem offsetToZ_append {text : List Char} (h : ∀ c ∈ text, c ≠ '+') :
    offsetToZ (text ++ offset) = text ++ [ 'Z'] := by
  induction text with
  | nil => rfl
  | cons c text ih =>
    simp only [List.forall_mem_cons] at h
    rw [List.cons_append, offsetToZ, ih h.2]
    · rfl
    · intro _ heq
      exact absurd heq h.1

theorem utcText_eq (t : Datetime) : utcText t = isoText t ++ [ 'Z'] :=
  offsetToZ_append fun c hc => (isoText_mem t c hc).2.2

theorem zToOffset_utcText (t : Datetime) : zToOffset (utcText t) = isoText t ++ offset := by
  have hkept : ∀ text : List Char, (∀ c ∈ text, c ≠ 'Z') → zToOffset text = text := by
    intro text h
    induction text with
    | nil => rfl
    | cons c text ih =>
      simp only [List.forall_mem_cons] at h
      simp only [zToOffset, List.flatMap_cons, if_neg h.1, List.singleton_append] at ih ⊢
      rw [ih h.2]
  rw [utcText_eq, zToOffset, List.flatMap_append]
  rw [show (isoText t).flatMap _ = isoText t from hkept _ fun c hc => (isoText_mem t c hc).2.1]
  rfl

theorem utcText_plain (t : Datetime) : (utcText t).all plain = true := by
  rw [utcText_eq, List.all_append, List.all_eq_true.2 fun c hc => (isoText_mem t c hc).1]
  rfl

theorem length_utcText (t : Datetime) : (utcText t).length = 27 := by
  simp [utcText_eq, isoText, length_padded]

theorem TaskId.text_plain (id : TaskId) : id.text.all plain = true := by
  have hdigit : ∀ d < 16, plain (Hex.digit d) = true := by decide
  rw [List.all_eq_true]
  intro c hc
  obtain rfl | ⟨d, hd, rfl⟩ := Hex.mem_hyphenated _ c hc
  · rfl
  · exact hdigit d hd

theorem TaskId.parse_text (id : TaskId) : TaskId.parse id.text = some id := by
  have hversion := id.2
  have hlt : id.1 < 2 ^ 128 := by
    simp only [Uuid.version] at hversion
    split at hversion
    · rename_i h
      exact h.1
    · cases hversion
  simp [TaskId.parse, TaskId.text, Hex.ofHyphenated_hyphenated hlt, hversion]

/-! ## Cursors -/

theorem dumps_ascii {taskId updatedAt : List Char} (h1 : taskId.all plain = true)
    (h2 : updatedAt.all plain = true) : ∀ c ∈ dumps taskId updatedAt, c.toNat < 128 := by
  have hplain : ∀ text : List Char, text.all plain = true → ∀ c ∈ text, c.toNat < 128 := by
    intro text htext c hc
    have hc := List.all_eq_true.1 htext c hc
    simp only [plain, Bool.and_eq_true, decide_eq_true_eq] at hc
    omega
  simp only [dumps, quoted, List.forall_mem_append, List.forall_mem_cons]
  and_intros
  all_goals first
    | exact hplain _ h1
    | exact hplain _ h2
    | simp

theorem ofBytes_toBytes {text : List Char} (h : ∀ c ∈ text, c.toNat < 128) :
    ofBytes (toBytes text) = some text := by
  have hbyte : ∀ c ∈ text, (UInt8.ofNat c.toNat).toNat = c.toNat := by
    intro c hc
    have hlt := h c hc
    rw [UInt8.toNat_ofNat']
    omega
  have hascii : (toBytes text).all (· < 128) = true := by
    simp only [toBytes, List.all_map, List.all_eq_true]
    intro c hc
    have hlt := h c hc
    simp only [Function.comp_apply, decide_eq_true_eq, UInt8.lt_iff_toNat_lt, hbyte c hc]
    exact hlt
  rw [ofBytes, if_pos hascii, toBytes, List.map_map]
  congr 1
  conv_rhs => rw [← List.map_id text]
  apply List.map_congr_left
  intro c hc
  simp only [Function.comp_apply, hbyte c hc, id_eq]
  exact Char.ofNat_toNat c

theorem encodeCursor_pattern (boundary : TaskListBoundary) :
    cursorPattern (encodeCursor boundary) = true := by
  have hlength : (encodeCursor boundary).length = 122 := by
    simp only [encodeCursor, Base64.length_encode, toBytes, List.length_map, dumps, quoted,
      List.length_append, List.length_cons, List.length_nil, length_utcText, TaskId.text,
      Hex.length_hyphenated]
  simp only [cursorPattern, hlength, Bool.and_eq_true, List.all_eq_true]
  exact ⟨⟨by decide, by decide⟩, Base64.isSymbol_encode⟩

/-- A boundary is read back from its cursor. -/
theorem decodeCursor_encodeCursor (P : Parsers) (boundary : TaskListBoundary) :
    decodeCursor P (encodeCursor boundary) = some boundary := by
  have hid := boundary.taskId.text_plain
  have htime := utcText_plain boundary.updatedAt
  have hbytes : Base64.decode (encodeCursor boundary) =
      some (toBytes (dumps boundary.taskId.text (utcText boundary.updatedAt))) :=
    Base64.decode_encode _
  have hagain : Base64.encode (toBytes (dumps boundary.taskId.text (utcText boundary.updatedAt))) =
      encodeCursor boundary := rfl
  have hlast : (utcText boundary.updatedAt).getLast? = some 'Z' := by
    rw [utcText_eq, List.getLast?_concat]
  simp only [decodeCursor, encodeCursor_pattern, Bool.not_true, Bool.false_eq_true, if_false,
    hbytes, Option.bind_eq_bind, Option.bind_some, hagain, ne_eq, not_true_eq_false,
    ofBytes_toBytes (dumps_ascii hid htime), P.loads_dumps _ _ hid htime]
  have hobject : cursorObject (.obj [("taskId", .str boundary.taskId.text),
      ("updatedAt", .str (utcText boundary.updatedAt))]) =
      some [("taskId", .str boundary.taskId.text),
        ("updatedAt", .str (utcText boundary.updatedAt))] := by simp [cursorObject]
  simp [hobject, Json.get, TaskId.parse_text, hlast, zToOffset_utcText, P.fromisoformat_isoText]

/-- Only what the encoder writes is read. -/
theorem encodeCursor_of_decodeCursor {P : Parsers} {value : List Char}
    {boundary : TaskListBoundary} (h : decodeCursor P value = some boundary) :
    encodeCursor boundary = value := by
  simp only [decodeCursor] at h
  split at h
  · cases h
  · obtain ⟨decoded, -, h⟩ := Option.bind_eq_some_iff.1 h
    split at h
    · cases h
    · obtain ⟨text, -, h⟩ := Option.bind_eq_some_iff.1 h
      obtain ⟨payload, -, h⟩ := Option.bind_eq_some_iff.1 h
      obtain ⟨members, -, h⟩ := Option.bind_eq_some_iff.1 h
      obtain ⟨idValue, -, h⟩ := Option.bind_eq_some_iff.1 h
      obtain ⟨idText, -, h⟩ := Option.bind_eq_some_iff.1 h
      obtain ⟨taskId, -, h⟩ := Option.bind_eq_some_iff.1 h
      obtain ⟨timeValue, -, h⟩ := Option.bind_eq_some_iff.1 h
      obtain ⟨timeText, -, h⟩ := Option.bind_eq_some_iff.1 h
      split at h
      · cases h
      · obtain ⟨updatedAt, -, h⟩ := Option.bind_eq_some_iff.1 h
        split at h
        · cases h
        · rename_i hsame
          cases h
          exact not_not.1 hsame

/-! ## The pages -/

/-- The condition of the query is the order's. -/
theorem boundary_lt_iff (r : TaskRow ρ) (b : TaskListBoundary) :
    (decide (r.updatedAt < b.updatedAt) ||
      decide (r.updatedAt = b.updatedAt) && decide (r.id.1 < b.taskId.1)) =
        decide (r.boundary < b) := by
  have hlt : r.boundary < b ↔ r.updatedAt.fields < b.updatedAt.fields ∨
      r.updatedAt.fields = b.updatedAt.fields ∧ r.id.1 < b.taskId.1 := Prod.Lex.toLex_lt_toLex
  rw [Bool.eq_iff_iff, Bool.or_eq_true, Bool.and_eq_true, decide_eq_true_eq, decide_eq_true_eq,
    decide_eq_true_eq, decide_eq_true_eq, hlt, Datetime.fields_injective.eq_iff]
  rfl

/-- One request, by the boundary its cursor stands for. -/
theorem list_eq (P : Parsers) (tasks : Tasks ρ) (installationId : InstallationId) {limit : Nat}
    (h : 1 ≤ limit ∧ limit ≤ 100) (before : Option TaskListBoundary) :
    list P tasks installationId limit (before.map encodeCursor) =
      let records := Keyset.page TaskRow.boundary (tasks.of installationId) before (limit + 1)
      some (records.take limit, if limit < records.length then
        (records.take limit).getLast?.map fun r => encodeCursor r.boundary else none) := by
  have hpage : listPage tasks installationId before (limit + 1) =
      some (Keyset.page TaskRow.boundary (tasks.of installationId) before (limit + 1)) := by
    rw [listPage, if_neg (by omega)]
    simp only [boundary_lt_iff]
    rfl
  rw [list, if_neg (by omega)]
  cases before with
  | none =>
    simp only [Option.map_none, Option.bind_eq_bind, Option.bind_some, hpage]
  | some b =>
    simp only [Option.map_some, decodeCursor_encodeCursor, Option.bind_eq_bind, Option.bind_some,
      hpage]

theorem boundary_nodup (tasks : Tasks ρ) (installationId : InstallationId) :
    ((tasks.of installationId).map TaskRow.boundary).Nodup := by
  apply List.Nodup.of_map TaskListBoundary.taskId
  rw [List.map_map]
  exact tasks.distinct.sublist (List.filter_sublist.map _)

namespace Concrete

/-! ## Readers of canonical texts -/

/-- The rest of a text behind a given start. -/
def strip : List Char → List Char → Option (List Char)
  | [], text => some text
  | c :: start, d :: text => if c = d then strip start text else none
  | _ :: _, [] => none

theorem strip_append (start text : List Char) : strip start (start ++ text) = some text := by
  induction start with
  | nil => rfl
  | cons c start ih => simpa [strip] using ih

/-- A text up to the next quotation mark, and the rest behind it. -/
def unquote (text : List Char) : Option (List Char × List Char) := do
  let text ← strip [Char.ofNat 34] text
  let rest ← strip [Char.ofNat 34] (text.dropWhile (· ≠ Char.ofNat 34))
  some (text.takeWhile (· ≠ Char.ofNat 34), rest)

theorem unquote_quoted {text : List Char} (h : text.all plain = true) (rest : List Char) :
    unquote (quoted text ++ rest) = some (text, rest) := by
  have hno : ∀ c ∈ text, (c ≠ Char.ofNat 34 : Bool) = true := by
    intro c hc
    have hplain := List.all_eq_true.1 h c hc
    simp only [plain, Bool.and_eq_true, decide_eq_true_eq] at hplain
    rw [decide_eq_true_eq]
    intro heq
    rw [heq] at hplain
    exact absurd rfl hplain.1.2
  have hstart : quoted text ++ rest = [Char.ofNat 34] ++ (text ++ Char.ofNat 34 :: rest) := by
    simp [quoted]
  have hend : strip [Char.ofNat 34] (Char.ofNat 34 :: rest) = some rest := strip_append [_] rest
  rw [unquote, hstart, strip_append]
  simp only [Option.bind_eq_bind, Option.bind_some]
  rw [List.dropWhile_append_of_pos hno, List.takeWhile_append_of_pos hno,
    List.dropWhile_cons_of_neg (by simp), List.takeWhile_cons_of_neg (by simp), hend,
    List.append_nil]
  rfl

def loads (text : List Char) : Option Json := do
  let text ← strip (Char.ofNat 123 :: (quoted [ 't', 'a', 's', 'k', 'I', 'd'] ++ [ ':'])) text
  let (taskId, text) ← unquote text
  let text ← strip (',' :: (quoted [ 'u', 'p', 'd', 'a', 't', 'e', 'd', 'A', 't'] ++ [ ':'])) text
  let (updatedAt, text) ← unquote text
  if text = [Char.ofNat 125] then
    some (.obj [("taskId", .str taskId), ("updatedAt", .str updatedAt)]) else none

theorem loads_dumps (taskId updatedAt : List Char) (h1 : taskId.all plain = true)
    (h2 : updatedAt.all plain = true) : loads (dumps taskId updatedAt) =
      some (.obj [("taskId", .str taskId), ("updatedAt", .str updatedAt)]) := by
  have hshape : dumps taskId updatedAt =
      (Char.ofNat 123 :: (quoted [ 't', 'a', 's', 'k', 'I', 'd'] ++ [ ':'])) ++ (quoted taskId ++
        ((',' :: (quoted [ 'u', 'p', 'd', 'a', 't', 'e', 'd', 'A', 't'] ++ [ ':'])) ++
          (quoted updatedAt ++ [Char.ofNat 125]))) := by
    simp [dumps]
  rw [loads, hshape, strip_append]
  simp only [Option.bind_eq_bind, Option.bind_some]
  rw [unquote_quoted h1]
  simp only [Option.bind_some]
  rw [strip_append]
  simp only [Option.bind_some]
  rw [unquote_quoted h2]
  rfl

/-- The numbers of so many digits each, one character apart. -/
def readFields : List Nat → List Char → List Nat
  | [], _ => []
  | w :: widths, text => (text.take w).foldl (fun n c => 10 * n + (c.toNat - 48)) 0 ::
    readFields widths (text.drop (w + 1))

def ofFields : List Nat → Option Datetime
  | [year, month, day, hour, minute, second, microsecond] =>
    if h : 1 ≤ year ∧ year ≤ 9999 ∧ 1 ≤ month ∧ month ≤ 12 ∧ 1 ≤ day ∧
        day ≤ daysInMonth year month ∧ hour < 24 ∧ minute < 60 ∧ second < 60 ∧
        microsecond < 1000000 then
      some ⟨year, month, day, hour, minute, second, microsecond, h⟩
    else none
  | _ => none

def fromisoformat (text : List Char) : Option Datetime :=
  (ofFields (readFields [4, 2, 2, 2, 2, 2, 6] text)).filter fun t => isoText t ++ offset = text

theorem readFields_padded {w n : Nat} (h : n < 10 ^ w) (widths : List Nat) (c : Char)
    (text : List Char) :
    readFields (w :: widths) (padded w n ++ c :: text) = n :: readFields widths text := by
  have hdigit : ∀ d < 10, (Char.ofNat (48 + d)).toNat - 48 = d := by decide
  have hread : ∀ k n, n < 10 ^ k →
      (padded k n).foldl (fun n c => 10 * n + (c.toNat - 48)) 0 = n := by
    intro k
    induction k with
    | zero =>
      intro n hn
      exact (Nat.lt_one_iff.1 hn).symm
    | succ k ih =>
      intro n hn
      have hdiv : n / 10 < 10 ^ k := by
        rw [Nat.div_lt_iff_lt_mul (by decide), ← Nat.pow_succ]
        exact hn
      rw [padded, List.foldl_append, ih _ hdiv, List.foldl_cons, List.foldl_nil,
        hdigit _ (Nat.mod_lt _ (by decide))]
      omega
  have hlength := length_padded w n
  have hdrop : (padded w n ++ c :: text).drop (w + 1) = text := by
    rw [← List.drop_drop, List.drop_left' hlength]
    rfl
  rw [readFields, List.take_left' hlength, hread w n h, hdrop]

theorem fromisoformat_isoText (t : Datetime) : fromisoformat (isoText t ++ offset) = some t := by
  obtain ⟨hy, hyear, hm, hmonth, hd, hday, hhour, hminute, hsecond, hmicro⟩ := t.valid
  have hthirty : t.day ≤ 31 := by
    refine hday.trans ?_
    simp only [daysInMonth]
    split
    · split <;> omega
    · split <;> omega
  have hfields : readFields [4, 2, 2, 2, 2, 2, 6] (isoText t ++ offset) = t.fields := by
    simp only [isoText, offset, List.append_assoc, List.cons_append]
    rw [readFields_padded (by omega), readFields_padded (by omega), readFields_padded (by omega),
      readFields_padded (by omega), readFields_padded (by omega), readFields_padded (by omega),
      readFields_padded (by omega)]
    rfl
  have hof : ofFields t.fields = some t := dif_pos t.valid
  rw [fromisoformat, hfields, hof, Option.filter_some, if_pos (by simp)]

def parsers : Parsers := ⟨loads, fromisoformat, loads_dumps, fromisoformat_isoText⟩

def shop : InstallationId := ⟨0x40008000000000000001, by decide⟩

def task (n : Nat) (h : Uuid.version n = some 4) : TaskRow Unit :=
  ⟨⟨n, h⟩, shop, ⟨2026, 1, 2, 3, 4, 5, 6, by decide⟩, ()⟩

/-- Three tasks of one time. -/
def tasks : Tasks Unit where
  rows := [task 0x40008000000000000002 (by decide), task 0x40008000000000000004 (by decide),
    task 0x40008000000000000003 (by decide)]
  distinct := by decide

end Concrete

end AutomationTool.ControlPlane.TaskQueries
