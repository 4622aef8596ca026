import Mathlib

/-!
# POSIX paths

A path as `pathlib` keeps it: up to two leading slashes and the parts between
slashes, without empty ones and without `.`; `..` is a part like any other.

* `ofText_text`: a path is read back from its text.
-/
namespace AutomationTool

structure PosixPath where
  slashes : Nat
  parts : List (List Char)
  anchored : slashes ≤ 2
  plain : ∀ p ∈ parts, p ≠ [] ∧ p ≠ ['.'] ∧ '/' ∉ p
deriving DecidableEq

namespace PosixPath

/-- The separated text of a list of parts. -/
def joined (parts : List (List Char)) : List Char := ['/'].intercalate parts

/-- `os.fspath`. -/
def text (p : PosixPath) : List Char :=
  if p.slashes = 0 ∧ p.parts = [] then ['.']
  else List.replicate p.slashes '/' ++ joined p.parts

/-- The slashes a path keeps in front: exactly two of them are kept, any other number is one. -/
def leading : List Char → Nat
  | '/' :: '/' :: '/' :: _ => 1
  | '/' :: '/' :: _ => 2
  | '/' :: _ => 1
  | _ => 0

theorem leading_le (t : List Char) : leading t ≤ 2 := by
  unfold leading
  split <;> omega

def splitParts (t : List Char) : List (List Char) :=
  (t.splitOn '/').filter fun p => p ≠ [] ∧ p ≠ ['.']

theorem not_mem_splitOn {c : Char} {t p : List Char} (h : p ∈ t.splitOn c) : c ∉ p := by
  induction t generalizing p with
  | nil =>
    rw [List.splitOn_nil, List.mem_singleton] at h
    simp [h]
  | cons x t ih =>
    rw [List.splitOn_cons_eq_if_modifyHead] at h
    split at h
    · rcases List.mem_cons.1 h with rfl | h
      · exact List.not_mem_nil
      · exact ih h
    · rename_i hx
      cases ht : t.splitOn c with
      | nil => exact absurd ht (List.splitOn_ne_nil c t)
      | cons q qs =>
        rw [ht, List.modifyHead_cons] at h
        rcases List.mem_cons.1 h with rfl | h
        · have hq : c ∉ q := ih (by rw [ht]; exact List.mem_cons_self)
          rw [List.mem_cons, not_or]
          exact ⟨fun hc => hx (by simp [hc]), hq⟩
        · exact ih (by rw [ht]; exact List.mem_cons_of_mem _ h)

theorem splitParts_plain (t : List Char) :
    ∀ p ∈ splitParts t, p ≠ [] ∧ p ≠ ['.'] ∧ '/' ∉ p := by
  intro p hp
  obtain ⟨hmem, hkept⟩ := List.mem_filter.1 hp
  obtain ⟨hne, hdot⟩ := of_decide_eq_true hkept
  exact ⟨hne, hdot, not_mem_splitOn hmem⟩

/-- `Path(text)`. -/
def ofText (t : List Char) : PosixPath where
  slashes := leading t
  parts := splitParts t
  anchored := leading_le t
  plain := splitParts_plain t

def isAbsolute (p : PosixPath) : Prop := p.slashes ≠ 0

instance (p : PosixPath) : Decidable p.isAbsolute := inferInstanceAs (Decidable (_ ≠ _))

/-- `p.joinpath(*parts)` of relative texts without `/` in front. -/
def joinParts (p : PosixPath) (t : List Char) : PosixPath where
  slashes := p.slashes
  parts := p.parts ++ splitParts t
  anchored := p.anchored
  plain q hq := (List.mem_append.1 hq).elim (p.plain q) (splitParts_plain t q)

theorem splitOn_replicate (k : Nat) (t : List Char) :
    (List.replicate k '/' ++ t).splitOn '/' = List.replicate k [] ++ t.splitOn '/' := by
  induction k with
  | zero => rfl
  | succ k ih =>
    rw [List.replicate_succ, List.cons_append, List.splitOn_cons_eq_if_modifyHead,
      if_pos (by simp), ih]
    rfl

/-- The parts are read back, whatever stands in front of them. -/
theorem splitParts_joined (p : PosixPath) (k : Nat) :
    splitParts (List.replicate k '/' ++ joined p.parts) = p.parts := by
  have hself : p.parts.filter (fun q => q ≠ [] ∧ q ≠ ['.']) = p.parts :=
    List.filter_eq_self.2 fun q hq => by simp [(p.plain q hq).1, (p.plain q hq).2.1]
  unfold splitParts joined
  rw [splitOn_replicate, List.filter_append, List.filter_eq_nil_iff.2 (by simp +contextual),
    List.nil_append]
  cases hp : p.parts with
  | nil => rfl
  | cons q qs =>
    rw [List.splitOn_intercalate '/' (fun r hr => (p.plain r (hp ▸ hr)).2.2) (by simp), ← hp, hself]

/-- No slash in front of the first part, so the leading ones are all there are. -/
theorem leading_text (p : PosixPath) :
    leading (List.replicate p.slashes '/' ++ joined p.parts) = p.slashes := by
  have hhead : ∀ t, joined p.parts ≠ '/' :: t := by
    intro t ht
    cases hp : p.parts with
    | nil => simp [hp, joined] at ht
    | cons q qs =>
      obtain ⟨hne, -, hclean⟩ := p.plain q (hp ▸ List.mem_cons_self)
      cases q with
      | nil => exact hne rfl
      | cons c q =>
        have hc : c = '/' := by
          rw [hp, joined] at ht
          cases qs <;> simp at ht <;> exact ht.1
        exact hclean (hc ▸ List.mem_cons_self)
  have hle := p.anchored
  generalize joined p.parts = t at hhead
  have hcases : p.slashes = 0 ∨ p.slashes = 1 ∨ p.slashes = 2 := by omega
  rcases hcases with hk | hk | hk <;> rw [hk]
  · cases t with
    | nil => rfl
    | cons c t =>
      have hc : c ≠ '/' := fun hc => hhead t (hc ▸ rfl)
      simp [leading, hc]
  · cases t with
    | nil => rfl
    | cons c t =>
      have hc : c ≠ '/' := fun hc => hhead t (hc ▸ rfl)
      simp [leading, hc]
  · cases t with
    | nil => rfl
    | cons c t =>
      have hc : c ≠ '/' := fun hc => hhead t (hc ▸ rfl)
      simp [leading, List.replicate_succ]

@[ext] theorem ext {p q : PosixPath} (hs : p.slashes = q.slashes) (hp : p.parts = q.parts) :
    p = q := by
  cases p
  cases q
  cases hs
  cases hp
  rfl

/-- A path is read back from its text. -/
theorem ofText_text (p : PosixPath) : ofText p.text = p := by
  by_cases h : p.slashes = 0 ∧ p.parts = []
  · rw [text, if_pos h]
    ext1
    · rw [h.1]
      rfl
    · rw [h.2]
      rfl
  · rw [text, if_neg h]
    ext1
    · exact leading_text p
    · exact splitParts_joined p p.slashes

end PosixPath

end AutomationTool
