import Mathlib

/-!
# Hexadecimal text

Fixed-width lower-case hexadecimal, and the hyphenated text of a 128-bit number.

* `read_digits`: what is written is read back.
* `ofHyphenated_hyphenated`: so is a number in five groups.
-/
namespace AutomationTool.Hex

def digit (n : Nat) : Char := Char.ofNat (if n < 10 then 48 + n else 87 + n)

def value (c : Char) : Option Nat :=
  if '0' ≤ c ∧ c ≤ '9' then some (c.toNat - 48)
  else if 'a' ≤ c ∧ c ≤ 'f' then some (c.toNat - 87)
  else none

theorem value_digit {n : Nat} (hn : n < 16) : value (digit n) = some n := by
  have hall : ∀ n < 16, value (digit n) = some n := by decide
  exact hall n hn

theorem digit_ne_hyphen {n : Nat} (hn : n < 16) : digit n ≠ '-' := by
  have hall : ∀ n < 16, digit n ≠ '-' := by decide
  exact hall n hn

/-- The last `k` digits of a number. -/
def digits : Nat → Nat → List Char
  | 0, _ => []
  | k + 1, n => digits k (n / 16) ++ [digit (n % 16)]

def read (text : List Char) : Option Nat :=
  text.foldlM (fun n c => (value c).map (16 * n + ·)) 0

theorem length_digits (k n : Nat) : (digits k n).length = k := by
  induction k generalizing n with
  | zero => rfl
  | succ k ih => rw [digits, List.length_append, ih, List.length_singleton]

theorem mem_digits {k n : Nat} {c : Char} (h : c ∈ digits k n) : ∃ d < 16, c = digit d := by
  induction k generalizing n with
  | zero => exact absurd h List.not_mem_nil
  | succ k ih =>
    rcases List.mem_append.1 h with h | h
    · exact ih h
    · exact ⟨n % 16, Nat.mod_lt _ (by decide), List.mem_singleton.1 h⟩

/-- What is written is read back. -/
theorem read_digits {k n : Nat} (h : n < 16 ^ k) : read (digits k n) = some n := by
  induction k generalizing n with
  | zero =>
    have : n = 0 := by simpa using h
    rw [this]
    rfl
  | succ k ih =>
    have hdiv : n / 16 < 16 ^ k := by
      rw [Nat.div_lt_iff_lt_mul (by decide), ← Nat.pow_succ]
      exact h
    have hread := ih hdiv
    unfold read at hread ⊢
    have hvalue := value_digit (Nat.mod_lt n (by decide : 0 < 16))
    rw [digits, List.foldlM_append, hread]
    simp only [Option.bind_eq_bind, Option.bind_some, List.foldlM_cons, List.foldlM_nil, hvalue,
      Option.map_some, Option.pure_def]
    congr 1
    omega

/-! ## Five groups -/

/-- Thirty-two digits in groups of 8, 4, 4, 4 and 12. -/
def groups (ds : List Char) : List (List Char) :=
  [ds.take 8, (ds.drop 8).take 4, (ds.drop 12).take 4, (ds.drop 16).take 4, ds.drop 20]

/-- `8-4-4-4-12`. -/
def hyphenated (n : Nat) : List Char := ['-'].intercalate (groups (digits 32 n))

def ofHyphenated (text : List Char) : Option Nat :=
  let parts := text.splitOn '-'
  if parts.map List.length = [8, 4, 4, 4, 12] then read parts.flatten else none

theorem flatten_groups (ds : List Char) : (groups ds).flatten = ds := by
  have hstep (k n : Nat) : (ds.drop k).take n ++ ds.drop (k + n) = ds.drop k := by
    rw [← List.drop_drop, List.take_append_drop]
  show ds.take 8 ++ ((ds.drop 8).take 4 ++ ((ds.drop 12).take 4 ++
    ((ds.drop 16).take 4 ++ (ds.drop 20 ++ [])))) = ds
  rw [List.append_nil, hstep 16 4, hstep 12 4, hstep 8 4, List.take_append_drop]

/-- A number is read back from its groups. -/
theorem ofHyphenated_hyphenated {n : Nat} (h : n < 2 ^ 128) : ofHyphenated (hyphenated n) = some n := by
  have hlen := length_digits 32 n
  have hclean : ∀ part ∈ groups (digits 32 n), '-' ∉ part := by
    intro part hpart hmem
    have hin : '-' ∈ (groups (digits 32 n)).flatten := List.mem_flatten_of_mem hpart hmem
    rw [flatten_groups] at hin
    obtain ⟨d, hd, heq⟩ := mem_digits hin
    exact digit_ne_hyphen hd heq.symm
  have hsplit : (hyphenated n).splitOn '-' = groups (digits 32 n) :=
    List.splitOn_intercalate '-' hclean (by simp [groups])
  have hshape : (groups (digits 32 n)).map List.length = [8, 4, 4, 4, 12] := by
    simp [groups, hlen]
  unfold ofHyphenated
  simp only [hsplit, hshape, if_true, flatten_groups]
  exact read_digits (by rw [show 16 ^ 32 = 2 ^ 128 by decide]; exact h)

theorem hyphenated_injective {m n : Nat} (hm : m < 2 ^ 128) (hn : n < 2 ^ 128)
    (h : hyphenated m = hyphenated n) : m = n := by
  have := ofHyphenated_hyphenated hm
  rw [h, ofHyphenated_hyphenated hn] at this
  exact (Option.some.inj this).symm

theorem length_hyphenated (n : Nat) : (hyphenated n).length = 36 := by
  simp [hyphenated, groups, List.intercalate, length_digits]

/-- What the text of a number is made of. -/
theorem mem_hyphenated (n : Nat) : ∀ c ∈ hyphenated n, c = '-' ∨ ∃ d < 16, c = digit d := by
  have hdigit : ∀ c ∈ digits 32 n, c = '-' ∨ ∃ d < 16, c = digit d := fun c hc => .inr (mem_digits hc)
  rw [hyphenated]
  generalize digits 32 n = ds at hdigit ⊢
  have htake : ∀ k, ∀ c ∈ ds.take k, c = '-' ∨ ∃ d < 16, c = digit d :=
    fun k c hc => hdigit c (List.mem_of_mem_take hc)
  have hdrop : ∀ k, ∀ c ∈ ds.drop k, c = '-' ∨ ∃ d < 16, c = digit d :=
    fun k c hc => hdigit c (List.mem_of_mem_drop hc)
  have hpart : ∀ k m, ∀ c ∈ (ds.drop k).take m, c = '-' ∨ ∃ d < 16, c = digit d :=
    fun k m c hc => hdrop k c (List.mem_of_mem_take hc)
  simp only [groups, List.intercalate_cons_cons, List.intercalate_singleton,
    List.forall_mem_append, List.forall_mem_singleton]
  and_intros
  all_goals first
    | exact htake 8
    | exact hpart _ _
    | exact hdrop 20
    | exact .inl trivial

-- Without this a unifier that compares two texts computes their digits.
attribute [irreducible] hyphenated

end AutomationTool.Hex
