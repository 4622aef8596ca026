import Mathlib

/-!
# The catalog of desktop updates

A release carries a semantic version, and the feed offers the greatest one that is greater than
the version an app runs.

* `SemVersion.parse`, `SemVersion.lt`: `_SemVersion`. Both read decimal texts with `int`, which
  refuses a text of more than 4300 digits; `none` stands for the `ValueError`.
* `SemVersion.precedence`: what the comparison is for, a linear order on versions.
* `Comparable`: the comparison gets through. It then is the precedence (`lt_of_comparable`), and
  else it raises (`lt_of_not_comparable`).
* `DesktopUpdateCatalog.findUpdate`: the selection, `max` over the candidates.
-/
namespace AutomationTool.ControlPlane.DesktopUpdates

/-! ## Texts -/

/-- `sys.int_info.default_max_str_digits`. -/
def maxStrDigits : Nat := 4300

/-- `str.isdigit` of an ASCII text. -/
def isDigits (value : List Char) : Bool := value ≠ [] && value.all Char.isDigit

def decimal (value : List Char) : Nat := value.foldl (fun n c => 10 * n + (c.toNat - 48)) 0

/-- `int(value)` of decimal digits. -/
def int? (value : List Char) : Option Nat :=
  if value.length ≤ maxStrDigits then some (decimal value) else none

/-- `str.partition`; the rest is missing where the separator is. -/
def partition (separator : Char) (value : List Char) : List Char × Option (List Char) :=
  (value.takeWhile (· ≠ separator), (value.dropWhile (· ≠ separator)).tail?)

def leadingZero (value : List Char) : Bool := value ≠ ['0'] && value.head? = some '0'

/-- mirrors application/desktop_updates.py:121-122 -/
def validCoreNumber (value : List Char) : Bool := isDigits value && !leadingZero value

/-- The class of `_IDENTIFIER_PATTERN`. -/
def isIdentifierCharacter (c : Char) : Bool := c.isDigit || c.isUpper || c.isLower || c = '-'

/-- mirrors the loop of `_valid_identifiers`,
application/desktop_updates.py:127-135 -/
def validIdentifier (allowNumericLeadingZero : Bool) (identifier : List Char) : Bool :=
  identifier ≠ [] && identifier.all isIdentifierCharacter &&
    (allowNumericLeadingZero || !isDigits identifier || !leadingZero identifier)

/-- mirrors application/desktop_updates.py:125-136 -/
def validIdentifiers (allowNumericLeadingZero : Bool) (value : List Char) : Bool :=
  value ≠ [] && (value.splitOn '.').all (validIdentifier allowNumericLeadingZero)

/-! ## Versions -/

structure SemVersion where
  raw : List Char
  major : Nat
  minor : Nat
  patch : Nat
  prerelease : Option (List (List Char))
  identifiers : ∀ ids ∈ prerelease, ∀ id ∈ ids, validIdentifier false id = true

namespace SemVersion

/-- A version without build metadata, out of `raw`.
mirrors application/desktop_updates.py:49-66 -/
def parseCore (raw coreAndPrerelease : List Char) : Option SemVersion :=
  let (core, prerelease) := partition '-' coreAndPrerelease
  match core.splitOn '.' with
  | [major, minor, patch] =>
    if !(validCoreNumber major && validCoreNumber minor && validCoreNumber patch) then none
    else if h : prerelease.all (validIdentifiers false) = true then do
      let major ← int? major
      let minor ← int? minor
      let patch ← int? patch
      some
        { raw, major, minor, patch
          prerelease := prerelease.map (List.splitOn '.')
          identifiers := by
            intro ids hids id hid
            obtain ⟨source, rfl, rfl⟩ := Option.map_eq_some_iff.1 hids
            have hall := Bool.and_eq_true_iff.1 (show validIdentifiers false source = true from h)
            exact List.all_eq_true.1 hall.2 id hid }
    else none
  | _ => none

/-- mirrors application/desktop_updates.py:42-66 -/
def parse (value : List Char) : Option SemVersion :=
  if value = [] then none
  else
    let (coreAndPrerelease, build) := partition '+' value
    if build.any fun b => !validIdentifiers true b then none
    else parseCore value coreAndPrerelease

/-- The first two identifiers that differ. -/
def firstDifference : List (List Char) → List (List Char) → Option (List Char × List Char)
  | left :: lefts, right :: rights =>
    if left = right then firstDifference lefts rights else some (left, right)
  | _, _ => none

/-- mirrors application/desktop_updates.py:82-88 -/
def identifierLt (left right : List Char) : Option Bool :=
  if isDigits left && isDigits right then do
    let left ← int? left
    let right ← int? right
    some (decide (left < right))
  else if isDigits left ≠ isDigits right then some (isDigits left)
  else some (decide (left < right))

/-- `__lt__`.
mirrors application/desktop_updates.py:68-89 -/
def lt (a b : SemVersion) : Option Bool :=
  if a.major ≠ b.major then some (decide (a.major < b.major))
  else if a.minor ≠ b.minor then some (decide (a.minor < b.minor))
  else if a.patch ≠ b.patch then some (decide (a.patch < b.patch))
  else match a.prerelease, b.prerelease with
    | none, _ => some false
    | some _, none => some true
    | some lefts, some rights =>
      match firstDifference lefts rights with
      | some (left, right) => identifierLt left right
      | none => some (decide (lefts.length < rights.length))

/-- `__eq__`.
mirrors application/desktop_updates.py:91-102 -/
def eq (a b : SemVersion) : Bool :=
  a.major = b.major && a.minor = b.minor && a.patch = b.patch && a.prerelease = b.prerelease

/-- `__gt__`, as `total_ordering` makes it. -/
def gt (a b : SemVersion) : Option Bool := (a.lt b).map fun less => !less && !a.eq b

/-! ## Precedence -/

/-- A numeric identifier is its number and comes before every other. -/
def rank (id : List Char) : ℕ ⊕ₗ List Char :=
  if isDigits id then toLex (.inl (decimal id)) else toLex (.inr id)

/-- What a version is compared by: its numbers, then the ranks of its prerelease; a release comes
behind its prereleases. -/
abbrev Precedence := ℕ ×ₗ ℕ ×ₗ ℕ ×ₗ WithTop (List (ℕ ⊕ₗ List Char))

def precedence (v : SemVersion) : Precedence :=
  toLex (v.major, toLex (v.minor, toLex (v.patch,
    match v.prerelease with
    | none => ⊤
    | some ids => ((ids.map rank : List (ℕ ⊕ₗ List Char)) : WithTop (List (ℕ ⊕ₗ List Char))))))

/-- The comparison gets through: where two numeric identifiers are compared, `int` reads both. -/
def Comparable (a b : SemVersion) : Prop :=
  a.major = b.major → a.minor = b.minor → a.patch = b.patch →
    ∀ lefts ∈ a.prerelease, ∀ rights ∈ b.prerelease, ∀ left right,
      firstDifference lefts rights = some (left, right) →
        isDigits left = true → isDigits right = true →
          left.length ≤ maxStrDigits ∧ right.length ≤ maxStrDigits

/-! ## The comparison -/

def digit (c : Char) : Nat := c.toNat - 48

theorem digit_lt {c : Char} (h : c.isDigit = true) : digit c < 10 := by
  simp only [Char.isDigit, Bool.and_eq_true, decide_eq_true_eq] at h
  have h9 : c.toNat ≤ 57 := h.2
  simp only [digit]
  omega

theorem ofNat_digit {c : Char} (h : c.isDigit = true) : Char.ofNat (digit c + 48) = c := by
  simp only [Char.isDigit, Bool.and_eq_true, decide_eq_true_eq] at h
  have h0 : 48 ≤ c.toNat := h.1
  rw [digit, Nat.sub_add_cancel h0]
  exact Char.ofNat_toNat c

theorem decimal_eq_ofDigits (value : List Char) :
    decimal value = Nat.ofDigits 10 (value.reverse.map digit) := by
  induction value using List.reverseRecOn with
  | nil => rfl
  | append_singleton value c ih =>
    rw [List.reverse_append, List.reverse_singleton, List.singleton_append, List.map_cons,
      Nat.ofDigits_cons, ← ih, decimal, List.foldl_append, ← decimal]
    exact Nat.add_comm ..

/-- The digits of a number that does not begin with a zero can be read off it. -/
theorem digits_decimal {value : List Char} (hdigits : isDigits value = true)
    (hzero : value.head? ≠ some '0') : Nat.digits 10 (decimal value) = value.reverse.map digit := by
  simp only [isDigits, Bool.and_eq_true, decide_eq_true_eq, List.all_eq_true] at hdigits
  obtain ⟨hne, hall⟩ := hdigits
  rw [decimal_eq_ofDigits]
  apply Nat.digits_ofDigits 10 (by decide)
  · intro d hd
    obtain ⟨c, hc, rfl⟩ := List.mem_map.1 hd
    exact digit_lt (hall c (List.mem_reverse.1 hc))
  · intro hlast hd
    cases value with
    | nil => exact hne rfl
    | cons c value =>
      apply hzero
      have hc := ofNat_digit (hall c List.mem_cons_self)
      rw [List.getLast_map, List.getLast_reverse] at hd
      rw [List.head_cons] at hd
      rw [hd] at hc
      rw [List.head?_cons, ← hc]

/-- Decimal texts without a leading zero are the same when their numbers are. -/
theorem decimal_inj {left right : List Char} (hleft : isDigits left = true)
    (hright : isDigits right = true) (hleft0 : leadingZero left = false)
    (hright0 : leadingZero right = false) (h : decimal left = decimal right) : left = right := by
  have hlong : ∀ {value : List Char}, isDigits value = true → leadingZero value = false →
      value = ['0'] ∨ Nat.digits 10 (decimal value) = value.reverse.map digit := by
    intro value hvalue hzero
    by_cases hone : value = ['0']
    · exact .inl hone
    · refine .inr (digits_decimal hvalue fun hhead => ?_)
      simp [leadingZero, hone, hhead] at hzero
  have hback : ∀ {value : List Char}, isDigits value = true →
      (value.reverse.map digit).map (fun d => Char.ofNat (d + 48)) = value.reverse := by
    intro value hvalue
    simp only [isDigits, Bool.and_eq_true, List.all_eq_true] at hvalue
    rw [List.map_map]
    conv_rhs => rw [← List.map_id value.reverse]
    apply List.map_congr_left
    intro c hc
    exact ofNat_digit (hvalue.2 c (List.mem_reverse.1 hc))
  have hpos : ∀ {value : List Char}, isDigits value = true → 
      Nat.digits 10 (decimal value) = value.reverse.map digit → decimal value ≠ 0 := by
    intro value hvalue hdigits hnone
    rw [hnone, Nat.digits_zero] at hdigits
    have hnil := List.reverse_eq_nil_iff.1 (List.map_eq_nil_iff.1 hdigits.symm)
    rw [hnil] at hvalue
    cases hvalue
  obtain rfl | hl := hlong hleft hleft0
  · obtain rfl | hr := hlong hright hright0
    · rfl
    · exact absurd h.symm (hpos hright hr)
  · obtain rfl | hr := hlong hright hright0
    · exact absurd h (hpos hleft hl)
    · have hsame := hback hleft
      rw [← hl, h, hr, hback hright] at hsame
      exact (List.reverse_injective hsame).symm

theorem leadingZero_of_validIdentifier {id : List Char} (h : validIdentifier false id = true)
    (hdigits : isDigits id = true) : leadingZero id = false := by
  simp only [validIdentifier, hdigits, Bool.and_eq_true, Bool.false_or, Bool.not_true,
    Bool.not_eq_true'] at h
  exact h.2

theorem rank_inj {left right : List Char} (hleft : validIdentifier false left = true)
    (hright : validIdentifier false right = true) (h : rank left = rank right) : left = right := by
  simp only [rank] at h
  split at h
  · rename_i hl
    split at h
    · rename_i hr
      exact decimal_inj hl hr (leadingZero_of_validIdentifier hleft hl)
        (leadingZero_of_validIdentifier hright hr) (Sum.inl.inj (toLex.injective h))
    · cases toLex.injective h
  · split at h
    · cases toLex.injective h
    · exact Sum.inr.inj (toLex.injective h)

/-- Identifiers compare by their ranks, where `int` reads them. -/
theorem identifierLt_eq {left right : List Char}
    (h : isDigits left = true → isDigits right = true →
      left.length ≤ maxStrDigits ∧ right.length ≤ maxStrDigits) :
    ∃ less, identifierLt left right = some less ∧ (less = true ↔ rank left < rank right) := by
  simp only [identifierLt]
  by_cases hl : isDigits left = true
  · by_cases hr : isDigits right = true
    · obtain ⟨hleft, hright⟩ := h hl hr
      refine ⟨_, by simp only [hl, hr, int?, hleft, hright]; rfl, ?_⟩
      simp [rank, hl, hr]
    · refine ⟨true, by simp [hl, hr], ?_⟩
      simp [rank, hl, hr]
  · by_cases hr : isDigits right = true
    · refine ⟨false, by simp [hl, hr], ?_⟩
      simp [rank, hl, hr]
    · refine ⟨decide (left < right), by simp [hl, hr], ?_⟩
      simp [rank, hl, hr]

theorem identifierLt_eq_none {left right : List Char} (hleft : isDigits left = true)
    (hright : isDigits right = true)
    (h : ¬(left.length ≤ maxStrDigits ∧ right.length ≤ maxStrDigits)) :
    identifierLt left right = none := by
  simp only [identifierLt, hleft, hright, Bool.and_self, if_true, int?]
  by_cases hl : left.length ≤ maxStrDigits
  · rw [if_pos hl, if_neg fun hr => h ⟨hl, hr⟩]
    rfl
  · rw [if_neg hl]
    rfl

/-- Where two lists differ first. -/
theorem firstDifference_some {lefts rights : List (List Char)} {left right : List Char}
    (h : firstDifference lefts rights = some (left, right)) :
    left ∈ lefts ∧ right ∈ rights ∧ left ≠ right ∧
      firstDifference rights lefts = some (right, left) := by
  induction lefts generalizing rights with
  | nil => cases h
  | cons l lefts ih =>
    cases rights with
    | nil => cases h
    | cons r rights =>
      simp only [firstDifference] at h ⊢
      by_cases heq : l = r
      · rw [if_pos heq] at h
        obtain ⟨hl, hr, hne, hback⟩ := ih h
        rw [if_pos heq.symm]
        exact ⟨List.mem_cons_of_mem _ hl, List.mem_cons_of_mem _ hr, hne, hback⟩
      · rw [if_neg heq] at h
        cases h
        rw [if_neg fun h => heq h.symm]
        exact ⟨List.mem_cons_self, List.mem_cons_self, heq, rfl⟩

/-- The first difference decides, and where there is none, the length. -/
theorem map_rank_lt {lefts rights : List (List Char)}
    (hlefts : ∀ id ∈ lefts, validIdentifier false id = true)
    (hrights : ∀ id ∈ rights, validIdentifier false id = true) :
    lefts.map rank < rights.map rank ↔
      match firstDifference lefts rights with
      | some (left, right) => rank left < rank right
      | none => lefts.length < rights.length := by
  induction lefts generalizing rights with
  | nil => cases rights <;> simp [firstDifference]
  | cons l lefts ih =>
    cases rights with
    | nil => simp [firstDifference]
    | cons r rights =>
      have hnext := ih (fun id h => hlefts id (List.mem_cons_of_mem _ h))
        fun id h => hrights id (List.mem_cons_of_mem _ h)
      rw [List.map_cons, List.map_cons, List.cons_lt_cons_iff, firstDifference]
      by_cases heq : l = r
      · subst heq
        simp only [if_true, List.length_cons, Nat.add_lt_add_iff_right, ← hnext, lt_irrefl,
          false_or, true_and]
      · have hrank : rank l ≠ rank r := fun h =>
          heq (rank_inj (hlefts l List.mem_cons_self) (hrights r List.mem_cons_self) h)
        rw [if_neg heq]
        simp [hrank]

theorem map_rank_inj {lefts rights : List (List Char)}
    (hlefts : ∀ id ∈ lefts, validIdentifier false id = true)
    (hrights : ∀ id ∈ rights, validIdentifier false id = true)
    (h : lefts.map rank = rights.map rank) : lefts = rights := by
  induction lefts generalizing rights with
  | nil => exact (List.map_eq_nil_iff.1 h.symm).symm
  | cons l lefts ih =>
    cases rights with
    | nil => cases h
    | cons r rights =>
      simp only [List.map_cons, List.cons.injEq] at h
      have hhead := rank_inj (hlefts l List.mem_cons_self) (hrights r List.mem_cons_self) h.1
      have htail := ih (fun id h => hlefts id (List.mem_cons_of_mem _ h))
        (fun id h => hrights id (List.mem_cons_of_mem _ h)) h.2
      rw [hhead, htail]

variable {a b c : SemVersion}

theorem precedence_lt_iff : a.precedence < b.precedence ↔
    a.major < b.major ∨ a.major = b.major ∧ (a.minor < b.minor ∨ a.minor = b.minor ∧
      (a.patch < b.patch ∨ a.patch = b.patch ∧
        match a.prerelease, b.prerelease with
        | none, _ => False
        | some _, none => True
        | some lefts, some rights => lefts.map rank < rights.map rank)) := by
  simp only [precedence, Prod.Lex.toLex_lt_toLex]
  cases a.prerelease <;> cases b.prerelease <;> simp

theorem eq_iff : a.eq b = true ↔ a.precedence = b.precedence := by
  simp only [eq, precedence, Bool.and_eq_true, decide_eq_true_eq, EmbeddingLike.apply_eq_iff_eq,
    Prod.mk.injEq, and_assoc]
  refine and_congr_right fun _ => and_congr_right fun _ => and_congr_right fun _ => ?_
  have hleft := a.identifiers
  have hright := b.identifiers
  cases hp : a.prerelease with
  | none => cases b.prerelease <;> simp
  | some lefts =>
    cases hq : b.prerelease with
    | none => simp
    | some rights =>
      simp only [Option.some.injEq, WithTop.coe_eq_coe]
      constructor
      · intro h
        rw [h]
      · exact map_rank_inj (hleft _ hp) (hright _ hq)

theorem Comparable.refl (a : SemVersion) : a.Comparable a := by
  intro _ _ _ lefts hl rights hr left right h
  obtain rfl : lefts = rights := Option.some.inj (hl.symm.trans hr)
  have hne := (firstDifference_some h).2.2.1
  have hback := (firstDifference_some h).2.2.2
  rw [h] at hback
  cases hback
  exact absurd rfl hne

theorem Comparable.symm (h : a.Comparable b) : b.Comparable a := by
  intro h1 h2 h3 lefts hl rights hr left right hfirst hleft hright
  exact (h h1.symm h2.symm h3.symm rights hr lefts hl right left
    (firstDifference_some hfirst).2.2.2 hright hleft).symm

/-- The comparison is that of the precedences. -/
theorem lt_of_comparable (h : a.Comparable b) :
    ∃ less, a.lt b = some less ∧ (less = true ↔ a.precedence < b.precedence) := by
  rw [precedence_lt_iff]
  simp only [lt]
  by_cases h1 : a.major = b.major
  · by_cases h2 : a.minor = b.minor
    · by_cases h3 : a.patch = b.patch
      · simp only [h1, h2, h3, ne_eq, not_true_eq_false, if_false, lt_irrefl, false_or, true_and]
        have hab := h h1 h2 h3
        have hleft := a.identifiers
        have hright := b.identifiers
        cases hp : a.prerelease with
        | none => exact ⟨false, rfl, by simp⟩
        | some lefts =>
          cases hq : b.prerelease with
          | none => exact ⟨true, rfl, by simp⟩
          | some rights =>
            simp only [map_rank_lt (hleft _ hp) (hright _ hq)]
            cases hd : firstDifference lefts rights with
            | none => exact ⟨_, rfl, by simp⟩
            | some pair =>
              obtain ⟨left, right⟩ := pair
              exact identifierLt_eq (hab _ hp _ hq _ _ hd)
      · exact ⟨decide (a.patch < b.patch), by simp [h1, h2, h3], by simp [h1, h2, h3]⟩
    · exact ⟨decide (a.minor < b.minor), by simp [h1, h2], by simp [h1, h2]⟩
  · exact ⟨decide (a.major < b.major), by simp [h1], by simp [h1]⟩

/-- `int` refuses one of the two numeric identifiers. -/
theorem lt_of_not_comparable (h : ¬a.Comparable b) : a.lt b = none := by
  simp only [Comparable, not_forall] at h
  obtain ⟨h1, h2, h3, lefts, hl, rights, hr, left, right, hd, hleft, hright, hlong⟩ := h
  simp only [Option.mem_def] at hl hr
  simp only [lt, h1, h2, h3, hl, hr, hd, ne_eq, not_true_eq_false, if_false]
  exact identifierLt_eq_none hleft hright hlong

theorem comparable_iff : a.Comparable b ↔ (a.lt b).isSome = true := by
  constructor
  · intro h
    obtain ⟨less, hless, _⟩ := lt_of_comparable h
    rw [hless]
    rfl
  · intro h
    by_contra hno
    rw [lt_of_not_comparable hno] at h
    cases h

theorem gt_of_comparable (h : a.Comparable b) :
    ∃ greater, a.gt b = some greater ∧ (greater = true ↔ b.precedence < a.precedence) := by
  obtain ⟨less, hless, hiff⟩ := lt_of_comparable h
  refine ⟨!less && !a.eq b, by rw [gt, hless]; rfl, ?_⟩
  rw [Bool.and_eq_true, Bool.not_eq_true', Bool.not_eq_true', ← Bool.not_eq_true, hiff,
    ← Bool.not_eq_true, eq_iff, not_lt]
  exact ⟨fun h => lt_of_le_of_ne h.1 (Ne.symm h.2), fun h => ⟨h.le, h.ne'⟩⟩

theorem partition_of_not_mem {separator : Char} {value : List Char} (h : separator ∉ value) :
    partition separator value = (value, none) := by
  simp only [partition]
  induction value with
  | nil => rfl
  | cons c value ih =>
    obtain ⟨hc, hvalue⟩ := not_or.1 (mt List.mem_cons.2 h)
    simp only [Prod.mk.injEq] at ih
    simpa [Ne.symm hc] using ih hvalue

theorem partition_fst (separator : Char) (value : List Char) :
    partition separator (partition separator value).1 = ((partition separator value).1, none) := by
  apply partition_of_not_mem
  simp only [partition]
  induction value with
  | nil => exact List.not_mem_nil
  | cons c value ih =>
    by_cases hc : c = separator
    · simp [hc]
    · simpa [hc, Ne.symm hc] using ih

theorem parseCore_raw {raw raw' value : List Char} {v : SemVersion}
    (h : parseCore raw value = some v) : parseCore raw' value = some { v with raw := raw' } := by
  simp only [parseCore] at h ⊢
  split at h
  · split at h
    · cases h
    · rename_i hvalid
      split at h
      · rename_i hpre
        obtain ⟨major, hmajor, h⟩ := Option.bind_eq_some_iff.1 h
        obtain ⟨minor, hminor, h⟩ := Option.bind_eq_some_iff.1 h
        obtain ⟨patch, hpatch, h⟩ := Option.bind_eq_some_iff.1 h
        cases h
        rw [if_neg hvalid, dif_pos hpre, hmajor, hminor, hpatch]
        rfl
      · cases h
  · cases h

/-- Build metadata is not compared. -/
theorem precedence_parse {value : List Char} {v : SemVersion} (h : parse value = some v) :
    ∃ w, parse (partition '+' value).1 = some w ∧ w.precedence = v.precedence := by
  have hcore : parseCore value (partition '+' value).1 = some v := by
    simp only [parse] at h
    split at h
    · cases h
    · split at h
      · cases h
      · exact h
  have hne : (partition '+' value).1 ≠ [] := by
    intro hnil
    rw [hnil] at hcore
    cases hcore
  refine ⟨{ v with raw := (partition '+' value).1 }, ?_, rfl⟩
  simp only [parse, if_neg hne, partition_fst]
  exact parseCore_raw hcore

end SemVersion

/-! ## The catalog -/

inductive Policy
  | optional
  | forced

inductive Target
  | darwin
  | windows
  deriving DecidableEq

inductive Arch
  | aarch64
  | x86_64
  deriving DecidableEq

def Target.name : Target → String
  | .darwin => "darwin"
  | .windows => "windows"

def Arch.name : Arch → String
  | .aarch64 => "aarch64"
  | .x86_64 => "x86_64"

/-- mirrors application/desktop_updates.py:146-169 -/
structure DesktopUpdateRelease where
  version : List Char
  channel : String
  policy : Policy
  target : Target
  arch : Arch
  url : String
  signature : String
  sha256 : String
  sizeBytes : Nat
  notes : Option String
  publishedAt : Option String
  validVersion : (SemVersion.parse version).isSome = true

namespace DesktopUpdateRelease

def semVersion (r : DesktopUpdateRelease) : SemVersion :=
  (SemVersion.parse r.version).get r.validVersion

/-- The releases an app of the channel, the target and the architecture is offered. -/
def suits (channel target arch : String) (r : DesktopUpdateRelease) : Bool :=
  r.channel = channel && r.target.name = target && r.arch.name = arch

/-- The identities of a catalog, two of which may not be equal. -/
def sameIdentity (r r' : DesktopUpdateRelease) : Bool :=
  r.channel = r'.channel && r.target = r'.target && r.arch = r'.arch &&
    r.semVersion.eq r'.semVersion

/-- mirrors `DesktopUpdateCatalog.__init__`,
application/desktop_updates.py:233-245 -/
def accepted : (identities releases : List DesktopUpdateRelease) → Bool
  | _, [] => true
  | identities, r :: releases =>
    !identities.any r.sameIdentity && accepted (identities ++ [r]) releases

/-- mirrors the comprehension of `find_update`,
application/desktop_updates.py:270-277 -/
def candidates (channel target arch : String) (current : SemVersion) :
    List DesktopUpdateRelease → Option (List DesktopUpdateRelease)
  | [] => some []
  | r :: releases =>
    if r.suits channel target arch then do
      let less ← current.lt r.semVersion
      let rest ← candidates channel target arch current releases
      some (if less then r :: rest else rest)
    else candidates channel target arch current releases

/-- `max`: the first of the greatest. -/
def maxFrom (best : DesktopUpdateRelease) : List DesktopUpdateRelease → Option DesktopUpdateRelease
  | [] => some best
  | r :: releases => do
    let greater ← r.semVersion.gt best.semVersion
    maxFrom (if greater then r else best) releases

end DesktopUpdateRelease

open DesktopUpdateRelease

structure DesktopUpdateCatalog where
  releases : List DesktopUpdateRelease
  accepted : DesktopUpdateRelease.accepted [] releases = true

/-- mirrors application/desktop_updates.py:260-278 -/
def DesktopUpdateCatalog.findUpdate (catalog : DesktopUpdateCatalog)
    (channel target arch : String) (currentVersion : List Char) :
    Option (Option DesktopUpdateRelease) := do
  let current ← SemVersion.parse currentVersion
  match ← candidates channel target arch current catalog.releases with
  | [] => some none
  | r :: releases => (maxFrom r releases).map some

/-! ## The selection -/

namespace DesktopUpdateRelease

variable {channel target arch : String} {current : SemVersion}
  {releases releases' : List DesktopUpdateRelease}

theorem sameIdentity_comm (r r' : DesktopUpdateRelease) :
    r.sameIdentity r' = r'.sameIdentity r := by
  simp only [sameIdentity, SemVersion.eq, eq_comm]

/-- No two releases of a catalog have one identity. -/
theorem accepted_iff_pairwise (identities : List DesktopUpdateRelease) :
    accepted identities releases = true ↔
      (∀ r ∈ releases, ∀ r' ∈ identities, r.sameIdentity r' = false) ∧
        releases.Pairwise fun r r' => r.sameIdentity r' = false := by
  induction releases generalizing identities with
  | nil => simp [accepted]
  | cons r releases ih =>
    simp only [accepted, Bool.and_eq_true, Bool.not_eq_true', ih, List.pairwise_cons,
      List.forall_mem_cons, List.any_eq_false, Bool.not_eq_true]
    constructor
    · intro ⟨hr, hold, hpairs⟩
      refine ⟨⟨hr, fun s hs r' hr' => hold s hs r' (List.mem_append_left _ hr')⟩, fun s hs => ?_,
        hpairs⟩
      rw [sameIdentity_comm]
      exact hold s hs r (List.mem_append_right _ List.mem_cons_self)
    · intro ⟨⟨hr, hold⟩, hnew, hpairs⟩
      refine ⟨hr, fun s hs r' hr' => ?_, hpairs⟩
      obtain hr' | hr' := List.mem_append.1 hr'
      · exact hold s hs r' hr'
      · rw [List.mem_singleton.1 hr', sameIdentity_comm]
        exact hnew s hs

theorem accepted_perm (h : releases.Perm releases') (ha : accepted [] releases = true) :
    accepted [] releases' = true := by
  rw [accepted_iff_pairwise] at ha ⊢
  refine ⟨fun _ _ _ hr => absurd hr List.not_mem_nil,
    (h.pairwise_iff fun {r r'} hr => ?_).1 ha.2⟩
  rw [sameIdentity_comm]
  exact hr

/-- The releases that suit and are greater. -/
def greater (channel target arch : String) (current : SemVersion) (r : DesktopUpdateRelease) :
    Prop :=
  r.suits channel target arch = true ∧ current.precedence < r.semVersion.precedence

/-- Where `int` reads what is compared with the current version, the candidates are the greater
releases. -/
theorem candidates_eq (h : ∀ r ∈ releases, r.suits channel target arch = true →
      current.Comparable r.semVersion) :
    ∃ found, candidates channel target arch current releases = some found ∧
      found.Sublist releases ∧
      ∀ r, r ∈ found ↔ r ∈ releases ∧ r.greater channel target arch current := by
  induction releases with
  | nil => exact ⟨[], rfl, .slnil, by simp⟩
  | cons r releases ih =>
    obtain ⟨rest, hrest, hsub, hmem⟩ := ih fun s hs => h s (List.mem_cons_of_mem _ hs)
    by_cases hsuits : r.suits channel target arch = true
    · obtain ⟨less, hless, hiff⟩ := SemVersion.lt_of_comparable (h r List.mem_cons_self hsuits)
      have hgreater : less = true ↔ r.greater channel target arch current :=
        hiff.trans ⟨fun hlt => ⟨hsuits, hlt⟩, fun hg => hg.2⟩
      refine ⟨if less then r :: rest else rest, ?_, ?_, fun s => ?_⟩
      · rw [candidates, if_pos hsuits, hless, hrest]
        rfl
      · split
        · exact hsub.cons_cons r
        · exact hsub.cons r
      · by_cases hl : less = true
        · rw [if_pos hl, List.mem_cons, hmem, List.mem_cons]
          constructor
          · intro hs
            obtain rfl | hs := hs
            · exact ⟨.inl rfl, hgreater.1 hl⟩
            · exact ⟨.inr hs.1, hs.2⟩
          · intro hs
            obtain ⟨rfl | hs, hg⟩ := hs
            · exact .inl rfl
            · exact .inr ⟨hs, hg⟩
        · rw [if_neg hl, hmem, List.mem_cons]
          constructor
          · intro hs
            exact ⟨.inr hs.1, hs.2⟩
          · intro hs
            obtain ⟨rfl | hs, hg⟩ := hs
            · exact absurd (hgreater.2 hg) hl
            · exact ⟨hs, hg⟩
    · refine ⟨rest, by rw [candidates, if_neg hsuits, hrest], hsub.cons r, fun s => ?_⟩
      rw [hmem, List.mem_cons]
      constructor
      · intro hs
        exact ⟨.inr hs.1, hs.2⟩
      · intro hs
        obtain ⟨rfl | hs, hg⟩ := hs
        · exact absurd hg.1 hsuits
        · exact ⟨hs, hg⟩

theorem comparable_of_candidates {found : List DesktopUpdateRelease}
    (h : candidates channel target arch current releases = some found) :
    ∀ r ∈ releases, r.suits channel target arch = true → current.Comparable r.semVersion := by
  induction releases generalizing found with
  | nil => exact nofun
  | cons r releases ih =>
    intro s hs hsuits
    rw [candidates] at h
    by_cases hr : r.suits channel target arch = true
    · rw [if_pos hr] at h
      obtain ⟨less, hless, h⟩ := Option.bind_eq_some_iff.1 h
      obtain ⟨rest, hrest, -⟩ := Option.bind_eq_some_iff.1 h
      obtain rfl | hs := List.mem_cons.1 hs
      · rw [SemVersion.comparable_iff, hless]
        rfl
      · exact ih hrest s hs hsuits
    · rw [if_neg hr] at h
      obtain rfl | hs := List.mem_cons.1 hs
      · exact absurd hsuits hr
      · exact ih h s hs hsuits

/-- The running maximum is the greatest of all when no two are equal. -/
theorem maxFrom_eq {best : DesktopUpdateRelease}
    (h : ∀ r ∈ best :: releases, ∀ r' ∈ best :: releases,
      r.semVersion.Comparable r'.semVersion) :
    ∃ r, maxFrom best releases = some r ∧ r ∈ best :: releases ∧
      ∀ s ∈ best :: releases, s.semVersion.precedence ≤ r.semVersion.precedence := by
  induction releases generalizing best with
  | nil => exact ⟨best, rfl, List.mem_cons_self, by simp⟩
  | cons s releases ih =>
    obtain ⟨bigger, hbigger, hiff⟩ := SemVersion.gt_of_comparable
      (h s (List.mem_cons_of_mem _ List.mem_cons_self) best List.mem_cons_self)
    have hsub : (if bigger then s else best) :: releases ⊆ best :: s :: releases := by
      intro r hr
      obtain rfl | hr := List.mem_cons.1 hr
      · split
        · exact List.mem_cons_of_mem _ List.mem_cons_self
        · exact List.mem_cons_self
      · exact List.mem_cons_of_mem _ (List.mem_cons_of_mem _ hr)
    obtain ⟨r, hr, hmem, hmax⟩ := ih fun r hr r' hr' => h r (hsub hr) r' (hsub hr')
    refine ⟨r, by rw [maxFrom, hbigger]; exact hr, hsub hmem, ?_⟩
    have hnext := hmax _ List.mem_cons_self
    intro t ht
    by_cases hb : bigger = true
    · rw [if_pos hb] at hnext
      obtain rfl | ht := List.mem_cons.1 ht
      · exact (hiff.1 hb).le.trans hnext
      · obtain rfl | ht := List.mem_cons.1 ht
        · exact hnext
        · exact hmax t (List.mem_cons_of_mem _ ht)
    · rw [if_neg hb] at hnext
      obtain rfl | ht := List.mem_cons.1 ht
      · exact hnext
      · obtain rfl | ht := List.mem_cons.1 ht
        · exact (not_lt.1 fun hlt => hb (hiff.2 hlt)).trans hnext
        · exact hmax t (List.mem_cons_of_mem _ ht)

end DesktopUpdateRelease

end AutomationTool.ControlPlane.DesktopUpdates
