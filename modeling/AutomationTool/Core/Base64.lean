import Mathlib

/-!
# Base64

The URL-safe alphabet, without padding. Three bytes are four digits of six bits each; the
last digit of a text may have bits that no byte has, which reading drops.

* `decode_encode`: what is written is read back.
* `length_encode`, `isSymbol_encode`: how long a text is and what it is made of.
-/
namespace AutomationTool.Base64

/-! ## The alphabet -/

def symbol (n : Nat) : Char :=
  if n < 26 then Char.ofNat (65 + n)
  else if n < 52 then Char.ofNat (71 + n)
  else if n < 62 then Char.ofNat (n - 4)
  else if n = 62 then '-'
  else '_'

def value (c : Char) : Option Nat :=
  if c.isUpper then some (c.toNat - 65)
  else if c.isLower then some (c.toNat - 71)
  else if c.isDigit then some (c.toNat + 4)
  else if c = '-' then some 62
  else if c = '_' then some 63
  else none

def isSymbol (c : Char) : Bool := (value c).isSome

theorem value_symbol {n : Nat} (hn : n < 64) : value (symbol n) = some n := by
  have hall : ∀ n < 64, value (symbol n) = some n := by decide
  exact hall n hn

/-! ## Bytes -/

/-- The digits of six bits. -/
def sextets : List UInt8 → List Nat
  | [] => []
  | [a] => [a.toNat / 4, a.toNat % 4 * 16]
  | [a, b] => [a.toNat / 4, a.toNat % 4 * 16 + b.toNat / 16, b.toNat % 16 * 4]
  | a :: b :: c :: bytes =>
    a.toNat / 4 :: (a.toNat % 4 * 16 + b.toNat / 16) :: (b.toNat % 16 * 4 + c.toNat / 64) ::
      c.toNat % 64 :: sextets bytes

/-- The bytes of some digits; one digit alone is none. -/
def octets : List Nat → Option (List UInt8)
  | [] => some []
  | [_] => none
  | [p, q] => some [.ofNat (p * 4 + q / 16)]
  | [p, q, r] => some [.ofNat (p * 4 + q / 16), .ofNat (q % 16 * 16 + r / 4)]
  | p :: q :: r :: s :: digits => (octets digits).map fun bytes =>
    .ofNat (p * 4 + q / 16) :: .ofNat (q % 16 * 16 + r / 4) :: .ofNat (r % 4 * 64 + s) :: bytes

def encode (bytes : List UInt8) : List Char := (sextets bytes).map symbol

def decode (text : List Char) : Option (List UInt8) := (text.mapM value).bind octets

theorem sextets_lt (bytes : List UInt8) : ∀ n ∈ sextets bytes, n < 64 := by
  induction bytes using sextets.induct with
  | case1 => simp [sextets]
  | case2 a =>
    have ha := a.toNat_lt
    simp only [sextets, List.forall_mem_cons]
    exact ⟨by omega, by omega, nofun⟩
  | case3 a b =>
    have ha := a.toNat_lt
    have hb := b.toNat_lt
    simp only [sextets, List.forall_mem_cons]
    exact ⟨by omega, by omega, by omega, nofun⟩
  | case4 a b c bytes ih =>
    have ha := a.toNat_lt
    have hb := b.toNat_lt
    have hc := c.toNat_lt
    simp only [sextets, List.forall_mem_cons]
    exact ⟨by omega, by omega, by omega, by omega, ih⟩

theorem octets_sextets (bytes : List UInt8) : octets (sextets bytes) = some bytes := by
  have hbyte : ∀ (a : UInt8) (n : Nat), n = a.toNat → UInt8.ofNat n = a := by
    intro a n h
    rw [h]
    exact UInt8.ofNat_toNat
  induction bytes using sextets.induct with
  | case1 => rfl
  | case2 a =>
    have ha := a.toNat_lt
    simp only [sextets, octets]
    rw [hbyte a _ (by omega)]
  | case3 a b =>
    have ha := a.toNat_lt
    have hb := b.toNat_lt
    simp only [sextets, octets]
    rw [hbyte a _ (by omega), hbyte b _ (by omega)]
  | case4 a b c bytes ih =>
    have ha := a.toNat_lt
    have hb := b.toNat_lt
    have hc := c.toNat_lt
    simp only [sextets, octets, ih, Option.map_some]
    rw [hbyte a _ (by omega), hbyte b _ (by omega), hbyte c _ (by omega)]

/-- What is written is read back. -/
theorem decode_encode (bytes : List UInt8) : decode (encode bytes) = some bytes := by
  have hread : ∀ digits : List Nat, (∀ n ∈ digits, n < 64) →
      (digits.map symbol).mapM value = some digits := by
    intro digits hdigits
    induction digits with
    | nil => rfl
    | cons n digits ih =>
      simp only [List.forall_mem_cons] at hdigits
      simp [value_symbol hdigits.1, ih hdigits.2]
  rw [decode, encode, hread _ (sextets_lt bytes), Option.bind_some, octets_sextets]

theorem isSymbol_encode {bytes : List UInt8} : ∀ c ∈ encode bytes, isSymbol c = true := by
  intro c hc
  obtain ⟨n, hn, rfl⟩ := List.mem_map.1 hc
  simp [isSymbol, value_symbol (sextets_lt bytes n hn)]

theorem length_encode (bytes : List UInt8) :
    (encode bytes).length = (bytes.length * 4 + 2) / 3 := by
  rw [encode, List.length_map]
  induction bytes using sextets.induct with
  | case1 => rfl
  | case2 a => simp [sextets]
  | case3 a b => simp [sextets]
  | case4 a b c bytes ih =>
    simp only [sextets, List.length_cons, ih]
    omega

end AutomationTool.Base64
