import AutomationTool.Core.Failing

/-!
# JSON values

A value as a parser hands it over. A reader is a partial function from values; `fields`
reads an object that has no member beside the named ones, none twice, and a reader of an
object is a chain of such reads.

* `list?_map`: a reader that reads back what a writer wrote reads back its lists.
-/
namespace AutomationTool

inductive Json where
  | null
  | bool (b : Bool)
  | int (n : Int)
  | float (x : ℚ)
  | str (text : List Char)
  | arr (items : List Json)
  | obj (members : List (String × Json))

namespace Json

/-- A writer of what may be missing. -/
def ofOption {α : Type} (write : α → Json) : Option α → Json
  | none => null
  | some a => write a

def ofNat (n : Nat) : Json := int (.ofNat n)

/-- The members of an object that has only the named ones, each at most once. -/
def fields (keys : List String) : Json → Option (List (String × Json))
  | obj members =>
    if (members.map (·.1)).Nodup ∧ ∀ k ∈ members.map (·.1), k ∈ keys then some members else none
  | _ => none

def get (members : List (String × Json)) (key : String) : Option Json :=
  (members.find? fun m => m.1 = key).map (·.2)

@[simp] theorem get_cons (key k : String) (j : Json) (members : List (String × Json)) :
    get ((k, j) :: members) key = if k = key then some j else get members key := by
  by_cases h : k = key <;> simp [get, h]

/-! ## Readers -/

def str? : Json → Option (List Char)
  | str text => some text
  | _ => none

def bool? : Json → Option Bool
  | bool b => some b
  | _ => none

/-- A natural number below a bound, as an unsigned type has it. -/
def nat? (bound : Nat) : Json → Option Nat
  | int (.ofNat n) => if n < bound then some n else none
  | _ => none

def float? : Json → Option ℚ
  | float x => some x
  | _ => none

/-- `null`, or what a reader reads. -/
def option? {α : Type} (read : Json → Option α) : Json → Option (Option α)
  | null => some none
  | j => (read j).map some

def list? {α : Type} (read : Json → Option α) : Json → Option (List α)
  | arr items => items.mapM read
  | _ => none

/-- A member that has to be there. -/
def required {α : Type} (members : List (String × Json)) (key : String) (read : Json → Option α) :
    Option α := (get members key).bind read

/-- A member that may be `null` or missing. -/
def optional {α : Type} (members : List (String × Json)) (key : String) (read : Json → Option α) :
    Option (Option α) := (get members key).elim (some none) (option? read)

/-! ## What is written is read -/

@[simp] theorem str?_str (text : List Char) : str? (str text) = some text := rfl

@[simp] theorem bool?_bool (b : Bool) : bool? (bool b) = some b := rfl

@[simp] theorem float?_float (x : ℚ) : float? (float x) = some x := rfl

theorem nat?_ofNat {bound n : Nat} (h : n < bound) : nat? bound (ofNat n) = some n := by
  simp only [ofNat, nat?]
  exact if_pos h

theorem option?_ofOption {α : Type} {read : Json → Option α} {write : α → Json} {x : Option α}
    (hnull : ∀ a ∈ x, write a ≠ null) (h : ∀ a ∈ x, read (write a) = some a) :
    option? read (ofOption write x) = some x := by
  cases x with
  | none => rfl
  | some a =>
    have hread := h a rfl
    have hne := hnull a rfl
    simp only [ofOption]
    generalize write a = j at hread hne ⊢
    cases j with
    | null => exact absurd rfl hne
    | _ => simp [option?, hread]

@[simp] theorem option?_str (x : Option (List Char)) : option? str? (ofOption str x) = some x :=
  option?_ofOption (fun _ _ h => nomatch h) fun _ _ => rfl

theorem option?_nat {bound : Nat} {x : Option Nat} (h : ∀ n ∈ x, n < bound) :
    option? (nat? bound) (ofOption ofNat x) = some x :=
  option?_ofOption (fun _ _ h => nomatch h) fun n hn => nat?_ofNat (h n hn)

/-- A list is read back item by item. -/
theorem list?_map {α β : Type} {read : Json → Option β} {write : α → Json} {f : α → β}
    {items : List α} (h : ∀ a ∈ items, read (write a) = some (f a)) :
    list? read (arr (items.map write)) = some (items.map f) := by
  show (items.map write).mapM read = some (items.map f)
  induction items with
  | nil => rfl
  | cons a items ih =>
    have hhead := h a List.mem_cons_self
    have htail := ih fun x hx => h x (List.mem_cons_of_mem _ hx)
    rw [List.map_cons, List.mapM_cons, hhead, htail]
    rfl

theorem list?_map_self {α : Type} {read : Json → Option α} {write : α → Json} {items : List α}
    (h : ∀ a ∈ items, read (write a) = some a) : list? read (arr (items.map write)) = some items := by
  rw [list?_map h (f := id), List.map_id]

end Json
end AutomationTool
