import AutomationTool.Core.Failing

/-!
# Filter graphs

A filter graph is a list of parts. A part reads input streams and labels, and defines labels
that later parts read. `evalGraph` gives the labels values, for any reading of the filters:
lengths, or which sounds are in a stream.

* `evalGraph_append`: a graph is evaluated piece by piece.
* `evalGraph_frame`: a label keeps its value while no part defines it.
* `WellFormed`: every label is defined once and read once, the output is not read.
* `Wires`: which labels a piece of a graph is given, and which it leaves; pieces compose.
* `Conveys`: where streams are lists of sounds, a piece that loses and doubles none.
* `numbered_inj`: labels made of a word and a number differ if either does.
-/
namespace AutomationTool

variable {Λ F V : Type}

inductive Pad (Λ : Type) where
  | stream (input : Nat)
  | label (l : Λ)
  deriving DecidableEq, Repr

structure FilterPart (Λ F : Type) where
  inputs : List (Pad Λ)
  filter : F
  outputs : List Λ

def Pad.stream? : Pad Λ → Option Nat
  | .stream input => some input
  | .label _ => none

def Pad.label? : Pad Λ → Option Λ
  | .stream _ => none
  | .label l => some l

/-- The labels the parts define. -/
def defined (parts : List (FilterPart Λ F)) : List Λ := parts.flatMap (·.outputs)

/-- The labels the parts read. -/
def consumed (parts : List (FilterPart Λ F)) : List Λ :=
  parts.flatMap fun p => p.inputs.filterMap Pad.label?

/-- The input streams the parts read. -/
def streams (parts : List (FilterPart Λ F)) : List Nat :=
  parts.flatMap fun p => p.inputs.filterMap Pad.stream?

/-- Every label is defined once and read once; only the output is left for the caller. -/
structure WellFormed (parts : List (FilterPart Λ F)) (output : Λ) : Prop where
  once : (defined parts).Nodup
  used : (output :: consumed parts).Perm (defined parts)

@[simp] theorem defined_append (ps qs : List (FilterPart Λ F)) :
    defined (ps ++ qs) = defined ps ++ defined qs := List.flatMap_append

@[simp] theorem consumed_append (ps qs : List (FilterPart Λ F)) :
    consumed (ps ++ qs) = consumed ps ++ consumed qs := List.flatMap_append

@[simp] theorem streams_append (ps qs : List (FilterPart Λ F)) :
    streams (ps ++ qs) = streams ps ++ streams qs := List.flatMap_append

/-- A piece reads what it is given and what it defines, each once, but for what it leaves. -/
def Wires (parts : List (FilterPart Λ F)) (given left : List Λ) : Prop :=
  (consumed parts ++ left).Perm (given ++ defined parts)

section

variable {ps qs : List (FilterPart Λ F)} {given left left' : List Λ}

theorem Wires.append (hp : Wires ps given left) (hq : Wires qs left left') :
    Wires (ps ++ qs) given left' := by
  unfold Wires at *
  have hq := hq.append_left (consumed ps)
  have hp := hp.append_right (defined qs)
  rw [← List.append_assoc _ left] at hq
  rw [consumed_append, defined_append, List.append_assoc, ← List.append_assoc given]
  exact hq.trans hp

theorem Wires.frame (h : Wires ps given left) (rest : List Λ) :
    Wires ps (given ++ rest) (left ++ rest) := by
  unfold Wires at *
  have h := h.append_right rest
  rw [List.append_assoc] at h
  refine h.trans ?_
  rw [List.append_assoc, List.append_assoc]
  exact List.perm_append_comm.append_left given

theorem Wires.single (ls : List Λ) (filter : F) (output : Λ) :
    Wires [⟨ls.map .label, filter, [output]⟩] ls [output] := by
  have hlabels : (ls.map (Pad.label (Λ := Λ))).filterMap Pad.label? = ls := by
    rw [List.filterMap_map]
    exact List.filterMap_some
  simp [Wires, consumed, defined, hlabels]

theorem Wires.wellFormed {output : Λ} (h : Wires ps [] [output]) (hnodup : (defined ps).Nodup) :
    WellFormed ps output :=
  ⟨hnodup, List.perm_append_comm.trans h⟩

end

/-! ## Labels in writing -/

/-- A label: a word without digits, and possibly a number. -/
def numbered (word : List Char) (number : Option Nat) : List Char :=
  word ++ number.elim [] (Nat.toDigits 10)

def IsWord (word : List Char) : Prop := ∀ c ∈ word, c.isDigit = false

instance (word : List Char) : Decidable (IsWord word) :=
  List.decidableBAll (fun c : Char => c.isDigit = false) word

theorem takeWhile_numbered {word : List Char} (h : IsWord word) (number : Option Nat) :
    (numbered word number).takeWhile (fun c => !c.isDigit) = word := by
  have hword : ∀ c ∈ word, (!c.isDigit) = true := fun c hc => by simp [h c hc]
  rw [numbered, List.takeWhile_append_of_pos hword]
  cases number with
  | none => simp
  | some n =>
    cases hdigits : Nat.toDigits 10 n with
    | nil => simp [hdigits]
    | cons c cs =>
      have hc : c.isDigit = true :=
        Nat.isDigit_of_mem_toDigits (by decide) (by decide) (hdigits ▸ List.mem_cons_self)
      simp [hdigits, hc]

theorem toDigits_injective : Function.Injective (Nat.toDigits 10) := by
  intro m n h
  have hm := Nat.ofDigitChars_toDigits (b := 10) (n := m) (by decide) (by decide)
  rw [h, Nat.ofDigitChars_toDigits (by decide) (by decide)] at hm
  exact hm.symm

theorem numbered_inj {w w' : List Char} (hw : IsWord w) (hw' : IsWord w') {m n : Option Nat} :
    numbered w m = numbered w' n ↔ w = w' ∧ m = n := by
  refine ⟨fun h => ?_, fun ⟨h, h'⟩ => by rw [h, h']⟩
  have hword : w = w' := by
    rw [← takeWhile_numbered hw m, h, takeWhile_numbered hw' n]
  subst hword
  have hnumber := List.append_cancel_left h
  refine ⟨rfl, ?_⟩
  cases m with
  | none =>
    cases n with
    | none => rfl
    | some n => exact absurd hnumber.symm Nat.toDigits_ne_nil
  | some m =>
    cases n with
    | none => exact absurd hnumber Nat.toDigits_ne_nil
    | some n => exact congrArg some (toDigits_injective hnumber)

/-- A part as the graph's text has it; a stream is written by its caller. -/
def FilterPart.text (stream : Nat → String) (filter : F → String)
    (p : FilterPart (List Char) F) : String :=
  let label (l : List Char) := "[" ++ String.ofList l ++ "]"
  let pad : Pad (List Char) → String
    | .stream input => "[" ++ stream input ++ "]"
    | .label l => label l
  String.join (p.inputs.map pad) ++ filter p.filter ++ String.join (p.outputs.map label)

/-! ## Evaluation -/

/-- The values of the labels defined so far. -/
abbrev Labels (Λ V : Type) := Λ → Option V

section

variable {S : Type}

/-- What a label carries. -/
def Labels.content (env : Labels Λ (List S)) (l : Λ) : List S := (env l).getD []

/-- The labels are defined, and carry these sounds together. -/
structure Carries (env : Labels Λ (List S)) (ls : List Λ) (sounds : List S) : Prop where
  isSome : ∀ l ∈ ls, (env l).isSome
  perm : (ls.flatMap env.content).Perm sounds

theorem Carries.of_perm {env : Labels Λ (List S)} {ls ls' : List Λ} {sounds : List S}
    (h : Carries env ls sounds) (hp : ls.Perm ls') : Carries env ls' sounds :=
  ⟨fun l hl => h.isSome l (hp.mem_iff.2 hl), (hp.symm.flatMap_right _).trans h.perm⟩

theorem Carries.content_eq {env : Labels Λ (List S)} {ls : List Λ} {sounds : List S}
    (h : Carries env ls sounds) {l : Λ} (hl : l ∈ ls) : env l = some (env.content l) := by
  obtain ⟨v, hv⟩ := Option.isSome_iff_exists.1 (h.isSome l hl)
  rw [Labels.content, hv, Option.getD_some]

end

variable [DecidableEq Λ]

def Labels.set (env : Labels Λ V) (l : Λ) (v : V) : Labels Λ V :=
  fun x => if x = l then some v else env x

def Labels.setAll (env : Labels Λ V) : List (Λ × V) → Labels Λ V
  | [] => env
  | (l, v) :: rest => (env.set l v).setAll rest

@[simp] theorem Labels.set_same (env : Labels Λ V) (l : Λ) (v : V) : env.set l v l = some v :=
  if_pos rfl

theorem Labels.set_of_ne {env : Labels Λ V} {l x : Λ} {v : V} (h : x ≠ l) :
    env.set l v x = env x := if_neg h

@[simp] theorem Labels.setAll_nil (env : Labels Λ V) : env.setAll [] = env := rfl

@[simp] theorem Labels.setAll_cons (env : Labels Λ V) (l : Λ) (v : V) (xs : List (Λ × V)) :
    env.setAll ((l, v) :: xs) = (env.set l v).setAll xs := rfl

theorem Labels.setAll_of_notMem {env : Labels Λ V} {xs : List (Λ × V)} {x : Λ}
    (h : x ∉ xs.map (·.1)) : env.setAll xs x = env x := by
  induction xs generalizing env with
  | nil => rfl
  | cons y ys ih =>
    obtain ⟨hy, hys⟩ := not_or.1 (mt List.mem_cons.2 h)
    exact (ih hys).trans (Labels.set_of_ne hy)

theorem Labels.setAll_of_mem {env : Labels Λ V} {xs : List (Λ × V)} {l : Λ} {v : V}
    (h : (l, v) ∈ xs) (hnodup : (xs.map (·.1)).Nodup) : env.setAll xs l = some v := by
  induction xs generalizing env with
  | nil => cases h
  | cons y ys ih =>
    obtain ⟨hy, hys⟩ := List.nodup_cons.1 hnodup
    rcases List.mem_cons.1 h with rfl | h
    · rw [Labels.setAll_cons, Labels.setAll_of_notMem hy, Labels.set_same]
    · exact ih h hys

theorem Carries.setAll {S : Type} {env : Labels Λ (List S)} {xs : List (Λ × List S)}
    (hnodup : (xs.map (·.1)).Nodup) :
    Carries (env.setAll xs) (xs.map (·.1)) (xs.flatMap (·.2)) := by
  have hvalue : ∀ x ∈ xs, env.setAll xs x.1 = some x.2 :=
    fun x hx => Labels.setAll_of_mem hx hnodup
  refine ⟨fun l hl => ?_, ?_⟩
  · obtain ⟨x, hx, rfl⟩ := List.mem_map.1 hl
    rw [hvalue x hx]
    rfl
  · rw [List.flatMap_map]
    refine .of_eq (List.flatMap_congr fun x hx => ?_)
    rw [Labels.content, hvalue x hx, Option.getD_some]

def Pad.value (source : Nat → Option V) (env : Labels Λ V) : Pad Λ → Option V
  | .stream input => source input
  | .label l => env l

section

variable (sem : F → List V → Option (List V)) (source : Nat → Option V)

/-- One part: what its filter makes of what it reads. -/
def evalPart (env : Labels Λ V) (p : FilterPart Λ F) : Option (Labels Λ V) := do
  let inputs ← p.inputs.mapM (Pad.value source env)
  let outputs ← sem p.filter inputs
  if outputs.length = p.outputs.length then some (env.setAll (p.outputs.zip outputs)) else none

def evalGraph (env : Labels Λ V) (parts : List (FilterPart Λ F)) : Option (Labels Λ V) :=
  parts.foldlM (evalPart sem source) env

variable {sem source}

@[simp] theorem evalGraph_nil (env : Labels Λ V) : evalGraph sem source env [] = some env := rfl

theorem evalGraph_cons {env env' : Labels Λ V} {p : FilterPart Λ F}
    (h : evalPart sem source env p = some env') (ps : List (FilterPart Λ F)) :
    evalGraph sem source env (p :: ps) = evalGraph sem source env' ps := by
  unfold evalGraph
  rw [List.foldlM_cons, h]
  rfl

theorem evalGraph_append {env env' : Labels Λ V} {ps : List (FilterPart Λ F)}
    (h : evalGraph sem source env ps = some env') (qs : List (FilterPart Λ F)) :
    evalGraph sem source env (ps ++ qs) = evalGraph sem source env' qs := by
  unfold evalGraph at *
  rw [List.foldlM_append, h]
  rfl

/-- A part with one output. -/
theorem evalPart_single {env : Labels Λ V} {pads : List (Pad Λ)} {filter : F} {l : Λ}
    {vs : List V} {v : V} (hpads : pads.mapM (Pad.value source env) = some vs)
    (hsem : sem filter vs = some [v]) :
    evalPart sem source env ⟨pads, filter, [l]⟩ = some (env.set l v) := by
  unfold evalPart
  rw [hpads, Option.bind_eq_bind, Option.bind_some, hsem]
  rfl

theorem evalPart_frame {env env' : Labels Λ V} {p : FilterPart Λ F} {x : Λ}
    (h : evalPart sem source env p = some env') (hx : x ∉ p.outputs) : env' x = env x := by
  unfold evalPart at h
  obtain ⟨inputs, -, h⟩ := Option.bind_eq_some_iff.1 h
  obtain ⟨outputs, -, h⟩ := Option.bind_eq_some_iff.1 h
  by_cases hlength : outputs.length = p.outputs.length
  · rw [if_pos hlength] at h
    cases h
    refine Labels.setAll_of_notMem ?_
    rw [List.map_fst_zip (Nat.le_of_eq hlength.symm)]
    exact hx
  · rw [if_neg hlength] at h
    cases h

theorem evalGraph_frame {env env' : Labels Λ V} {parts : List (FilterPart Λ F)} {x : Λ}
    (h : evalGraph sem source env parts = some env') (hx : x ∉ defined parts) :
    env' x = env x := by
  induction parts generalizing env with
  | nil =>
    cases h
    rfl
  | cons p parts ih =>
    unfold evalGraph at h
    rw [List.foldlM_cons] at h
    obtain ⟨env₁, h₁, h⟩ := Option.bind_eq_some_iff.1 h
    obtain ⟨hp, hps⟩ := not_or.1 (mt List.mem_append.2 hx)
    exact (ih h hps).trans (evalPart_frame h₁ hp)

end

/-! ## Streams of sounds -/

section

variable {S : Type}

/-- A piece of a graph that leaves every sound it is given, once; `Q` is what it asks of a
sound. -/
structure Conveys (sem : F → List (List S) → Option (List (List S)))
    (source : Nat → Option (List S)) (Q : S → Prop) (parts : List (FilterPart Λ F))
    (given left : List Λ) : Prop where
  wires : Wires parts given left
  carries : ∀ env sounds, Carries env given sounds → (∀ s ∈ sounds, Q s) →
    ∃ env', evalGraph sem source env parts = some env' ∧ Carries env' left sounds

variable {sem : F → List (List S) → Option (List (List S))} {source : Nat → Option (List S)}
  {Q : S → Prop} {ps qs : List (FilterPart Λ F)} {given given' left left' rest ls : List Λ}

namespace Conveys

theorem refl : Conveys sem source Q ([] : List (FilterPart Λ F)) given given :=
  ⟨by simp [Wires, consumed, defined], fun env _ h _ => ⟨env, rfl, h⟩⟩

theorem append (hp : Conveys sem source Q ps given left) (hq : Conveys sem source Q qs left left') :
    Conveys sem source Q (ps ++ qs) given left' := by
  refine ⟨hp.wires.append hq.wires, fun env sounds h hQ => ?_⟩
  obtain ⟨env₁, h₁, hcarries⟩ := hp.carries env sounds h hQ
  obtain ⟨env₂, h₂, hcarries⟩ := hq.carries env₁ sounds hcarries hQ
  exact ⟨env₂, (evalGraph_append h₁ qs).trans h₂, hcarries⟩

theorem of_perm (h : Conveys sem source Q ps given left) (hp : given'.Perm given) :
    Conveys sem source Q ps given' left :=
  ⟨h.wires.trans (hp.symm.append_right _), fun env sounds hc => h.carries env sounds (hc.of_perm hp)⟩

/-- Labels the piece does not define may wait beside it. -/
theorem frame (h : Conveys sem source Q ps given left) (hrest : ∀ l ∈ rest, l ∉ defined ps) :
    Conveys sem source Q ps (given ++ rest) (left ++ rest) := by
  refine ⟨h.wires.frame rest, fun env sounds hc hQ => ?_⟩
  have hgiven : Carries env given (given.flatMap env.content) :=
    ⟨fun l hl => hc.isSome l (List.mem_append_left _ hl), .refl _⟩
  have hsplit := hc.perm
  rw [List.flatMap_append] at hsplit
  obtain ⟨env', heval, hleft⟩ := h.carries env _ hgiven fun s hs =>
    hQ s (hsplit.mem_iff.1 (List.mem_append_left _ hs))
  have hsame : ∀ l ∈ rest, env' l = env l := fun l hl => evalGraph_frame heval (hrest l hl)
  refine ⟨env', heval, fun l hl => ?_, ?_⟩
  · rcases List.mem_append.1 hl with hl | hl
    · exact hleft.isSome l hl
    · rw [hsame l hl]
      exact hc.isSome l (List.mem_append_right _ hl)
  · have hkeep : rest.flatMap env'.content = rest.flatMap env.content :=
      List.flatMap_congr fun l hl => by rw [Labels.content, hsame l hl, Labels.content]
    rw [List.flatMap_append, hkeep]
    exact (hleft.perm.append_right _).trans hsplit

/-- One part that puts all its streams into one. -/
theorem single {filter : F} {output : Λ}
    (hsem : ∀ streams : List (List S), streams.length = ls.length → (∀ s ∈ streams.flatten, Q s) →
      sem filter streams = some [streams.flatten]) :
    Conveys sem source Q [⟨ls.map .label, filter, [output]⟩] ls [output] := by
  refine ⟨.single ls filter output, fun env sounds hc hQ => ?_⟩
  have hinputs : (ls.map Pad.label).mapM (Pad.value source env) = some (ls.map env.content) := by
    refine mapM_eq_some.2 ?_
    rw [List.forall₂_map_left_iff, List.forall₂_map_right_iff, List.forall₂_same]
    exact fun l hl => hc.content_eq hl
  have hflat : (ls.map env.content).flatten = ls.flatMap env.content := List.flatMap_def.symm
  have hfilter := hsem (ls.map env.content) (List.length_map _) fun s hs =>
    hQ s (hc.perm.mem_iff.1 (hflat ▸ hs))
  rw [hflat] at hfilter
  refine ⟨env.set output _, by rw [evalGraph_cons (evalPart_single hinputs hfilter)]; rfl, ?_, ?_⟩
  · intro l hl
    rw [List.mem_singleton.1 hl, Labels.set_same]
    rfl
  · rw [List.flatMap_singleton, Labels.content, Labels.set_same]
    exact hc.perm

end Conveys
end
end AutomationTool
