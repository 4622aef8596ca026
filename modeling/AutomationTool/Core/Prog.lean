import AutomationTool.Core.LTS

/-!
# Programs over an atomic service

A service is a total function `exec : (o : Op) → σ → Ret o × σ`: one call is one
transaction, it reads and writes the shared state at once. A program (`Prog`)
is a tree of calls, so between two of its calls the state may be changed by
anybody; `raise` is an exception nobody caught yet.

* `calls`: the service alone, called by anybody in any order, as a labelled
  transition system whose labels carry the reply.
* `pool`: any number of programs running on one service, interleaved call by
  call; `crash` drops every running program.
* `wp`: what must hold now for every call of a program to be `ok` in the state
  it is issued in, whatever happens in between, as long as the state only moves
  along `rely`. `wp_bind` and `wp_attempt` are its rules.
* `pool_calls`: when every offered program meets its `wp`, a state the pool
  reaches is a state that `ok` calls alone reach. A theorem about `calls` is
  then one about every interleaving of the programs; `pool_turn` says the same
  of a single step.
-/
namespace AutomationTool

inductive Prog (Op : Type) (Ret : Op → Type) (α : Type) : Type where
  | pure (a : α)
  | raise
  | call (o : Op) (k : Ret o → Prog Op Ret α)

namespace Prog

variable {σ Op : Type} {Ret : Op → Type} {α β γ : Type}

protected def bind : Prog Op Ret α → (α → Prog Op Ret β) → Prog Op Ret β
  | .pure a, f => f a
  | .raise, _ => .raise
  | .call o k, f => .call o fun r => (k r).bind f

instance : Monad (Prog Op Ret) where
  pure := .pure
  bind := Prog.bind

/-- One call. -/
def op (o : Op) : Prog Op Ret (Ret o) := .call o .pure

/-- `try … except`: `none` when the program raised. -/
def attempt : Prog Op Ret α → Prog Op Ret (Option α)
  | .pure a => .pure (some a)
  | .raise => .pure none
  | .call o k => .call o fun r => (k r).attempt

/-- A value that may be missing: its absence raises. -/
def ofOption : Option α → Prog Op Ret α
  | some a => .pure a
  | none => .raise

/-- A step that needs an input (a clock reading), and fails without one. -/
def given {τ : Type} (x : Option τ) (f : τ → Prog Op Ret (Option α)) : Prog Op Ret (Option α) :=
  match x with
  | none => .pure none
  | some t => f t

/-- `if not p: raise`. -/
def require (p : Prop) [Decidable p] : Prog Op Ret Unit := if p then .pure () else .raise

/-- Calls made one after another, whatever they are answered. -/
def each : List Op → Prog Op Ret Unit
  | [] => .pure ()
  | o :: os => .call o fun _ => each os

@[simp] theorem pure_bind (a : α) (f : α → Prog Op Ret β) :
    ((Pure.pure a : Prog Op Ret α) >>= f) = f a := rfl

@[simp] theorem pure_bind' (a : α) (f : α → Prog Op Ret β) :
    ((Prog.pure a : Prog Op Ret α) >>= f) = f a := rfl

@[simp] theorem raise_bind (f : α → Prog Op Ret β) :
    ((Prog.raise : Prog Op Ret α) >>= f) = .raise := rfl

@[simp] theorem call_bind (o : Op) (k : Ret o → Prog Op Ret α) (f : α → Prog Op Ret β) :
    (Prog.call o k >>= f) = .call o fun r => k r >>= f := rfl

@[simp] theorem op_bind (o : Op) (f : Ret o → Prog Op Ret β) :
    ((op o : Prog Op Ret (Ret o)) >>= f) = .call o f := rfl

@[simp] theorem ofOption_some (a : α) : (ofOption (some a) : Prog Op Ret α) = .pure a := rfl

@[simp] theorem ofOption_none : (ofOption none : Prog Op Ret α) = .raise := rfl

@[simp] theorem given_none {τ : Type} (f : τ → Prog Op Ret (Option α)) :
    given none f = .pure none := rfl

@[simp] theorem given_some {τ : Type} (t : τ) (f : τ → Prog Op Ret (Option α)) :
    given (some t) f = f t := rfl

/-! ## Running alone -/

variable (exec : (o : Op) → σ → Ret o × σ)

/-- A run nobody interferes with: the result, `none` when it raised, and the
final state. -/
def run : Prog Op Ret α → σ → Option α × σ
  | .pure a, s => (some a, s)
  | .raise, s => (none, s)
  | .call o k, s => (k (exec o s).1).run (exec o s).2

@[simp] theorem run_pure (a : α) (s : σ) : run exec (Prog.pure a) s = (some a, s) := rfl

@[simp] theorem run_pure' (a : α) (s : σ) :
    run exec (Pure.pure a : Prog Op Ret α) s = (some a, s) := rfl

@[simp] theorem run_raise (s : σ) : run exec (Prog.raise : Prog Op Ret α) s = (none, s) := rfl

@[simp] theorem run_call (o : Op) (k : Ret o → Prog Op Ret α) (s : σ) :
    run exec (.call o k) s = run exec (k (exec o s).1) (exec o s).2 := rfl

theorem run_bind (p : Prog Op Ret α) (f : α → Prog Op Ret β) (s : σ) :
    run exec (p >>= f) s =
      match run exec p s with
      | (some a, s') => run exec (f a) s'
      | (none, s') => (none, s') := by
  induction p generalizing s with
  | pure a => rfl
  | raise => rfl
  | call o k ih => exact ih _ _

@[simp] theorem run_op (o : Op) (s : σ) :
    run exec (op o) s = (some (exec o s).1, (exec o s).2) := rfl

/-- A run that returns, returned at every step. -/
theorem run_bind_some {p : Prog Op Ret α} {f : α → Prog Op Ret β} {s s' : σ} {b : β}
    (h : run exec (p >>= f) s = (some b, s')) :
    ∃ a t, run exec p s = (some a, t) ∧ run exec (f a) t = (some b, s') := by
  rw [run_bind] at h
  cases hp : run exec p s with
  | mk x t =>
    rw [hp] at h
    cases x with
    | none => cases h
    | some a => exact ⟨a, t, rfl, h⟩

theorem run_ofOption_bind {x : Option α} {f : α → Prog Op Ret β} {s s' : σ} {b : β}
    (h : run exec (ofOption x >>= f) s = (some b, s')) :
    ∃ a, x = some a ∧ run exec (f a) s = (some b, s') := by
  cases x with
  | none => cases h
  | some a => exact ⟨a, rfl, h⟩

theorem run_require_bind {p : Prop} [Decidable p] {f : Unit → Prog Op Ret β} {s s' : σ} {b : β}
    (h : run exec (require p >>= f) s = (some b, s')) : p ∧ run exec (f ()) s = (some b, s') := by
  unfold require at h
  split at h
  · exact ⟨‹_›, h⟩
  · cases h

theorem run_attempt (p : Prog Op Ret α) (s : σ) :
    run exec p.attempt s = (some (run exec p s).1, (run exec p s).2) := by
  induction p generalizing s with
  | pure a => rfl
  | raise => rfl
  | call o k ih => exact ih _ _

@[simp] theorem run_ofOption (x : Option α) (s : σ) :
    run exec (ofOption x : Prog Op Ret α) s = (x, s) := by
  cases x <;> rfl

/-- Every call of a run nobody interferes with meets `H`. -/
def meets (H : Op → σ → Prop) : Prog Op Ret α → σ → Prop
  | .pure _, _ => True
  | .raise, _ => True
  | .call o k, s => H o s ∧ (k (exec o s).1).meets H (exec o s).2

def decMeets (H : Op → σ → Prop) [∀ o s, Decidable (H o s)] :
    (p : Prog Op Ret α) → (s : σ) → Decidable (p.meets exec H s)
  | .pure _, _ => .isTrue trivial
  | .raise, _ => .isTrue trivial
  | .call o k, s => @instDecidableAnd _ _ _ (decMeets H (k (exec o s).1) (exec o s).2)

instance (H : Op → σ → Prop) [∀ o s, Decidable (H o s)] (p : Prog Op Ret α) (s : σ) :
    Decidable (p.meets exec H s) := decMeets exec H p s

theorem meets_true (p : Prog Op Ret α) (s : σ) : p.meets exec (fun _ _ => True) s := by
  induction p generalizing s with
  | pure a => exact trivial
  | raise => exact trivial
  | call o k ih => exact ⟨trivial, ih _ _⟩

/-! ## Running among others -/

/-- `ok` calls keep the invariant and move the state along a preorder. -/
structure Guarantee (exec : (o : Op) → σ → Ret o × σ) (inv : σ → Prop) (rely : σ → σ → Prop)
    (ok : Op → σ → Prop) : Prop where
  refl : ∀ s, rely s s
  trans : ∀ a b c, rely a b → rely b c → rely a c
  keeps : ∀ o s, inv s → ok o s → inv (exec o s).2
  moves : ∀ o s, inv s → ok o s → rely s (exec o s).2

variable (inv : σ → Prop) (rely : σ → σ → Prop) (ok : Op → σ → Prop)

/-- Every call of the program is `ok` where it is issued; `Q` holds of the
result and `E` of the state in which it raises. The state may move along
`rely` before every call. -/
def wp : Prog Op Ret α → (α → σ → Prop) → (σ → Prop) → σ → Prop
  | .pure a, Q, _, s => Q a s
  | .raise, _, E, s => E s
  | .call o k, Q, E, s =>
    ∀ s', inv s' → rely s s' → ok o s' ∧ (k (exec o s').1).wp Q E (exec o s').2

/-- `wp` for the calls alone. -/
abbrev safe (p : Prog Op Ret α) (s : σ) : Prop :=
  p.wp exec inv rely ok (fun _ _ => True) (fun _ => True) s

variable {exec inv rely ok}

theorem wp_mono {p : Prog Op Ret α} {Q Q' : α → σ → Prop} {E E' : σ → Prop} {s : σ}
    (h : p.wp exec inv rely ok Q E s) (hQ : ∀ a s, Q a s → Q' a s) (hE : ∀ s, E s → E' s) :
    p.wp exec inv rely ok Q' E' s := by
  induction p generalizing s with
  | pure a => exact hQ a s h
  | raise => exact hE s h
  | call o k ih =>
    intro s' hi hr
    exact ⟨(h s' hi hr).1, ih _ (h s' hi hr).2⟩

theorem wp_bind {p : Prog Op Ret α} {f : α → Prog Op Ret β} {Q : β → σ → Prop} {E : σ → Prop}
    {s : σ} (h : p.wp exec inv rely ok (fun a s => (f a).wp exec inv rely ok Q E s) E s) :
    (p >>= f).wp exec inv rely ok Q E s := by
  induction p generalizing s with
  | pure a => exact h
  | raise => exact h
  | call o k ih =>
    intro s' hi hr
    exact ⟨(h s' hi hr).1, ih _ (h s' hi hr).2⟩

theorem wp_op {o : Op} {f : Ret o → Prog Op Ret β} {Q : β → σ → Prop} {E : σ → Prop} {s : σ}
    (h : ∀ s', inv s' → rely s s' →
      ok o s' ∧ (f (exec o s').1).wp exec inv rely ok Q E (exec o s').2) :
    (op o >>= f).wp exec inv rely ok Q E s := h

/-- Where a program ends, the invariant holds and the state moved along `rely`. -/
theorem wp_since (G : Guarantee exec inv rely ok) {p : Prog Op Ret α} {Q : α → σ → Prop}
    {E : σ → Prop} {s₀ s : σ} (hs : inv s) (h₀ : rely s₀ s)
    (h : p.wp exec inv rely ok Q E s) :
    p.wp exec inv rely ok (fun a t => Q a t ∧ inv t ∧ rely s₀ t) E s := by
  induction p generalizing s with
  | pure a => exact ⟨h, hs, h₀⟩
  | raise => exact h
  | call o k ih =>
    intro s' hi hr
    obtain ⟨hok, hk⟩ := h s' hi hr
    exact ⟨hok, ih _ (G.keeps o s' hi hok)
      (G.trans _ _ _ (G.trans _ _ _ h₀ hr) (G.moves o s' hi hok)) hk⟩

theorem wp_ofOption {x : Option α} {Q : α → σ → Prop} {E : σ → Prop} {s : σ}
    (h : ∀ a, x = some a → Q a s) (hE : E s) :
    (ofOption x : Prog Op Ret α).wp exec inv rely ok Q E s := by
  cases x with
  | none => exact hE
  | some a => exact h a rfl

theorem wp_require {p : Prop} [Decidable p] {Q : Unit → σ → Prop} {E : σ → Prop} {s : σ}
    (h : p → Q () s) (hE : E s) :
    (require p : Prog Op Ret Unit).wp exec inv rely ok Q E s := by
  unfold require
  split
  · exact h ‹_›
  · exact hE

/-- Every call of the program is one of `A`, however the calls are answered. -/
def uses (A : Op → Prop) : Prog Op Ret α → Prop
  | .pure _ => True
  | .raise => True
  | .call o k => A o ∧ ∀ r, (k r).uses A

section Uses

variable {A : Op → Prop}

@[simp] theorem uses_pure (a : α) : (Pure.pure a : Prog Op Ret α).uses A := trivial

@[simp] theorem uses_raise : (.raise : Prog Op Ret α).uses A := trivial

@[simp] theorem uses_op {o : Op} : (op o : Prog Op Ret (Ret o)).uses A ↔ A o :=
  ⟨fun h => h.1, fun h => ⟨h, fun _ => trivial⟩⟩

@[simp] theorem uses_ofOption (x : Option α) : (ofOption x : Prog Op Ret α).uses A := by
  cases x <;> exact trivial

theorem uses_bind {p : Prog Op Ret α} {f : α → Prog Op Ret β} (hp : p.uses A)
    (hf : ∀ a, (f a).uses A) : (p >>= f).uses A := by
  induction p with
  | pure a => exact hf a
  | raise => exact trivial
  | call o k ih => exact ⟨hp.1, fun r => ih r (hp.2 r)⟩

theorem uses_mono {B : Op → Prop} (h : ∀ o, A o → B o) {p : Prog Op Ret α} (hp : p.uses A) :
    p.uses B := by
  induction p with
  | pure a => exact trivial
  | raise => exact trivial
  | call o k ih => exact ⟨h o hp.1, fun r => ih r (hp.2 r)⟩

theorem uses_given {τ : Type} {x : Option τ} {f : τ → Prog Op Ret (Option α)}
    (hf : ∀ t, (f t).uses A) : (given x f).uses A := by
  cases x with
  | none => exact trivial
  | some t => exact hf t

theorem uses_require (p : Prop) [Decidable p] : (require p : Prog Op Ret Unit).uses A := by
  unfold require
  split <;> exact trivial

theorem uses_attempt {p : Prog Op Ret α} (hp : p.uses A) : p.attempt.uses A := by
  induction p with
  | pure a => exact trivial
  | raise => exact trivial
  | call o k ih => exact ⟨hp.1, fun r => ih r (hp.2 r)⟩

theorem uses_each {os : List Op} (h : ∀ o ∈ os, A o) : (each os : Prog Op Ret Unit).uses A := by
  induction os with
  | nil => exact trivial
  | cons o os ih =>
    exact ⟨h o List.mem_cons_self, fun _ => ih fun o' ho' => h o' (List.mem_cons_of_mem _ ho')⟩

/-- A program that only makes calls that cannot be wrong. -/
theorem wp_of_uses (G : Guarantee exec inv rely ok) (h : ∀ o s, A o → inv s → ok o s)
    {p : Prog Op Ret α} (hp : p.uses A) {Q : α → σ → Prop} {E : σ → Prop}
    (hQ : ∀ a s, inv s → Q a s) (hE : ∀ s, inv s → E s) {s : σ} (hs : inv s) :
    p.wp exec inv rely ok Q E s := by
  induction p generalizing s with
  | pure a => exact hQ a s hs
  | raise => exact hE s hs
  | call o k ih =>
    intro s' hi _
    have hok := h o s' hp.1 hi
    exact ⟨hok, ih _ (hp.2 _) (G.keeps o s' hi hok)⟩

end Uses

/-- What others do in the meantime does not invalidate `wp`. -/
theorem wp_rely (htrans : ∀ a b c, rely a b → rely b c → rely a c) {p : Prog Op Ret α} {s s' : σ}
    (h : p.safe exec inv rely ok s) (hr : rely s s') : p.safe exec inv rely ok s' := by
  cases p with
  | pure a => exact trivial
  | raise => exact trivial
  | call o k => exact fun t hi ht => h t hi (htrans _ _ _ hr ht)

end Prog

/-! ## The service called by anybody -/

section Systems

variable {σ Op : Type} {Ret : Op → Type}

/-- One call and its reply. -/
abbrev Call (Op : Type) (Ret : Op → Type) := (o : Op) × Ret o

/-- Any `ok` call at any time. -/
def calls (init : σ → Prop) (exec : (o : Op) → σ → Ret o × σ) (ok : Op → σ → Prop) :
    LTS σ (Call Op Ret) where
  init := init
  step s c s' := ok c.1 s ∧ exec c.1 s = (c.2, s')

/-- An invariant of the service, from one obligation per call. -/
theorem calls_inductive {init : σ → Prop} {exec : (o : Op) → σ → Ret o × σ}
    {ok : Op → σ → Prop} {P : σ → Prop} (h0 : ∀ s, init s → P s)
    (h1 : ∀ o s, P s → ok o s → P (exec o s).2) : (calls init exec ok).Inductive P where
  init := h0
  step s c s' hp hs := by
    have := h1 c.1 s hp hs.1
    rwa [hs.2] at this

/-- The state a list of calls leads to. -/
def after (exec : (o : Op) → σ → Ret o × σ) : σ → List Op → σ
  | s, [] => s
  | s, o :: os => after exec (exec o s).2 os

/-- A list of calls, each with the reply it gets. -/
def replies (exec : (o : Op) → σ → Ret o × σ) : σ → List Op → List (Call Op Ret)
  | _, [] => []
  | s, o :: os => ⟨o, (exec o s).1⟩ :: replies exec (exec o s).2 os

/-- Every call of the list is `ok` where it is made. -/
def AllOk (exec : (o : Op) → σ → Ret o × σ) (ok : Op → σ → Prop) : σ → List Op → Prop
  | _, [] => True
  | s, o :: os => ok o s ∧ AllOk exec ok (exec o s).2 os

theorem allOk_of_forall {exec : (o : Op) → σ → Ret o × σ} {ok : Op → σ → Prop} {os : List Op}
    (h : ∀ o ∈ os, ∀ s, ok o s) (s : σ) : AllOk exec ok s os := by
  induction os generalizing s with
  | nil => exact trivial
  | cons o os ih =>
    exact ⟨h o List.mem_cons_self s, ih (fun o' ho' => h o' (List.mem_cons_of_mem _ ho')) _⟩

/-- A list of `ok` calls is a run. -/
theorem run_replies (init : σ → Prop) {exec : (o : Op) → σ → Ret o × σ} {ok : Op → σ → Prop}
    {s : σ} {os : List Op} (h : AllOk exec ok s os) :
    (calls init exec ok).Run s (replies exec s os) (after exec s os) := by
  induction os generalizing s with
  | nil => exact .nil s
  | cons o os ih => exact .cons ⟨h.1, rfl⟩ (ih h.2)

theorem after_append (exec : (o : Op) → σ → Ret o × σ) (s : σ) (os os' : List Op) :
    after exec s (os ++ os') = after exec (after exec s os) os' := by
  induction os generalizing s with
  | nil => rfl
  | cons o os ih => exact ih _

/-- What every call keeps, a list of calls keeps. -/
theorem after_inv {exec : (o : Op) → σ → Ret o × σ} {P : σ → Prop} {os : List Op}
    (h : ∀ o ∈ os, ∀ s, P s → P (exec o s).2) {s : σ} (hs : P s) : P (after exec s os) := by
  induction os generalizing s with
  | nil => exact hs
  | cons o os ih =>
    exact ih (fun o' ho' => h o' (List.mem_cons_of_mem _ ho')) (h o List.mem_cons_self s hs)

/-- A preorder every call moves along relates the ends of a list of calls. -/
theorem after_rel {exec : (o : Op) → σ → Ret o × σ} {R : σ → σ → Prop} (hrefl : ∀ s, R s s)
    (htrans : ∀ a b c, R a b → R b c → R a c) (h : ∀ o s, R s (exec o s).2) (s : σ)
    (os : List Op) : R s (after exec s os) := by
  induction os generalizing s with
  | nil => exact hrefl s
  | cons o os ih => exact htrans _ _ _ (h o s) (ih _)

/-- A service and the programs that run on it. -/
structure Pool (σ Op : Type) (Ret : Op → Type) where
  state : σ
  procs : List (Prog Op Ret Unit)

inductive PoolLabel (Op : Type) (Ret : Op → Type) where
  | spawn (p : Prog Op Ret Unit)
  | turn (i : Nat) (c : Call Op Ret)
  | crash

/-- Any offered program may start at any time, any running program may take
its next call, and a crash loses all of them at once. -/
inductive PoolStep (exec : (o : Op) → σ → Ret o × σ) (offered : Prog Op Ret Unit → Prop) :
    Pool σ Op Ret → PoolLabel Op Ret → Pool σ Op Ret → Prop where
  | spawn (P : Pool σ Op Ret) {p : Prog Op Ret Unit} (hp : offered p) :
      PoolStep exec offered P (.spawn p) { P with procs := P.procs ++ [p] }
  | turn (P : Pool σ Op Ret) {i : Nat} {o : Op} {k : Ret o → Prog Op Ret Unit}
      (hi : P.procs[i]? = some (.call o k)) :
      PoolStep exec offered P (.turn i ⟨o, (exec o P.state).1⟩)
        ⟨(exec o P.state).2, P.procs.set i (k (exec o P.state).1)⟩
  | crash (P : Pool σ Op Ret) : PoolStep exec offered P .crash { P with procs := [] }

def pool (init : σ → Prop) (exec : (o : Op) → σ → Ret o × σ)
    (offered : Prog Op Ret Unit → Prop) : LTS (Pool σ Op Ret) (PoolLabel Op Ret) where
  init P := init P.state ∧ P.procs = []
  step := PoolStep exec offered

/-- What every call keeps holds whatever runs. -/
theorem pool_invariant {init : σ → Prop} {exec : (o : Op) → σ → Ret o × σ}
    {offered : Prog Op Ret Unit → Prop} {I : σ → Prop} (h0 : ∀ s, init s → I s)
    (h1 : ∀ o s, I s → I (exec o s).2) :
    (pool init exec offered).Inductive fun P => I P.state := by
  constructor
  · exact fun P hP => h0 _ hP.1
  · intro P l P' hI hs
    cases hs with
    | spawn => exact hI
    | turn => exact h1 _ _ hI
    | crash => exact hI

/-- A condition on calls, as one on the labels of the pool. -/
def PoolLabel.meets (H : Op → σ → Prop) : PoolLabel Op Ret → Pool σ Op Ret → Prop
  | .turn _ c, P => H c.1 P.state
  | _, _ => True

/-- An offered program may run to its end with nothing in between. `H` is a
condition on the calls of the run. -/
theorem pool_run {init : σ → Prop} {exec : (o : Op) → σ → Ret o × σ}
    {offered : Prog Op Ret Unit → Prop} {H : Op → σ → Prop} {s : σ}
    (h : ((pool init exec offered).restrict (PoolLabel.meets H)).Reachable ⟨s, []⟩)
    {p : Prog Op Ret Unit} (hp : offered p) (hH : p.meets exec H s) :
    ((pool init exec offered).restrict (PoolLabel.meets H)).Reachable ⟨(p.run exec s).2, []⟩ := by
  have hrun : ∀ (q : Prog Op Ret Unit) (t : σ), q.meets exec H t →
      ((pool init exec offered).restrict (PoolLabel.meets H)).Reachable ⟨t, [q]⟩ →
      ∃ q', ((pool init exec offered).restrict (PoolLabel.meets H)).Reachable
        ⟨(q.run exec t).2, [q']⟩ := by
    intro q
    induction q with
    | pure a => exact fun t _ ht => ⟨_, ht⟩
    | raise => exact fun t _ ht => ⟨_, ht⟩
    | call o k ih =>
      exact fun t hq ht => ih _ _ hq.2
        (ht.next ⟨PoolStep.turn ⟨t, [.call o k]⟩ (i := 0) rfl, hq.1⟩)
  obtain ⟨q', hq⟩ := hrun p s hH (h.next ⟨PoolStep.spawn _ hp, trivial⟩)
  exact hq.next ⟨PoolStep.crash _, trivial⟩

section Safe

variable {init : σ → Prop} {exec : (o : Op) → σ → Ret o × σ} {offered : Prog Op Ret Unit → Prop}
  {inv : σ → Prop} {rely : σ → σ → Prop} {ok : Op → σ → Prop}
  (G : Prog.Guarantee exec inv rely ok) (h0 : ∀ s, init s → inv s)
  (hsafe : ∀ p, offered p → ∀ s, inv s → p.safe exec inv rely ok s) (H : Op → σ → Prop)
include G h0 hsafe

/-- The service is in a state that `ok` calls alone reach, and every program is safe from
here on. -/
theorem pool_safe : ((pool init exec offered).restrict (PoolLabel.meets H)).Inductive fun P =>
    inv P.state ∧ ((calls init exec ok).restrict fun c s => H c.1 s).Reachable P.state ∧
      ∀ p ∈ P.procs, p.safe exec inv rely ok P.state := by
  constructor
  · rintro P ⟨hi, hp⟩
    refine ⟨h0 _ hi, .of_init hi, ?_⟩
    rw [hp]
    intro p hp
    cases hp
  · rintro P l P' ⟨hinv, hreach, hall⟩ ⟨hs, hH⟩
    cases hs with
    | spawn hp =>
      refine ⟨hinv, hreach, fun p hmem => ?_⟩
      rcases List.mem_append.1 hmem with h | h
      · exact hall p h
      · rw [List.mem_singleton.1 h]
        exact hsafe _ hp _ hinv
    | @turn i o k hi =>
      obtain ⟨hok, hk⟩ := hall _ (List.mem_of_getElem? hi) P.state hinv (G.refl _)
      refine ⟨G.keeps o _ hinv hok, hreach.next ⟨⟨hok, rfl⟩, hH⟩, fun p hmem => ?_⟩
      rcases List.mem_or_eq_of_mem_set hmem with h | rfl
      · exact Prog.wp_rely G.trans (hall p h) (G.moves o _ hinv hok)
      · exact hk
    | crash => exact ⟨hinv, hreach, fun p hmem => nomatch hmem⟩

/-- Safe programs, interleaved in any way, only ever issue `ok` calls: what the
pool reaches, `ok` calls alone reach. `H` is an extra condition on the calls
of the run. -/
theorem pool_calls {P : Pool σ Op Ret}
    (hP : ((pool init exec offered).restrict (PoolLabel.meets H)).Reachable P) :
    ((calls init exec ok).restrict fun c s => H c.1 s).Reachable P.state :=
  ((pool_safe G h0 hsafe H).reachable hP).2.1

/-- The next call of a safe program is `ok`, and the service keeps its invariant. -/
theorem pool_turn {P P' : Pool σ Op Ret} {i : Nat} {c : Call Op Ret}
    (hP : ((pool init exec offered).restrict (PoolLabel.meets H)).Reachable P)
    (hs : (pool init exec offered).step P (.turn i c) P') :
    inv P.state ∧ ok c.1 P.state ∧ exec c.1 P.state = (c.2, P'.state) := by
  obtain ⟨hinv, -, hall⟩ := (pool_safe G h0 hsafe H).reachable hP
  cases hs with
  | turn hi => exact ⟨hinv, (hall _ (List.mem_of_getElem? hi) P.state hinv (G.refl _)).1, rfl⟩

end Safe

end Systems
end AutomationTool
