import AutomationTool.Core.Prog

/-!
# Schedules

A schedule says which program starts and which one makes its next call. Playing it computes
the states and the labels of a run of the pool, whatever the interleaving; `run_play` says
that it is one.
-/
namespace AutomationTool

variable {σ Op : Type} {Ret : Op → Type}

inductive Turn (Op : Type) (Ret : Op → Type) where
  | start (p : Prog Op Ret Unit)
  | next (i : Nat)
  | crash

/-- The next call of a program, if it has one. -/
def Prog.call? : Prog Op Ret Unit → Option ((o : Op) × (Ret o → Prog Op Ret Unit))
  | .call o k => some ⟨o, k⟩
  | _ => none

/-- The next call of a program. One that is over does nothing. -/
def Pool.next (exec : (o : Op) → σ → Ret o × σ) (P : Pool σ Op Ret) (i : Nat) :
    List (PoolLabel Op Ret) × Pool σ Op Ret :=
  match P.procs[i]?.bind Prog.call? with
  | none => ([], P)
  | some ⟨o, k⟩ =>
    ([.turn i ⟨o, (exec o P.state).1⟩],
      ⟨(exec o P.state).2, P.procs.set i (k (exec o P.state).1)⟩)

def Pool.move (exec : (o : Op) → σ → Ret o × σ) (P : Pool σ Op Ret) :
    Turn Op Ret → List (PoolLabel Op Ret) × Pool σ Op Ret
  | .start p => ([.spawn p], { P with procs := P.procs ++ [p] })
  | .next i => P.next exec i
  | .crash => ([.crash], { P with procs := [] })

/-- The labels of the run, and where it ends. -/
def Pool.play (exec : (o : Op) → σ → Ret o × σ) :
    List (Turn Op Ret) → Pool σ Op Ret → List (PoolLabel Op Ret) × Pool σ Op Ret
  | [], P => ([], P)
  | t :: ts, P =>
    let x := P.move exec t
    let y := Pool.play exec ts x.2
    (x.1 ++ y.1, y.2)

/-- Every program that starts is offered. -/
def Offers (offered : Prog Op Ret Unit → Prop) : List (Turn Op Ret) → Prop
  | [] => True
  | .start p :: ts => offered p ∧ Offers offered ts
  | _ :: ts => Offers offered ts

/-- A program that starts, and makes some calls with nobody in between. -/
def alone (i : Nat) (p : Prog Op Ret Unit) (calls : Nat) : List (Turn Op Ret) :=
  .start p :: List.replicate calls (.next i)

section

variable {offered : Prog Op Ret Unit → Prop} {ts us : List (Turn Op Ret)}

@[simp] theorem offers_nil : Offers offered [] ↔ True := Iff.rfl

@[simp] theorem offers_start {p : Prog Op Ret Unit} :
    Offers offered (.start p :: ts) ↔ offered p ∧ Offers offered ts := Iff.rfl

@[simp] theorem offers_next {i : Nat} : Offers offered (.next i :: ts) ↔ Offers offered ts := Iff.rfl

@[simp] theorem offers_crash : Offers offered (.crash :: ts) ↔ Offers offered ts := Iff.rfl

@[simp] theorem offers_append :
    Offers offered (ts ++ us) ↔ Offers offered ts ∧ Offers offered us := by
  induction ts with
  | nil => simp
  | cons t ts ih => cases t <;> simp [ih, and_assoc]

@[simp] theorem offers_replicate {n i : Nat} :
    Offers offered (List.replicate n (.next i : Turn Op Ret)) := by
  induction n with
  | zero => trivial
  | succ n ih => exact ih

@[simp] theorem offers_alone {i n : Nat} {p : Prog Op Ret Unit} :
    Offers offered (alone i p n) ↔ offered p := by simp [alone]

end

/-- Every call meets `H` in the state it is made in. -/
def Pool.meetsAll (exec : (o : Op) → σ → Ret o × σ) (H : Op → σ → Prop) :
    List (Turn Op Ret) → Pool σ Op Ret → Prop
  | [], _ => True
  | t :: ts, P => (∀ l ∈ (P.move exec t).1, PoolLabel.meets H l P) ∧
      Pool.meetsAll exec H ts (P.move exec t).2

instance (H : Op → σ → Prop) [∀ o s, Decidable (H o s)] (l : PoolLabel Op Ret)
    (P : Pool σ Op Ret) : Decidable (PoolLabel.meets H l P) :=
  match l with
  | .turn _ c => inferInstanceAs (Decidable (H c.1 P.state))
  | .spawn _ => isTrue trivial
  | .crash => isTrue trivial

def Pool.decMeetsAll (exec : (o : Op) → σ → Ret o × σ) (H : Op → σ → Prop)
    [∀ o s, Decidable (H o s)] :
    (ts : List (Turn Op Ret)) → (P : Pool σ Op Ret) → Decidable (P.meetsAll exec H ts)
  | [], _ => isTrue trivial
  | t :: ts, P => @instDecidableAnd _ _ _ (Pool.decMeetsAll exec H ts (P.move exec t).2)

instance (exec : (o : Op) → σ → Ret o × σ) (H : Op → σ → Prop) [∀ o s, Decidable (H o s)]
    (ts : List (Turn Op Ret)) (P : Pool σ Op Ret) : Decidable (P.meetsAll exec H ts) :=
  Pool.decMeetsAll exec H ts P

theorem Pool.run_move {init : σ → Prop} {exec : (o : Op) → σ → Ret o × σ}
    {offered : Prog Op Ret Unit → Prop} {H : Op → σ → Prop} {t : Turn Op Ret} {P : Pool σ Op Ret}
    (ht : ∀ p, t = .start p → offered p) (hH : ∀ l ∈ (P.move exec t).1, PoolLabel.meets H l P) :
    ((pool init exec offered).restrict (PoolLabel.meets H)).Run P (P.move exec t).1
      (P.move exec t).2 := by
  cases t with
  | start p => exact .single ⟨.spawn P (ht p rfl), trivial⟩
  | crash => exact .single ⟨.crash P, trivial⟩
  | next i =>
    change ∀ l ∈ (P.next exec i).1, _ at hH
    show LTS.Run _ P (P.next exec i).1 (P.next exec i).2
    unfold Pool.next at hH ⊢
    cases hp : P.procs[i]?.bind Prog.call? with
    | none => exact .nil P
    | some c =>
      obtain ⟨o, k⟩ := c
      obtain ⟨p, hi, hk⟩ := Option.bind_eq_some_iff.1 hp
      have hcall : p = .call o k := by
        cases p with
        | call o' k' => cases hk; rfl
        | pure => cases hk
        | raise => cases hk
      rw [hp] at hH
      exact .single ⟨.turn P (hi.trans (congrArg some hcall)), hH _ (List.mem_singleton_self _)⟩

/-- A schedule is a run. -/
theorem Pool.run_play {init : σ → Prop} {exec : (o : Op) → σ → Ret o × σ}
    {offered : Prog Op Ret Unit → Prop} {H : Op → σ → Prop} {ts : List (Turn Op Ret)}
    {P : Pool σ Op Ret} (ho : Offers offered ts) (hH : P.meetsAll exec H ts) :
    ((pool init exec offered).restrict (PoolLabel.meets H)).Run P (P.play exec ts).1
      (P.play exec ts).2 := by
  induction ts generalizing P with
  | nil => exact .nil P
  | cons t ts ih =>
    refine (run_move (fun p hp => ?_) hH.1).append (ih ?_ hH.2)
    · subst hp
      exact ho.1
    · cases t with
      | start p => exact ho.2
      | next i => exact ho
      | crash => exact ho

/-- Without a condition on the calls. -/
theorem Pool.meetsAll_true {exec : (o : Op) → σ → Ret o × σ} {ts : List (Turn Op Ret)}
    {P : Pool σ Op Ret} : P.meetsAll exec (fun _ _ => True) ts := by
  induction ts generalizing P with
  | nil => exact trivial
  | cons t ts ih =>
    refine ⟨fun l _ => ?_, ih⟩
    cases l <;> exact trivial

end AutomationTool
