import AutomationTool.Core.Prog

/-!
# Programs with results on one service

A `Crew` is a pool of programs in which every program stays visible: a worker keeps
the request it serves, and when its program is over, the result. Workers take turns
call by call; a crashed worker is one that takes no further turn. Calls of other
clients of the service come in between at any time.

`crew_inductive` is the induction rule: an invariant of the service and, for every
worker, what it knows at the point of its program where it stands, as long as the
state only moves along `rely`.
-/
namespace AutomationTool

variable {ρ σ Op : Type} {Ret : Op → Type} {α : Type}

structure CrewMember (ρ Op : Type) (Ret : Op → Type) (α : Type) where
  request : ρ
  todo : Prog Op Ret α

/-- What a program that is over returned. -/
def Prog.result? : Prog Op Ret α → Option α
  | .pure a => some a
  | _ => none

def CrewMember.result? (w : CrewMember ρ Op Ret α) : Option α := w.todo.result?

theorem Prog.result?_eq_some {p : Prog Op Ret α} {a : α} (h : p.result? = some a) :
    p = .pure a := by
  cases p with
  | pure b =>
    cases h
    rfl
  | raise => cases h
  | call => cases h

structure Crew (ρ σ Op : Type) (Ret : Op → Type) (α : Type) where
  state : σ
  workers : List (CrewMember ρ Op Ret α)

inductive CrewLabel (ρ Op : Type) where
  | start (r : ρ)
  | turn (i : Nat)
  | other (o : Op)

/-- `prog r` serves the request `r`; `offered` requests may come at any time, and
`others` are the calls of other clients. -/
inductive CrewStep (exec : (o : Op) → σ → Ret o × σ) (prog : ρ → Prog Op Ret α)
    (offered : ρ → Prop) (others : Op → Prop) :
    Crew ρ σ Op Ret α → CrewLabel ρ Op → Crew ρ σ Op Ret α → Prop where
  | start (W : Crew ρ σ Op Ret α) {r : ρ} (hr : offered r) :
      CrewStep exec prog offered others W (.start r)
        { W with workers := W.workers ++ [⟨r, prog r⟩] }
  | turn (W : Crew ρ σ Op Ret α) {i : Nat} {r : ρ} {o : Op} {k : Ret o → Prog Op Ret α}
      (hi : W.workers[i]? = some ⟨r, .call o k⟩) :
      CrewStep exec prog offered others W (.turn i)
        ⟨(exec o W.state).2, W.workers.set i ⟨r, k (exec o W.state).1⟩⟩
  | other (W : Crew ρ σ Op Ret α) {o : Op} (ho : others o) :
      CrewStep exec prog offered others W (.other o) { W with state := (exec o W.state).2 }

def crew (init : σ → Prop) (exec : (o : Op) → σ → Ret o × σ) (prog : ρ → Prog Op Ret α)
    (offered : ρ → Prop) (others : Op → Prop) : LTS (Crew ρ σ Op Ret α) (CrewLabel ρ Op) where
  init W := init W.state ∧ W.workers = []
  step := CrewStep exec prog offered others

/-- The obligations of `crew_inductive`: `I` is about the service, `V` about a worker. -/
structure CrewRules (init : σ → Prop) (exec : (o : Op) → σ → Ret o × σ)
    (prog : ρ → Prog Op Ret α) (offered : ρ → Prop) (others : Op → Prop) (I : σ → Prop)
    (V : ρ → Prog Op Ret α → σ → Prop) (rely : σ → σ → Prop) : Prop where
  init : ∀ s, init s → I s
  start : ∀ r s, I s → offered r → V r (prog r) s
  turn : ∀ r o k s, I s → V r (.call o k) s →
    I (exec o s).2 ∧ rely s (exec o s).2 ∧ V r (k (exec o s).1) (exec o s).2
  other : ∀ o s, I s → others o → I (exec o s).2 ∧ rely s (exec o s).2
  stable : ∀ r p s s', V r p s → rely s s' → V r p s'

theorem crew_inductive {init : σ → Prop} {exec : (o : Op) → σ → Ret o × σ}
    {prog : ρ → Prog Op Ret α} {offered : ρ → Prop} {others : Op → Prop} {I : σ → Prop}
    {V : ρ → Prog Op Ret α → σ → Prop} {rely : σ → σ → Prop}
    (h : CrewRules init exec prog offered others I V rely) :
    (crew init exec prog offered others).Inductive fun W =>
      I W.state ∧ ∀ w ∈ W.workers, V w.request w.todo W.state := by
  constructor
  · rintro W ⟨hi, hw⟩
    refine ⟨h.init _ hi, fun w hmem => ?_⟩
    rw [hw] at hmem
    cases hmem
  · rintro W l W' ⟨hI, hV⟩ hs
    cases hs with
    | @start r hr =>
      refine ⟨hI, fun w hmem => ?_⟩
      rcases List.mem_append.1 hmem with hmem | hmem
      · exact hV w hmem
      · rw [List.mem_singleton.1 hmem]
        exact h.start r _ hI hr
    | @turn i r o k hi =>
      obtain ⟨hI', hrely, hmine⟩ := h.turn r o k _ hI (hV _ (List.mem_of_getElem? hi))
      refine ⟨hI', fun w hmem => ?_⟩
      rcases List.mem_or_eq_of_mem_set hmem with hmem | rfl
      · exact h.stable _ _ _ _ (hV w hmem) hrely
      · exact hmine
    | @other o ho =>
      obtain ⟨hI', hrely⟩ := h.other o _ hI ho
      exact ⟨hI', fun w hmem => h.stable _ _ _ _ (hV w hmem) hrely⟩

end AutomationTool
