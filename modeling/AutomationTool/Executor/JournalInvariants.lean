import AutomationTool.Executor.History

/-!
# Invariants of the journal

A step of the journal is a step of one attempt's history and leaves the others
alone (`Step.history`), so `History.Inv` holds of every attempt. Across attempts:
every message answers a stored command of its own attempt (`sourced`), and
outbox ordinals are `1, 2, …, n` (`ordinals`).

`inv_inductive` carries this to the ledger: operations the executor issues keep
it. `exec_later` is what a caller may rely on between two of its calls.
-/
namespace AutomationTool.Executor

open Protocol Dispatch Ledger

namespace Journal

def commandsOf (J : Journal) (e : ExecutionAttemptId) : List Command :=
  J.commands.rows.filter fun c => c.executionAttemptId = e

/-- The task and step events of an attempt, in outbox order. -/
def eventsOf (J : Journal) (e : ExecutionAttemptId) : List OutboxFact :=
  J.sent.filter fun f => f.message.executionAttemptId = e && f.message.isTaskEvent

def history (J : Journal) (e : ExecutionAttemptId) : History :=
  ⟨J.checkpoint e, J.commandsOf e, J.eventsOf e⟩

def Sourced (J : Journal) : Prop := ∀ f ∈ J.sent, ∃ c ∈ J.commands,
  c.messageId = f.sourceMessageId ∧ c.executionAttemptId = f.message.executionAttemptId ∧
    c.correlationId = f.message.correlationId

def Ordinals (J : Journal) : Prop :=
  J.sent.map (·.ordinal) = List.range' 1 J.sent.length

structure Inv (J : Journal) : Prop where
  sourced : J.Sourced
  ordinals : J.Ordinals
  attempts : ∀ e, (J.history e).Inv

/-! ## The views of an attempt -/

theorem mem_commandsOf {J : Journal} {e : ExecutionAttemptId} {c : Command} :
    c ∈ J.commandsOf e ↔ c ∈ J.commands ∧ c.executionAttemptId = e := by
  unfold commandsOf
  rw [List.mem_filter, decide_eq_true_eq]
  exact Iff.rfl

theorem mem_eventsOf {J : Journal} {e : ExecutionAttemptId} {f : OutboxFact} :
    f ∈ J.eventsOf e ↔ f ∈ J.sent ∧ f.message.executionAttemptId = e ∧
      f.message.isTaskEvent = true := by
  unfold eventsOf
  rw [List.mem_filter, Bool.and_eq_true, decide_eq_true_eq]

theorem Inv.good {J : Journal} (h : J.Inv) {e : ExecutionAttemptId} {p : AttemptCheckpoint}
    (hp : J.checkpoint e = some p) : History.Good p (J.commandsOf e) (J.eventsOf e) := by
  have := h.attempts e
  unfold History.Inv history at this
  rw [hp] at this
  exact this

theorem Inv.nothing {J : Journal} (h : J.Inv) {e : ExecutionAttemptId}
    (hp : J.checkpoint e = none) : J.commandsOf e = [] ∧ J.eventsOf e = [] := by
  have := h.attempts e
  unfold History.Inv history at this
  rw [hp] at this
  exact this

theorem Inv.linked {J : Journal} (h : J.Inv) : J.Linked := by
  intro c hc
  cases hp : J.checkpoint c.executionAttemptId with
  | some p => exact ⟨p, rfl⟩
  | none =>
    have hmem := mem_commandsOf.2 ⟨hc, rfl⟩
    rw [(h.nothing hp).1] at hmem
    cases hmem

/-- Stored commands with one message id are one command. -/
theorem eq_of_messageId {t : Table Command} {c d : Command} (hc : c ∈ t) (hd : d ∈ t)
    (h : c.messageId = d.messageId) : c = d :=
  Table.eq_of_not_apart hc hd fun hab => hab.1 h

/-- An event is sent for a stored command of the attempt exactly when the outbox has it. -/
theorem Inv.sent_iff {J : Journal} (h : J.Inv) {c : Command} (hc : c ∈ J.commands)
    {t : TaskEventType} : History.Sent (J.eventsOf c.executionAttemptId) c t ↔
      ∃ f ∈ J.sent, f.sourceMessageId = c.messageId ∧ f.message.eventType = some t := by
  constructor
  · rintro ⟨f, hf, h⟩
    exact ⟨f, (mem_eventsOf.1 hf).1, h⟩
  · rintro ⟨f, hf, hsrc, ht⟩
    obtain ⟨d, hd, hid, hatt, -⟩ := h.sourced f hf
    rw [eq_of_messageId hd hc (hid.trans hsrc)] at hatt
    exact ⟨f, mem_eventsOf.2 ⟨hf, hatt.symm, Outbound.isTaskEvent_of_eventType ht⟩, hsrc, ht⟩

theorem checkpoint_first {t P : Table AttemptCheckpoint} {c : Command}
    (hP : t.insert? (firstCheckpoint c) = some P) (e : ExecutionAttemptId) :
    checkpointOf P e =
      if e = c.executionAttemptId then some (firstCheckpoint c) else checkpointOf t e := by
  unfold checkpointOf
  rw [Table.find?_insert? hP]
  by_cases he : e = c.executionAttemptId
  · subst he
    have hnone : t.find? (fun p => p.attemptId = c.executionAttemptId) = none :=
      Table.find?_eq_none.2 fun p hp hd => Table.insert?_fresh hP p hp (of_decide_eq_true hd)
    simp [hnone, firstCheckpoint]
  · have : ¬(firstCheckpoint c).attemptId = e := fun h => he h.symm
    simp [he, this]

theorem checkpoint_put {t : Table AttemptCheckpoint} {e₀ : ExecutionAttemptId}
    {p : AttemptCheckpoint} (hp : checkpointOf t e₀ = some p) (p' : AttemptCheckpoint)
    (ha : p'.attemptId = p.attemptId) (e : ExecutionAttemptId) :
    checkpointOf (putCheckpoint t p') e = if e = e₀ then some p' else checkpointOf t e := by
  rw [checkpointOf_put, ha, (checkpointOf_eq_some.1 hp).2]
  by_cases he : e = e₀
  · subst he
    simp [hp]
  · simp [he]

theorem commandsOf_insert {J : Journal} {c : Command} {P : Table AttemptCheckpoint}
    {C : Table Command} {S : List OutboxFact} (hC : J.commands.insert? c = some C)
    (e : ExecutionAttemptId) : Journal.commandsOf ⟨P, C, S⟩ e =
      if e = c.executionAttemptId then J.commandsOf e ++ [c] else J.commandsOf e := by
  unfold commandsOf
  rw [Table.insert?_rows hC, List.filter_append]
  by_cases he : e = c.executionAttemptId
  · simp [he]
  · have : ¬c.executionAttemptId = e := fun h => he h.symm
    simp [he, this]

/-- A batch for `c` adds its events to the attempt of `c`. -/
theorem eventsOf_append {J : Journal} {P : Table AttemptCheckpoint} {C : Table Command}
    {c : Command} {n : Nat} {ms : List Outbound}
    (hms : ∀ m ∈ ms, m.executionAttemptId = c.executionAttemptId ∧
      m.correlationId = c.correlationId) (e : ExecutionAttemptId) :
    Journal.eventsOf ⟨P, C, J.sent ++ newFacts c.messageId n ms⟩ e =
      if e = c.executionAttemptId then
        J.eventsOf e ++ (newFacts c.messageId n ms).filter (·.message.isTaskEvent)
      else J.eventsOf e := by
  unfold eventsOf
  rw [List.filter_append]
  split
  · rename_i he
    congr 1
    refine List.filter_congr fun f hf => ?_
    rw [(hms _ (mem_newFacts hf).2).1, he, decide_eq_true rfl, Bool.true_and]
  · rename_i he
    have hnil : (newFacts c.messageId n ms).filter (fun f =>
        f.message.executionAttemptId = e && f.message.isTaskEvent) = [] := by
      refine List.filter_eq_nil_iff.2 fun f hf => ?_
      rw [(hms _ (mem_newFacts hf).2).1, Bool.and_eq_true, decide_eq_true_eq]
      exact fun h => he h.1.symm
    rw [hnil, List.append_nil]

/-! ## One step -/

section Steps

variable {J J' : Journal} {l : Label}

/-- What an executor says does not depend on the messages of other attempts. -/
theorem Emits.of_subset {S S' : List OutboxFact} {c : Command} {p p' : AttemptCheckpoint}
    {ms : List Outbound} (h : Emits S c p l p' ms) (hS : ∀ f ∈ S', f ∈ S) :
    Emits S' c p l p' ms := by
  cases h with
  | acknowledge hm => exact .acknowledge hm
  | outcome h hfresh => exact .outcome h fun f hf => hfresh f (hS f hf)
  | control hseq hst ht hm => exact .control hseq hst ht hm
  | recover hc hseq hst hm ht hmseq hkey hv hfresh =>
    exact .recover hc hseq hst hm ht hmseq hkey hv fun f hf => hfresh f (hS f hf)

/-- **Attempts are independent.** A step of the journal is a step of one attempt. -/
theorem Step.history (h : Step J l J') (hJ : J.Inv) :
    ∃ e₀, (J.history e₀).Step l (J'.history e₀) ∧ ∀ e ≠ e₀, J'.history e = J.history e := by
  cases h with
  | @first c P C hnone hseq hopens hP hC =>
    obtain ⟨hcs, hes⟩ := hJ.nothing hnone
    refine ⟨c.executionAttemptId, ?_, fun e he => ?_⟩
    · unfold Journal.history Journal.checkpoint
      rw [commandsOf_insert hC, checkpoint_first hP, if_pos rfl, if_pos rfl, hcs]
      change History.Step ⟨J.checkpoint _, [], J.eventsOf _⟩ _ ⟨_, _, J.eventsOf _⟩
      rw [hnone, hes]
      exact .first hseq hopens
    · unfold Journal.history Journal.checkpoint
      rw [commandsOf_insert hC, checkpoint_first hP, if_neg he, if_neg he]
      rfl
  | @next c p C hp htask hseq hadm hC =>
    refine ⟨c.executionAttemptId, ?_, fun e he => ?_⟩
    · unfold Journal.history Journal.checkpoint
      rw [commandsOf_insert hC, checkpoint_put hp _ (by rfl), if_pos rfl, if_pos rfl]
      change History.Step ⟨J.checkpoint _, _, _⟩ _ ⟨_, _, J.eventsOf _⟩
      rw [hp]
      exact .next htask hseq hadm fun d hd =>
        (Table.insert?_fresh hC d (mem_commandsOf.1 hd).1).1
    · unfold Journal.history Journal.checkpoint
      rw [commandsOf_insert hC, checkpoint_put hp _ (by rfl), if_neg he, if_neg he]
      rfl
  | @emits c p p' l ms hc hp hms he =>
    refine ⟨c.executionAttemptId, ?_, fun e hne => ?_⟩
    · unfold Journal.history Journal.checkpoint
      rw [eventsOf_append hms, checkpoint_put hp p' he.checkpoint.1, if_pos rfl, if_pos rfl]
      change History.Step ⟨J.checkpoint _, _, _⟩ _ ⟨_, J.commandsOf _, _⟩
      rw [hp]
      exact .emits (mem_commandsOf.2 ⟨hc, rfl⟩) (he.of_subset fun f hf => (mem_eventsOf.1 hf).1)
    · unfold Journal.history Journal.checkpoint
      rw [eventsOf_append hms, checkpoint_put hp p' he.checkpoint.1, if_neg hne, if_neg hne]
      rfl

theorem Step.sourced (h : Step J l J') (hJ : J.Sourced) : J'.Sourced := by
  cases h with
  | first hnone hseq hopens hP hC =>
    intro f hf
    obtain ⟨c, hc, h⟩ := hJ f hf
    exact ⟨c, (Table.mem_insert? hC).2 (.inl hc), h⟩
  | next hp htask hseq hadm hC =>
    intro f hf
    obtain ⟨c, hc, h⟩ := hJ f hf
    exact ⟨c, (Table.mem_insert? hC).2 (.inl hc), h⟩
  | emits hc hp hms he =>
    intro f hf
    rcases List.mem_append.1 hf with hf | hf
    · exact hJ f hf
    · obtain ⟨hsrc, hm⟩ := mem_newFacts hf
      exact ⟨_, hc, hsrc.symm, (hms _ hm).1.symm, (hms _ hm).2.symm⟩

/-- After `1, …, n` the next ordinal is `n + 1`. -/
theorem nextOrdinal_eq (hJ : J.Ordinals) : nextOrdinal J.sent = J.sent.length + 1 := by
  unfold nextOrdinal
  rw [hJ]
  cases hn : J.sent.length with
  | zero => rfl
  | succ n =>
    have : (List.range' 1 (n + 1)).max? = some (n + 1) := by
      refine List.max?_eq_some_iff.2 ⟨?_, fun b hb => ?_⟩
      · rw [List.mem_range'_1]; omega
      · rw [List.mem_range'_1] at hb; omega
    rw [this]
    rfl

theorem length_newFacts (m : MessageId) (n : Nat) (ms : List Outbound) :
    (newFacts m n ms).length = ms.length := by
  have := congrArg List.length (newFacts_ordinals m n ms)
  simpa using this

theorem Step.ordinals (h : Step J l J') (hJ : J.Ordinals) : J'.Ordinals := by
  cases h with
  | first => exact hJ
  | next => exact hJ
  | emits hc hp hms he =>
    unfold Ordinals
    rw [List.map_append, newFacts_ordinals, hJ, nextOrdinal_eq hJ, List.length_append,
      length_newFacts, Nat.add_comm J.sent.length 1, List.range'_append_1]

theorem Inv.step (hJ : J.Inv) (h : Step J l J') : J'.Inv where
  sourced := h.sourced hJ.sourced
  ordinals := h.ordinals hJ.ordinals
  attempts e := by
    obtain ⟨e₀, hs, hother⟩ := h.history hJ
    by_cases he : e = e₀
    · rw [he]
      exact (hJ.attempts e₀).step hs
    · rw [hother e he]
      exact hJ.attempts e

theorem inv_empty : (Ledger.empty.journal).Inv where
  sourced _ hf := nomatch hf
  ordinals := rfl
  attempts _ := ⟨rfl, rfl⟩

end Steps

/-! ## The journal only grows -/

/-- Checkpoints change with their revision; commands and messages are appended. -/
structure Later (J J' : Journal) : Prop where
  checkpoint : ∀ e p, J.checkpoint e = some p →
    ∃ p', J'.checkpoint e = some p' ∧ (p' = p ∨ p.revision < p'.revision)
  commands : J.commands.rows <+: J'.commands.rows
  sent : J.sent <+: J'.sent

theorem Later.refl (J : Journal) : J.Later J :=
  ⟨fun _ p hp => ⟨p, hp, .inl rfl⟩, List.prefix_rfl, List.prefix_rfl⟩

theorem Later.trans {a b c : Journal} (h₁ : a.Later b) (h₂ : b.Later c) : a.Later c where
  checkpoint e p hp := by
    obtain ⟨q, hq, hpq⟩ := h₁.checkpoint e p hp
    obtain ⟨r, hr, hqr⟩ := h₂.checkpoint e q hq
    refine ⟨r, hr, ?_⟩
    rcases hpq with rfl | hpq
    · exact hqr
    · rcases hqr with rfl | hqr
      · exact .inr hpq
      · exact .inr (Nat.lt_trans hpq hqr)
  commands := h₁.commands.trans h₂.commands
  sent := h₁.sent.trans h₂.sent

theorem Later.mem {J J' : Journal} (h : J.Later J') {c : Command} (hc : c ∈ J.commands) :
    c ∈ J'.commands := h.commands.subset hc

/-- A checkpoint read before is still there when its revision is. -/
theorem Later.same {J J' : Journal} (h : J.Later J') {e : ExecutionAttemptId}
    {p p' : AttemptCheckpoint} (hp : J.checkpoint e = some p) (hp' : J'.checkpoint e = some p')
    (hr : p'.revision = p.revision) : p' = p := by
  obtain ⟨q, hq, hpq⟩ := h.checkpoint e p hp
  rw [hp'] at hq
  cases hq
  rcases hpq with h | h
  · exact h
  · omega

theorem Step.later {J J' : Journal} {l : Label} (h : Step J l J') : J.Later J' := by
  cases h with
  | @first c P C hnone hseq hopens hP hC =>
    refine ⟨fun e p hp => ⟨p, ?_, .inl rfl⟩, ?_, List.prefix_rfl⟩
    · unfold Journal.checkpoint
      rw [checkpoint_first hP]
      split
      · rename_i he
        rw [he, hnone] at hp
        cases hp
      · exact hp
    · rw [Table.insert?_rows hC]
      exact List.prefix_append _ _
  | @next c p C hp htask hseq hadm hC =>
    refine ⟨fun e q hq => ?_, ?_, List.prefix_rfl⟩
    · unfold Journal.checkpoint
      rw [checkpoint_put hp _ (by rfl)]
      split
      · rename_i he
        rw [he, hp] at hq
        cases hq
        exact ⟨_, rfl, .inr (Nat.lt_succ_self _)⟩
      · exact ⟨q, hq, .inl rfl⟩
    · rw [Table.insert?_rows hC]
      exact List.prefix_append _ _
  | @emits c p p' l ms hc hp hms he =>
    obtain ⟨ha, -, -, hrev⟩ := he.checkpoint
    refine ⟨fun e q hq => ?_, List.prefix_rfl, List.prefix_append _ _⟩
    unfold Journal.checkpoint
    rw [checkpoint_put hp p' ha]
    split
    · rename_i hee
      rw [hee, hp] at hq
      cases hq
      refine ⟨p', rfl, hrev.imp id fun h => ?_⟩
      omega
    · exact ⟨q, hq, .inl rfl⟩

end Journal

/-! ## The ledger -/

namespace Ledger

open Journal

/-- The ledger called by the executor: any operation it issues, at any time. -/
def issuedCalls (I : Site) : LTS Ledger (Call Op Op.Ret) := calls (· = empty) (exec I) issued

theorem exec_journal (I : Site) {o : Op} {s : Ledger} (hs : s.journal.Inv) (ho : issued o s) :
    (exec I o s).2.journal = s.journal ∨
      ∃ l, o.Stands l ∧ Step s.journal l (exec I o s).2.journal :=
  effect_journal (exec_effect I o s) ho hs.linked

theorem exec_inv (I : Site) {o : Op} {s : Ledger} (hs : s.journal.Inv) (ho : issued o s) :
    (exec I o s).2.journal.Inv := by
  rcases exec_journal I hs ho with h | ⟨l, -, h⟩
  · rw [h]
    exact hs
  · exact hs.step h

theorem exec_later (I : Site) {o : Op} {s : Ledger} (hs : s.journal.Inv) (ho : issued o s) :
    s.journal.Later (exec I o s).2.journal := by
  rcases exec_journal I hs ho with h | ⟨l, -, h⟩
  · rw [h]
    exact .refl _
  · exact h.later

theorem inv_inductive (I : Site) : (issuedCalls I).Inductive fun s => s.journal.Inv :=
  calls_inductive (fun _ hs => hs ▸ inv_empty) fun _ _ hs ho => exec_inv I hs ho

/-- **The journal's invariants hold of every ledger the executor reaches.** -/
theorem inv_reachable {I : Site} {s : Ledger} (h : (issuedCalls I).Reachable s) : s.journal.Inv :=
  (inv_inductive I).reachable h

/-- What the executor's operations keep, and what they may rely on. -/
theorem guarantee (I : Site) : Prog.Guarantee (exec I) (fun s => s.journal.Inv)
    (fun s t => s.journal.Later t.journal) issued where
  refl s := .refl s.journal
  trans _ _ _ := Later.trans
  keeps _ _ := exec_inv I
  moves _ _ := exec_later I

end Ledger
end AutomationTool.Executor
