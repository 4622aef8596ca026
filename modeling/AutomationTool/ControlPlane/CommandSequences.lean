import AutomationTool.ControlPlane.CommandDelivery

/-!
# The sequences of an attempt's commands

Every writer of the outbox but one numbers its command itself: 1 for a new attempt, one
more than the last otherwise (`CommandStep`). The sequences of an attempt then have no gap
(`Consecutive.sequences`). The one that does not is `enqueue`, whose caller names a
sequence; nothing in the control plane calls it.
-/
namespace AutomationTool.ControlPlane

open Protocol TaskCommandRepository TaskTargetRepository TaskDiscoveryRepository
  ActionExecutionOrchestrationRepository

/-- An operation that is told the sequence of its command. -/
def Op.numbersItself : Op → Bool
  | .enqueue _ => false
  | _ => true

/-- An effect, seen from `task_commands`. -/
inductive CommandStep (o : Op) (db db' : Db) : Prop where
  | unchanged (h : db'.taskCommands = db.taskCommands)
  | delivered (h : Delivered db.taskCommands db'.taskCommands)
  | inserted {c : TaskCommand} (h : db.taskCommands.insert? c = some db'.taskCommands)
      (hs : o.numbersItself = true →
        c.sequence = 1 ∨ c.sequence = lastSequence db c.executionAttemptId + 1)

theorem Effect.commandStep {o : Op} {db db' : Db} (h : Effect o db db') : CommandStep o db db' := by
  cases h with
  | delivered ho h => exact .delivered h
  | enqueued h => exact .inserted h nofun
  | controlled h hc => exact .inserted hc fun _ => .inr rfl
  | terminated h hk hc => exact .inserted hc fun _ => .inr rfl
  | discoveryStarted h ha hc => exact .inserted hc fun _ => .inl rfl
  | offered h ha hc => exact .inserted hc fun _ => .inl rfl
  | actionEnqueued h hc => exact .inserted hc fun _ => .inr rfl
  | _ => exact .unchanged rfl

/-- Every command is the first of its attempt, or comes right after another one. -/
def Consecutive (db : Db) : Prop :=
  ∀ c ∈ db.taskCommands, c.sequence = 1 ∨ ∃ d ∈ db.taskCommands,
    d.executionAttemptId = c.executionAttemptId ∧ d.sequence + 1 = c.sequence

theorem consecutive_empty : Consecutive Db.empty := fun _ h => absurd h (Relation.not_mem_empty _)

theorem Consecutive.step {o : Op} {db db' : Db} (h : Consecutive db) (ho : o.numbersItself = true)
    (hs : CommandStep o db db') : Consecutive db' := by
  cases hs with
  | unchanged heq =>
    intro c hc
    rw [heq] at hc ⊢
    exact h c hc
  | delivered hd =>
    obtain ⟨f, hrows, hf⟩ := hd
    have hsame : ∀ c ∈ db.taskCommands,
        (f c).executionAttemptId = c.executionAttemptId ∧ (f c).sequence = c.sequence := by
      intro c hc
      rcases hf c hc with heq | hm
      · rw [heq]
        exact ⟨rfl, rfl⟩
      · exact ⟨hm.executionAttemptId, hm.sequence⟩
    intro c' hc'
    rw [Relation.mem_def, hrows] at hc'
    obtain ⟨c, hc, rfl⟩ := List.mem_map.1 hc'
    obtain ⟨h1, h2⟩ := hsame c hc
    rw [h1, h2]
    rcases h c hc with hfirst | ⟨d, hd, he, hseq⟩
    · exact .inl hfirst
    · obtain ⟨g1, g2⟩ := hsame d hd
      refine .inr ⟨f d, ?_, g1.trans he, by rw [g2, hseq]⟩
      rw [Relation.mem_def, hrows]
      exact List.mem_map_of_mem hd
  | @inserted c hi hseq =>
    have hold : ∀ d ∈ db.taskCommands, d ∈ db'.taskCommands := fun d hd =>
      (Relation.mem_insert? hi).2 (.inl hd)
    intro x hx
    rcases (Relation.mem_insert? hi).1 hx with hx | rfl
    · rcases h x hx with hfirst | ⟨d, hd, hrest⟩
      · exact .inl hfirst
      · exact .inr ⟨d, hold d hd, hrest⟩
    · rcases hseq ho with hfirst | hnext
      · exact .inl hfirst
      · by_cases hpos : 0 < lastSequence db x.executionAttemptId
        · obtain ⟨d, hd, hp, hmax⟩ := Relation.maxOf_mem hpos
          exact .inr ⟨d, hold d hd, of_decide_eq_true hp, by rw [hnext, hmax]; rfl⟩
        · left
          omega

/-- Every sequence up to that of a command is taken. -/
theorem Consecutive.below {db : Db} (h : Consecutive db) {c : TaskCommand}
    (hc : c ∈ db.taskCommands) {n : Nat} (h1 : 1 ≤ n) (hn : n ≤ c.sequence) :
    ∃ d ∈ db.taskCommands, d.executionAttemptId = c.executionAttemptId ∧ d.sequence = n := by
  -- from the command downwards
  induction hk : c.sequence - n generalizing c with
  | zero => exact ⟨c, hc, rfl, by omega⟩
  | succ k ih =>
    rcases h c hc with hfirst | ⟨d, hd, he, hseq⟩
    · omega
    · obtain ⟨x, hx, hxe, hxn⟩ := ih hd (by omega) (by omega)
      exact ⟨x, hx, hxe.trans he, hxn⟩

/-- The sequences of an attempt's commands are those from 1 to the last, each once. -/
theorem Consecutive.sequences {db : Db} (h : Consecutive db) (e : ExecutionAttemptId) :
    ((db.taskCommands.rows.filter fun c => c.executionAttemptId = e).map TaskCommand.sequence).Perm
      (List.range' 1 (lastSequence db e)) := by
  refine (List.perm_ext_iff_of_nodup ?_ List.nodup_range').2 fun n => ?_
  · refine List.pairwise_map.2 ?_
    refine (db.taskCommands.distinct.filter _).imp_of_mem fun ha hb hab he => ?_
    simp only [List.mem_filter, decide_eq_true_eq] at ha hb
    exact hab.2.1 ⟨ha.2.trans hb.2.symm, he⟩
  · simp only [List.mem_map, List.mem_filter, decide_eq_true_eq, List.mem_range'_1]
    constructor
    · rintro ⟨c, ⟨hc, he⟩, rfl⟩
      have hpos : 1 ≤ c.sequence := (db.taskCommands.checked c hc).1
      have hle : c.sequence ≤ lastSequence db e := Relation.le_maxOf hc (decide_eq_true he)
      omega
    · rintro ⟨h1, hlt⟩
      obtain ⟨c, hc, hp, hmax⟩ := Relation.maxOf_mem (t := db.taskCommands)
        (p := fun c => c.executionAttemptId = e) (f := TaskCommand.sequence)
        (show 0 < lastSequence db e by omega)
      have hle : n ≤ c.sequence := by
        rw [hmax]
        show n ≤ lastSequence db e
        omega
      obtain ⟨d, hd, hde, hdn⟩ := h.below hc h1 hle
      exact ⟨d, ⟨hd, hde.trans (of_decide_eq_true hp)⟩, hdn⟩

end AutomationTool.ControlPlane
