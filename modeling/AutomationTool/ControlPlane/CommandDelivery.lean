import AutomationTool.ControlPlane.Effect

/-!
# The life of an outbox row

Rows of `task_commands` are inserted pending and then only move, one revision at a time,
until they are settled (`Effect.command_kept`, `Effect.command_origin`). A row in flight is
exactly what some claim returned (`inFlight_claimed`), so the revision a delivery is made
with is that claim's.
-/
namespace AutomationTool.ControlPlane

open Protocol TaskCommandRepository

/-! ## Moves of one row -/

namespace CommandMove

variable {c c' : TaskCommand}

theorem messageId (h : CommandMove c c') : c'.messageId = c.messageId := by
  rw [h.identity]

theorem executionAttemptId (h : CommandMove c c') : c'.executionAttemptId = c.executionAttemptId := by
  rw [h.identity]

theorem sequence (h : CommandMove c c') : c'.sequence = c.sequence := by
  rw [h.identity]

theorem revision_lt (h : CommandMove c c') : c.revision < c'.revision := by
  rw [h.revision]
  exact Nat.lt_succ_self _

end CommandMove

/-- Every row is found again, as it was or moved. -/
theorem Effect.command_kept {o : Op} {db db' : Db} (h : Effect o db db') {c : TaskCommand}
    (hc : c ∈ db.taskCommands) : ∃ c' ∈ db'.taskCommands, c' = c ∨ CommandMove c c' := by
  cases h with
  | delivered ho h =>
    obtain ⟨f, hrows, hf⟩ := h
    refine ⟨f c, ?_, hf c hc⟩
    rw [Relation.mem_def, hrows]
    exact List.mem_map_of_mem hc
  | enqueued h => exact ⟨c, (Relation.mem_insert? h).2 (.inl hc), .inl rfl⟩
  | controlled h hi => exact ⟨c, (Relation.mem_insert? hi).2 (.inl hc), .inl rfl⟩
  | terminated h hk hi => exact ⟨c, (Relation.mem_insert? hi).2 (.inl hc), .inl rfl⟩
  | discoveryStarted h ha hi => exact ⟨c, (Relation.mem_insert? hi).2 (.inl hc), .inl rfl⟩
  | offered h ha hi => exact ⟨c, (Relation.mem_insert? hi).2 (.inl hc), .inl rfl⟩
  | actionEnqueued h hi => exact ⟨c, (Relation.mem_insert? hi).2 (.inl hc), .inl rfl⟩
  | _ => exact ⟨c, hc, .inl rfl⟩

/-- Every row was there before, as it is or before it moved, or is new and pending. -/
theorem Effect.command_origin {o : Op} {db db' : Db} (h : Effect o db db') {c' : TaskCommand}
    (hc : c' ∈ db'.taskCommands) :
    (∃ c ∈ db.taskCommands, c' = c ∨ o.isDelivery = true ∧ CommandMove c c') ∨
      c'.status = .pending ∧ db.taskCommands.insert? c' = some db'.taskCommands := by
  have hnew : ∀ {c rows}, db.taskCommands.insert? c = some rows → c.status = .pending →
      c' ∈ rows → (∃ c ∈ db.taskCommands, c' = c ∨ o.isDelivery = true ∧ CommandMove c c') ∨
        c'.status = .pending ∧ db.taskCommands.insert? c' = some rows := by
    intro c rows hi hs hm
    rcases (Relation.mem_insert? hi).1 hm with hm | rfl
    · exact .inl ⟨c', hm, .inl rfl⟩
    · exact .inr ⟨hs, hi⟩
  cases h with
  | delivered ho h =>
    obtain ⟨f, hrows, hf⟩ := h
    rw [Relation.mem_def, hrows] at hc
    obtain ⟨c, hm, rfl⟩ := List.mem_map.1 hc
    rcases hf c hm with heq | hmove
    · exact .inl ⟨c, hm, .inl heq⟩
    · exact .inl ⟨c, hm, .inr ⟨ho, hmove⟩⟩
  | enqueued h => exact hnew h rfl hc
  | controlled h hi => exact hnew hi rfl hc
  | terminated h hk hi => exact hnew hi rfl hc
  | discoveryStarted h ha hi => exact hnew hi rfl hc
  | offered h ha hi => exact hnew hi rfl hc
  | actionEnqueued h hi => exact hnew hi rfl hc
  | _ => exact .inl ⟨c', hc, .inl rfl⟩

/-- A row after any operations: as it was, or a later revision of a row that was not
settled. -/
theorem command_kept {db : Db} {c : TaskCommand} (hc : c ∈ db.taskCommands) (os : List Op) :
    ∃ c' ∈ (after exec db os).taskCommands, c'.messageId = c.messageId ∧
      (c' = c ∨ c.status.isTerminal = false ∧ c.revision < c'.revision) := by
  induction os generalizing db c with
  | nil => exact ⟨c, hc, rfl, .inl rfl⟩
  | cons o os ih =>
    obtain ⟨c₁, hc₁, h₁⟩ := (exec_effect o db).command_kept hc
    obtain ⟨c₂, hc₂, hid, h₂⟩ := ih hc₁
    refine ⟨c₂, hc₂, ?_, ?_⟩
    · rcases h₁ with rfl | hm
      · exact hid
      · exact hid.trans hm.messageId
    · rcases h₁ with rfl | hm
      · exact h₂
      · right
        rcases h₂ with rfl | ⟨-, hlt⟩
        · exact ⟨hm.live, hm.revision_lt⟩
        · exact ⟨hm.live, Nat.lt_trans hm.revision_lt hlt⟩

/-! ## Claims -/

/-- One of the operations is a claim that returned `c`, as it is. -/
def Claimed (os : List Op) (c : TaskCommand) : Prop :=
  ∃ os₁ request locked os₂ context, os = os₁ ++ .claimNext request locked :: os₂ ∧
    (exec (.claimNext request locked) (after exec Db.empty os₁)).1 = some (some (c, context))

theorem Claimed.append {os : List Op} {c : TaskCommand} (h : Claimed os c) (os' : List Op) :
    Claimed (os ++ os') c := by
  obtain ⟨os₁, request, locked, os₂, context, rfl, hc⟩ := h
  exact ⟨os₁, request, locked, os₂ ++ os', context, by simp, hc⟩

section Operations

variable {db db' : Db}

theorem expireDue_inFlight {i : InstallationId} {now : Time} {n : Nat}
    (h : expireDue i now db = some (n, db')) {c : TaskCommand} (hc : c ∈ db'.taskCommands)
    (hs : c.status = .inFlight) : c ∈ db.taskCommands := by
  simp only [expireDue, Option.bind_eq_bind, Option.bind_eq_some_iff, Option.pure_def,
    Option.some.injEq, Prod.mk.injEq] at h
  obtain ⟨rows, hr, -, rfl⟩ := h
  obtain ⟨c₀, hc₀, rfl⟩ := (Relation.mem_update? hr).1 hc
  by_cases hd : isDue i now c₀ = true
  · simp [hd, expired] at hs
  · simpa [hd] using hc₀

theorem replaced_inFlight {rows : Relation TaskCommand} {c c₀ c₁ : TaskCommand}
    (h : db.taskCommands.replace? c₀ c₁ = some rows) (hc₀ : c₀ ∈ db.taskCommands)
    (hs₁ : c₁.status ≠ .inFlight) (hc : c ∈ rows) (hs : c.status = .inFlight) :
    c ∈ db.taskCommands := by
  rcases (Relation.mem_replace? h hc₀).1 hc with rfl | hc
  · exact absurd hs hs₁
  · exact hc.1

theorem releaseForRetry_inFlight {m : MessageId} {n : Nat} {t t' : Time} {r : TaskCommand}
    (h : releaseForRetry m n t t' db = some (r, db')) {c : TaskCommand}
    (hc : c ∈ db'.taskCommands) (hs : c.status = .inFlight) : c ∈ db.taskCommands := by
  simp only [releaseForRetry, Option.bind_eq_bind, Option.bind_eq_some_iff, Option.pure_def,
    Option.guard_eq_some', Option.some.injEq, Prod.mk.injEq] at h
  obtain ⟨-, -, current, hcur, -, -, rows, hr, -, rfl⟩ := h
  refine replaced_inFlight hr (command?_eq_some.1 hcur).1 ?_ hc hs
  dsimp only
  split <;> decide

theorem finalStatus_ne_inFlight (type : TaskCommandResponseType) :
    finalStatus type ≠ .inFlight := by cases type <;> decide

theorem acknowledge_inFlight {response : TaskCommandResponse} {t : Time} {r : TaskCommand}
    (h : acknowledge response t db = some (r, db')) {c : TaskCommand}
    (hc : c ∈ db'.taskCommands) (hs : c.status = .inFlight) : c ∈ db.taskCommands := by
  simp only [acknowledge, Option.bind_eq_bind, Option.bind_eq_some_iff, Option.pure_def,
    Option.guard_eq_some'] at h
  obtain ⟨-, -, current, hcur, -, -, h⟩ := h
  split at h
  · simp only [Option.bind_eq_some_iff, Option.some.injEq, Prod.mk.injEq] at h
    obtain ⟨-, -, -, rfl⟩ := h
    exact hc
  · simp only [Option.bind_eq_some_iff, Option.some.injEq, Prod.mk.injEq] at h
    obtain ⟨-, -, -, rfl⟩ := h
    exact hc
  · cases h; exact hc
  · cases h
  · cases h
  · simp only [Option.bind_eq_some_iff, Option.some.injEq, Prod.mk.injEq] at h
    obtain ⟨rows, hr, -, rfl⟩ := h
    refine replaced_inFlight hr (answered?_eq_some.1 hcur).1 ?_ hc hs
    split
    · simp [expired]
    · exact finalStatus_ne_inFlight _

/-- A row is in flight because it was, or because a claim just returned it. -/
theorem inFlight_origin {o : Op} {c : TaskCommand} (hc : c ∈ (exec o db).2.taskCommands)
    (hs : c.status = .inFlight) : c ∈ db.taskCommands ∨
      ∃ request locked context, o = .claimNext request locked ∧
        (exec (.claimNext request locked) db).1 = some (some (c, context)) := by
  have hother : o.isDelivery = false → c ∈ db.taskCommands := by
    intro ho
    rcases (exec_effect o db).command_origin hc with ⟨c₀, hc₀, rfl | ⟨hd, -⟩⟩ | ⟨hp, -⟩
    · exact hc₀
    · rw [ho] at hd
      cases hd
    · rw [hs] at hp
      cases hp
  cases o with
  | expireDue i now =>
    left
    cases hx : expireDue i now db with
    | none => simpa [exec, hx] using hc
    | some x =>
      obtain ⟨r, db'⟩ := x
      exact expireDue_inFlight hx (by simpa [exec, hx] using hc) hs
  | claimNext request locked =>
    cases hx : claimNext request locked db with
    | none => exact .inl (by simpa [exec, hx] using hc)
    | some x =>
      obtain ⟨r, db'⟩ := x
      have hc' : c ∈ db'.taskCommands := by simpa [exec, hx] using hc
      rcases claimNext_eq_some hx with ⟨-, rfl⟩ | ⟨current, context, rows, hl, hr, rfl, rfl⟩
      · exact .inl hc'
      · rcases (Relation.mem_replace? hr (Relation.least?_eq_some hl).1).1 hc' with rfl | hc'
        · exact .inr ⟨request, locked, context, rfl, by simp [exec, hx]⟩
        · exact .inl hc'.1
  | markDelivered m n t =>
    left
    cases hx : markDelivered m n t db with
    | none => simpa [exec, hx] using hc
    | some x =>
      obtain ⟨r, db'⟩ := x
      obtain ⟨current, hcur, -, -, -, -, -, hd, rows, hr, rfl⟩ := markDelivered_eq_some hx
      exact replaced_inFlight hr hcur (by rw [hd]; decide) (by simpa [exec, hx] using hc) hs
  | releaseForRetry m n t t' =>
    left
    cases hx : releaseForRetry m n t t' db with
    | none => simpa [exec, hx] using hc
    | some x =>
      obtain ⟨r, db'⟩ := x
      exact releaseForRetry_inFlight hx (by simpa [exec, hx] using hc) hs
  | acknowledge response t =>
    left
    cases hx : acknowledge response t db with
    | none => simpa [exec, hx] using hc
    | some x =>
      obtain ⟨r, db'⟩ := x
      exact acknowledge_inFlight hx (by simpa [exec, hx] using hc) hs
  | _ => exact .inl (hother rfl)

end Operations

/-- A row in flight is what a claim returned, and was not touched since. -/
theorem inFlight_claimed (os : List Op) {c : TaskCommand}
    (hc : c ∈ (after exec Db.empty os).taskCommands) (hs : c.status = .inFlight) :
    Claimed os c := by
  induction os using List.reverseRecOn generalizing c with
  | nil => exact absurd hc (Relation.not_mem_empty _)
  | append_singleton os o ih =>
    rw [after_append] at hc
    rcases inFlight_origin hc hs with hold | ⟨request, locked, context, rfl, hr⟩
    · exact (ih hold hs).append [o]
    · exact ⟨os, request, locked, [], context, rfl, hr⟩

/-! ## Answers -/

/-- The response columns are set in the answered rows and in no other. -/
theorem response_set_iff {db : Db} {c : TaskCommand} (hc : c ∈ db.taskCommands) :
    if c.status = .acknowledged ∨ c.status = .rejected then
      c.acknowledgedAt ≠ none ∧ c.responseMessageId ≠ none ∧ c.responseType ≠ none
    else c.acknowledgedAt = none ∧ c.responseMessageId = none ∧ c.responseType = none := by
  obtain ⟨-, -, -, -, hcoh, -⟩ := Relation.check_of_mem hc
  unfold TaskCommand.StatusCoherent at hcoh
  cases hs : c.status <;> rw [hs] at hcoh <;> dsimp only at hcoh
  · exact hcoh.2.2.2
  · exact hcoh.2.2.2.2
  · exact hcoh.2.2.2.2
  · obtain ⟨-, -, -, -, h1, h2, t, ht, -⟩ := hcoh
    exact ⟨h1, h2, by rw [ht]; nofun⟩
  · obtain ⟨-, -, -, -, h1, h2, t, ht, -⟩ := hcoh
    exact ⟨h1, h2, by rw [ht]; nofun⟩
  · exact hcoh.2.2.1

/-- A response to an answered command is answered with its row if it is of the type
recorded, and refused otherwise. -/
theorem acknowledge_answered {db : Db} {c : TaskCommand} {response : TaskCommandResponse}
    (hc : answered? db response = some c) (hs : c.status = .acknowledged ∨ c.status = .rejected)
    (t : Time) : acknowledge response t db =
      if responsePayloadIsValid response = true ∧ c.responseType = some response.responseType then
        some (c, db) else none := by
  have hcheck := Relation.check_of_mem (answered?_eq_some.1 hc).1
  by_cases hp : responsePayloadIsValid response = true
  · by_cases ht : c.responseType = some response.responseType
    · have hm : TaskCommand.responseMatches c.commandType response.responseType = true :=
        hcheck.2.2.2.2.2.1 _ ht
      rcases hs with hs | hs <;> simp [acknowledge, hp, hc, hm, hs, ht]
    · rcases hs with hs | hs <;> simp [acknowledge, hp, hc, hs, ht]
  · simp [acknowledge, hp]

end AutomationTool.ControlPlane
