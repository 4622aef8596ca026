import AutomationTool.Executor.JournalInvariants

/-!
# Commands received over and over

A ledger that only ever receives commands, in any order, any number of times,
with any sequence numbers and for any attempts.

* `received_commands`: an attempt's commands are numbered without a gap and carry
  its task; a command whose intent is stored is answered with the stored one and
  changes nothing, unless it borrows the message id of another stored command; a
  command whose message id or key is stored under another intent is refused.
* `borrowed_id_refused`: why the exception is there. Replay detection looks a
  command up by message id or by idempotency key
  (ledger.py:1356-1370) and takes exactly one
  row for an answer; a stored intent under another command's message id finds two.
-/
namespace AutomationTool.Executor.Ledger

open Protocol Dispatch Journal

/-- The ledger after the given commands, received in this order. -/
def received (I : Site) (cs : List Command) : Ledger :=
  after (exec I) empty (cs.map .receiveCommand)

/-- What was received is the installation's own, and no emergency stop. -/
def OwnCommands (I : Site) (s : Ledger) : Prop := ∀ c ∈ s.commands,
  c.installationId = I.installationId ∧ c.executorId = I.executorId ∧
    c.messageType ≠ .taskEmergencyStop

theorem receive_own {I : Site} {s : Ledger} (hs : OwnCommands I s) (c : Command) :
    OwnCommands I (exec I (.receiveCommand c) s).2 := by
  dsimp only [exec]
  cases h : s.receiveCommand I c with
  | none => exact hs
  | some p =>
    obtain ⟨r, s'⟩ := p
    obtain ⟨hi, hx, hstop, s₁, h₁, h₂⟩ := receive_some h
    obtain ⟨-, rfl⟩ | ⟨t, ht, -⟩ := h₂
    · obtain ⟨-, rfl, -⟩ | ⟨-, -, hst, -⟩ := h₁
      · exact hs
      · have hmem : ∀ d, d ∈ s'.commands → d ∈ s.commands ∨ d = c := by
          intro d hd
          cases hst with
          | first _ _ _ _ hC => exact (Table.mem_insert? hC).1 hd
          | next _ _ _ _ hC => exact (Table.mem_insert? hC).1 hd
        intro d hd
        rcases hmem d hd with hd | rfl
        · exact hs d hd
        · exact ⟨hi, hx, fun hc => nomatch hstop.1 hc⟩
    · cases ht

theorem received_inv (I : Site) (cs : List Command) :
    (received I cs).journal.Inv ∧ OwnCommands I (received I cs) := by
  refine after_inv (P := fun s => s.journal.Inv ∧ OwnCommands I s) ?_ ⟨inv_empty, ?_⟩
  · intro o ho s hs
    obtain ⟨c, -, rfl⟩ := List.mem_map.1 ho
    exact ⟨exec_inv I hs.1 trivial, receive_own hs.2 c⟩
  · intro c hc
    exact (Table.not_mem_empty c hc).elim

theorem intent_body {c d : Command} (h : c.intent = d.intent) : c.body = d.body :=
  congrArg CommandIntent.body h

theorem receiveCommand_replay {I : Site} {s : Ledger} (hs : OwnCommands I s) {c d : Command}
    (hd : d ∈ s.commands) (hint : d.intent = c.intent)
    (hid : ∀ x ∈ s.commands, x.messageId = c.messageId → x = d) :
    s.receiveCommand I c = some (⟨d, true⟩, s) := by
  obtain ⟨hi, hx, hstop⟩ := hs d hd
  have hkey : d.idempotencyKey = c.idempotencyKey := congrArg CommandIntent.idempotencyKey hint
  have htype : c.messageType ≠ .taskEmergencyStop := by
    unfold Command.messageType
    rw [← intent_body hint]
    exact hstop
  have hrows : s.commands.rows.filter (fun r =>
      r.messageId = c.messageId ∨ r.idempotencyKey = c.idempotencyKey) = [d] := by
    refine Table.filter_eq_singleton hd (decide_eq_true (.inr hkey)) fun x hxm hxp => ?_
    rcases of_decide_eq_true hxp with h | h
    · exact hid x hxm h
    · exact Table.eq_of_not_apart hxm hd fun hab => hab.2.1 (h.trans hkey.symm)
  have hown : c.installationId = I.installationId ∧ c.executorId = I.executorId :=
    ⟨(congrArg CommandIntent.installationId hint).symm.trans hi,
      (congrArg CommandIntent.executorId hint).symm.trans hx⟩
  unfold receiveCommand receive
  refine require_eq_some.2 ⟨⟨hown.1, hown.2, ?_⟩, ?_⟩
  · simp [htype]
  · rw [hrows]
    exact require_eq_some.2 ⟨⟨rfl, hint⟩, rfl⟩

theorem receiveCommand_conflict {I : Site} {s : Ledger} {c d : Command} (hd : d ∈ s.commands)
    (hmatch : d.messageId = c.messageId ∨ d.idempotencyKey = c.idempotencyKey)
    (hint : d.intent ≠ c.intent) : s.receiveCommand I c = none := by
  cases h : s.receiveCommand I c with
  | none => rfl
  | some p =>
    obtain ⟨r, s'⟩ := p
    obtain ⟨-, -, -, s₁, ⟨-, -, -, hr, hrows⟩ | ⟨-, -, -, hno⟩, -⟩ := receive_some h
    · have hmem : d ∈ [r.value] := hrows ▸ List.mem_filter.2 ⟨hd, decide_eq_true hmatch⟩
      rw [List.mem_singleton.1 hmem] at hint
      exact absurd hr hint
    · obtain ⟨h1, h2⟩ := hno d hd
      rcases hmatch with h | h
      · exact absurd h h1
      · exact absurd h h2

/-- **Receiving is idempotent and gap-free.** Whatever commands a new ledger
received: every attempt's commands carry `1, …, last_command_sequence` and the
checkpoint's task, and an attempt without checkpoint has none; a command with the
intent of a stored one, whose message id is not that of another, returns the
stored one as a replay and changes nothing; one whose message id or idempotency
key is stored with another intent is refused and changes nothing. -/
theorem received_commands (I : Site) (cs : List Command) :
    (∀ e, (received I cs).checkpoint e = none → (received I cs).journal.commandsOf e = []) ∧
    (∀ e p, (received I cs).checkpoint e = some p →
      ((received I cs).journal.commandsOf e).map (·.sequence) =
          List.range' 1 p.lastCommandSequence ∧
        ∀ c ∈ (received I cs).journal.commandsOf e, c.taskId = p.taskId) ∧
    (∀ c d, d ∈ (received I cs).commands → d.intent = c.intent →
      (∀ x ∈ (received I cs).commands, x.messageId = c.messageId → x = d) →
        exec I (.receiveCommand c) (received I cs) = (some ⟨d, true⟩, received I cs)) ∧
    ∀ c d, d ∈ (received I cs).commands →
      d.messageId = c.messageId ∨ d.idempotencyKey = c.idempotencyKey → d.intent ≠ c.intent →
        exec I (.receiveCommand c) (received I cs) = (none, received I cs) := by
  obtain ⟨hinv, hown⟩ := received_inv I cs
  refine ⟨fun e he => (hinv.nothing he).1, fun e p hp => ?_, fun c d hd hint hid => ?_,
    fun c d hd hmatch hint => ?_⟩
  · exact ⟨(hinv.good hp).numbered, (hinv.good hp).task⟩
  · dsimp only [exec]
    rw [receiveCommand_replay hown hd hint hid]
    rfl
  · dsimp only [exec]
    rw [receiveCommand_conflict hd hmatch hint]
    rfl

/-! ## A borrowed message id -/

/-- An offer of attempt `e`, alone in its attempt. -/
def offerOf (m : MessageId) (e : ExecutionAttemptId) (key : String) : Command where
  messageId := m
  sentAt := 0
  deadlineAt := seconds 60
  installationId := 1
  executorId := 1
  correlationId := 1
  idempotencyKey := .other key
  sequence := 1
  taskId := 1
  executionAttemptId := e
  body := .taskOffer 0
  sequence_pos := Nat.one_pos
  sequence_le := Nat.le_add_left _ _
  baseline_lt b h := (by cases h; decide : maxExecutorSequence > b)

/-- Two attempts, one offer each. -/
def twoOffers : List Command := [offerOf 11 1 "first", offerOf 12 2 "second"]

/-- **Counterexample**: the first offer again, under the message id of the second.
Its intent is stored, but it is refused. -/
theorem borrowed_id_refused : ¬∀ (I : Site) (cs : List Command) (c d : Command),
    d ∈ (received I cs).commands → d.intent = c.intent →
      exec I (.receiveCommand c) (received I cs) = (some ⟨d, true⟩, received I cs) := by
  intro h
  have hstored : offerOf 11 1 "first" ∈ (received ⟨1, 1, fun _ => 0⟩ twoOffers).commands.rows := by
    decide
  have hreply := congrArg Prod.fst (h ⟨1, 1, fun _ => 0⟩ twoOffers (offerOf 12 1 "first")
    (offerOf 11 1 "first") hstored rfl)
  have hrefused : (exec ⟨1, 1, fun _ => 0⟩ (.receiveCommand (offerOf 12 1 "first"))
      (received ⟨1, 1, fun _ => 0⟩ twoOffers)).1 = none := by decide
  rw [hrefused] at hreply
  cases hreply

end AutomationTool.Executor.Ledger
