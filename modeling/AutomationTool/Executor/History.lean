import AutomationTool.Executor.Journal

/-!
# The history of one attempt

Attempts do not touch each other: seen from one attempt, a step of the journal is
either nothing or a step of its `History`, its own checkpoint, commands and
events (`Journal.Step.history`). So what holds of every attempt is proved of one:

* an attempt's commands carry `1, 2, …, last_command_sequence` in the order they
  were stored, all for the checkpoint's task (`numbered`, `task`);
* an attempt waits for its first outcome, was a discovery, or was started by an
  offer with some baseline `b`, and then its events carry
  `b + 1, …, last_event_sequence` in outbox order (`phase`);
* a paused attempt is paused by a stored pause whose event was sent, after which
  neither a pause nor an action was stored and no resume took effect (`paused`).

`Inv.step` says it of one step, `inv_reachable` of every ledger the executor's
operations reach. `moves_later` is what a caller may rely on between two of its
calls: a checkpoint whose revision did not change did not change.
-/
namespace AutomationTool.Executor

open Protocol Dispatch Ledger

structure History where
  checkpoint : Option AttemptCheckpoint
  /-- In the order they were stored. -/
  commands : List Command
  /-- The task and step events, in outbox order. -/
  events : List OutboxFact

namespace History

open Journal

inductive Step : History → Label → History → Prop where
  | first {c : Command} (hseq : c.sequence = 1) (hopens : opensAttempt c.messageType = true) :
      Step ⟨none, [], []⟩ (.store c) ⟨some (firstCheckpoint c), [c], []⟩
  | next {p : AttemptCheckpoint} {cs : List Command} {es : List OutboxFact} {c : Command}
      (htask : p.taskId = c.taskId) (hseq : c.sequence = p.lastCommandSequence + 1)
      (hadmits : admits p.state c.messageType) (hfresh : ∀ d ∈ cs, d.messageId ≠ c.messageId) :
      Step ⟨some p, cs, es⟩ (.store c)
        ⟨some { p with lastCommandSequence := c.sequence, revision := p.revision + 1 },
          cs ++ [c], es⟩
  | emits {p p' : AttemptCheckpoint} {cs : List Command} {es : List OutboxFact} {c : Command}
      {l : Label} {n : Nat} {ms : List Outbound} (hc : c ∈ cs) (h : Emits es c p l p' ms) :
      Step ⟨some p, cs, es⟩ l
        ⟨some p', cs, es ++ (newFacts c.messageId n ms).filter (·.message.isTaskEvent)⟩

/-! ## The invariant -/

/-- Some event of the given type was sent for `c`. -/
def Sent (es : List OutboxFact) (c : Command) (t : TaskEventType) : Prop :=
  ∃ f ∈ es, f.sourceMessageId = c.messageId ∧ f.message.eventType = some t

/-- Where an attempt stands. -/
inductive Phase (p : AttemptCheckpoint) (cs : List Command) (es : List OutboxFact) : Prop where
  /-- No outcome was committed, and no control or action was stored. -/
  | received (hst : p.state = .received) (hev : es = [])
      (hopen : ∀ c ∈ cs, opensAttempt c.messageType = true)
  | discovered (hst : p.state = .terminal) (hev : es = [])
      (hopen : ∀ c ∈ cs, opensAttempt c.messageType = true)
  /-- Started by the offer `c` with baseline `b`. -/
  | started (c : Command) (b : Nat) (hc : c ∈ cs) (hb : c.body = .taskOffer b)
      (hst : p.state ≠ .received) (hlt : b < p.lastEventSequence)
      (hseq : es.map (·.message.sequence) = List.range' (b + 1) (p.lastEventSequence - b))
      (honly : ∀ f ∈ es, f.message.eventType = some .taskStarted →
        f.sourceMessageId = c.messageId)

/-- The pause an attempt is paused by: it took effect, and nothing stored after it
lifted it or asked for more. -/
structure PausedBy (cs : List Command) (es : List OutboxFact) (c : Command) : Prop where
  stored : c ∈ cs
  pause : c.messageType = .taskPause
  sent : Sent es c .taskPaused
  after : ∀ d ∈ cs, c.sequence < d.sequence → d.messageType ≠ .taskPause ∧
    d.messageType ≠ .actionExecute ∧ (d.messageType = .taskResume → ¬Sent es d .taskResumed)

structure Good (p : AttemptCheckpoint) (cs : List Command) (es : List OutboxFact) : Prop where
  numbered : cs.map (·.sequence) = List.range' 1 p.lastCommandSequence
  pos : 1 ≤ p.lastCommandSequence
  revision : 1 ≤ p.revision
  task : ∀ c ∈ cs, c.taskId = p.taskId
  answered : ∀ f ∈ es, ∃ c ∈ cs, c.messageId = f.sourceMessageId
  phase : Phase p cs es
  paused : p.state = .paused → ∃ c, PausedBy cs es c

/-- Without a checkpoint there is nothing. -/
def Inv (h : History) : Prop :=
  match h.checkpoint with
  | none => h.commands = [] ∧ h.events = []
  | some p => Good p h.commands h.events

namespace Good

variable {p : AttemptCheckpoint} {cs : List Command} {es : List OutboxFact}

theorem sequence_le (hg : Good p cs es) {c : Command} (hc : c ∈ cs) :
    c.sequence ≤ p.lastCommandSequence := by
  have hmem : c.sequence ∈ cs.map (·.sequence) := List.mem_map_of_mem hc
  rw [hg.numbered, List.mem_range'_1] at hmem
  omega

/-- The latest command of an attempt is stored. -/
theorem exists_latest (hg : Good p cs es) : ∃ c ∈ cs, c.sequence = p.lastCommandSequence := by
  have hpos := hg.pos
  have hmem : p.lastCommandSequence ∈ cs.map (·.sequence) := by
    rw [hg.numbered, List.mem_range'_1]
    omega
  obtain ⟨c, hc, h⟩ := List.mem_map.1 hmem
  exact ⟨c, hc, h⟩

/-! ## One step -/

theorem first {c : Command} (hseq : c.sequence = 1) (hopens : opensAttempt c.messageType = true) :
    Good (firstCheckpoint c) [c] [] where
  numbered := by simp [hseq, firstCheckpoint]
  pos := Nat.le_refl 1
  revision := Nat.le_refl 1
  task d hd := by
    rw [List.mem_singleton.1 hd]
    rfl
  answered f hf := nomatch hf
  phase := .received rfl rfl fun d hd => by rwa [List.mem_singleton.1 hd]
  paused := nofun

/-- A command that is admitted before or after the attempt ran opens attempts. -/
theorem opens_of_admits {st : AttemptCheckpointState} {t : CommandType} (h : admits st t)
    (hr : st ≠ .running) (hp : st ≠ .paused) : opensAttempt t = true := by
  cases t
  case taskOffer => rfl
  case taskDiscover => rfl
  all_goals
    have hm := h _ rfl
    simp [hr, hp] at hm

theorem next (hg : Good p cs es) {c : Command} (htask : p.taskId = c.taskId)
    (hseq : c.sequence = p.lastCommandSequence + 1) (hadmits : admits p.state c.messageType)
    (hfresh : ∀ d ∈ cs, d.messageId ≠ c.messageId) :
    Good { p with lastCommandSequence := c.sequence, revision := p.revision + 1 }
      (cs ++ [c]) es where
  numbered := by simp [hg.numbered, hseq, List.range'_1_concat, Nat.add_comm]
  pos := by dsimp only; omega
  revision := Nat.le_add_left 1 _
  task d hd := by
    rcases List.mem_append.1 hd with hd | hd
    · exact hg.task d hd
    · rw [List.mem_singleton.1 hd]
      exact htask.symm
  answered f hf := by
    obtain ⟨d, hd, h⟩ := hg.answered f hf
    exact ⟨d, List.mem_append_left _ hd, h⟩
  phase := by
    have hopen : p.state ≠ .running → p.state ≠ .paused →
        (∀ d ∈ cs, opensAttempt d.messageType = true) →
          ∀ d ∈ cs ++ [c], opensAttempt d.messageType = true := by
      intro hr hp h d hd
      rcases List.mem_append.1 hd with hd | hd
      · exact h d hd
      · rw [List.mem_singleton.1 hd]
        exact opens_of_admits hadmits hr hp
    cases hg.phase with
    | received hst hev h =>
      exact .received hst hev (hopen (by rw [hst]; nofun) (by rw [hst]; nofun) h)
    | discovered hst hev h =>
      exact .discovered hst hev (hopen (by rw [hst]; nofun) (by rw [hst]; nofun) h)
    | started o b ho hb hst hlt hes honly =>
      exact .started o b (List.mem_append_left _ ho) hb hst hlt hes honly
  paused hst := by
    obtain ⟨o, ho⟩ := hg.paused hst
    refine ⟨o, List.mem_append_left _ ho.stored, ho.pause, ho.sent, fun d hd hlt => ?_⟩
    rcases List.mem_append.1 hd with hd | hd
    · exact ho.after d hd hlt
    · rw [List.mem_singleton.1 hd]
      dsimp only at hst
      rw [hst] at hadmits
      refine ⟨fun h => ?_, fun h => ?_, fun _ => ?_⟩
      · have := hadmits [.running] (by rw [h]; rfl)
        simp at this
      · have := hadmits [.running] (by rw [h]; rfl)
        simp at this
      · -- nothing was sent for a command that was not stored yet
        rintro ⟨f, hf, hsrc, -⟩
        obtain ⟨e, he, hid⟩ := hg.answered f hf
        exact hfresh e he (hid.trans hsrc)

/-- New events of a running or paused attempt continue its numbering. -/
theorem phase_append (hg : Good p cs es) (hst : p.state = .running ∨ p.state = .paused)
    {p' : AttemptCheckpoint} {new : List OutboxFact} (hst' : p'.state ≠ .received)
    (hl : p'.lastEventSequence = p.lastEventSequence + new.length)
    (hnew : new.map (·.message.sequence) = List.range' (p.lastEventSequence + 1) new.length)
    (hno : ∀ f ∈ new, f.message.eventType ≠ some .taskStarted) : Phase p' cs (es ++ new) := by
  cases hg.phase with
  | received h => rcases hst with hst | hst <;> rw [hst] at h <;> cases h
  | discovered h => rcases hst with hst | hst <;> rw [hst] at h <;> cases h
  | started o b ho hb _ hlt hseq honly =>
    refine .started o b ho hb hst' (by omega) ?_ fun f hf ht => ?_
    · have hlen : p'.lastEventSequence - b = (p.lastEventSequence - b) + new.length := by omega
      have hfrom : p.lastEventSequence + 1 = b + 1 + (p.lastEventSequence - b) := by omega
      rw [List.map_append, hseq, hnew, hlen, hfrom, List.range'_append_1]
    · rcases List.mem_append.1 hf with hf | hf
      · exact honly f hf ht
      · exact absurd ht (hno f hf)

theorem sent_append {new : List OutboxFact} {c : Command} {t : TaskEventType}
    (h : Sent es c t) : Sent (es ++ new) c t := by
  obtain ⟨f, hf, h⟩ := h
  exact ⟨f, List.mem_append_left _ hf, h⟩

/-- Events that resume nothing leave an attempt paused by the same pause. -/
theorem pausedBy_append {c : Command} (h : PausedBy cs es c) {new : List OutboxFact}
    (hno : ∀ f ∈ new, f.message.eventType ≠ some .taskResumed) : PausedBy cs (es ++ new) c where
  stored := h.stored
  pause := h.pause
  sent := sent_append h.sent
  after d hd hlt := by
    obtain ⟨h1, h2, h3⟩ := h.after d hd hlt
    refine ⟨h1, h2, fun hr => ?_⟩
    rintro ⟨f, hf, hsrc, ht⟩
    rcases List.mem_append.1 hf with hf | hf
    · exact h3 hr ⟨f, hf, hsrc, ht⟩
    · exact hno f hf ht

/-- The task and step events of a batch for `c`. -/
theorem mem_batch {c : Command} {n : Nat} {ms : List Outbound} {f : OutboxFact}
    (hf : f ∈ (newFacts c.messageId n ms).filter (·.message.isTaskEvent)) :
    f.sourceMessageId = c.messageId ∧ f.message ∈ ms ∧ f.message.isTaskEvent = true := by
  obtain ⟨hf, ht⟩ := List.mem_filter.1 hf
  obtain ⟨hsrc, hm⟩ := mem_newFacts hf
  exact ⟨hsrc, hm, ht⟩

theorem emits_phase (hg : Good p cs es) {p' : AttemptCheckpoint} {c : Command} {l : Label}
    {n : Nat} {ms : List Outbound} (hc : c ∈ cs) (h : Emits es c p l p' ms) :
    Phase p' cs (es ++ (newFacts c.messageId n ms).filter (·.message.isTaskEvent)) := by
  cases h with
  | @acknowledge m hm =>
    have hno : m.isTaskEvent = false := by
      unfold Outbound.isTaskEvent
      rw [Outbound.eventType_of_isControlAck hm]
      rfl
    simpa [hno] using hg.phase
  | outcome ho =>
    cases ho with
    | @started b r e hb hst hl hr he =>
      cases hg.phase with
      | received _ hev _ =>
        have het := Outbound.isTaskEvent_of_eventType he.eventType
        refine .started c b hc hb nofun (Nat.lt_succ_self b) ?_ fun f hf _ => ?_
        · simp [hev, hr, het, he.sequence]
        · rw [hev, List.nil_append] at hf
          exact (mem_batch hf).1
      | discovered h => rw [hst] at h; cases h
      | started _ _ _ _ h => exact absurd hst h
    | @acted q t v r e₁ e₂ hb hst hr h₁ ht hv h₂ =>
      have het₁ := Outbound.isTaskEvent_of_eventType h₁.eventType
      have het₂ := Outbound.isTaskEvent_of_eventType h₂.eventType
      refine hg.phase_append (.inl hst) ?_ ?_ ?_ fun f hf hs => ?_
      · dsimp only
        split <;> nofun
      · simp [hr, het₁, het₂]
      · simp [hr, het₁, het₂, h₁.sequence, h₂.sequence, List.range'_succ]
      · simp only [newFacts_cons, newFacts_nil, hr, het₁, het₂, List.filter_cons,
          List.filter_nil, if_true, Bool.false_eq_true, if_false, List.mem_cons,
          List.not_mem_nil, or_false] at hf
        rcases hf with rfl | rfl
        · exact absurd (h₁.eventType.symm.trans hs) nofun
        · rw [Option.some.inj (h₂.eventType.symm.trans hs)] at ht
          cases ht
    | @discovered d ms hb hst hl hms =>
      have hnil : (newFacts c.messageId n ms).filter (·.message.isTaskEvent) = [] := by
        refine List.filter_eq_nil_iff.2 fun f hf => ?_
        rw [hms _ (mem_newFacts hf).2]
        nofun
      rw [hnil, List.append_nil]
      cases hg.phase with
      | received _ hev hopen => exact .discovered rfl hev hopen
      | discovered h => rw [hst] at h; cases h
      | started _ _ _ _ h => exact absurd hst h
  | @control st t m hseq hst ht hm =>
    have het := Outbound.isTaskEvent_of_eventType hm.eventType
    refine hg.phase_append (running_or_paused hst) ht.ne_received ?_ ?_ fun f hf hs => ?_
    · simp [het]
    · simp [het, hm.sequence]
    · rw [List.mem_singleton.1 (mem_batch hf).2.1, hm.eventType] at hs
      exact ht.ne_taskStarted (Option.some.inj hs)
  | @recover a t v m hb hseq hst hm ht hmseq hkey hv hfresh =>
    have hmt := Outbound.eventType_of_body hm
    have het := Outbound.isTaskEvent_of_eventType hmt
    refine hg.phase_append hst ?_ ?_ ?_ fun f hf hs => ?_
    · dsimp only
      split
      · nofun
      · rcases hst with h | h <;> rw [h] <;> nofun
    · simp [het]
    · simp [het, hmseq]
    · rw [List.mem_singleton.1 (mem_batch hf).2.1, hmt] at hs
      rcases ht with rfl | rfl <;> cases hs

theorem emits_paused (hg : Good p cs es) {p' : AttemptCheckpoint} {c : Command} {l : Label}
    {n : Nat} {ms : List Outbound} (hc : c ∈ cs) (h : Emits es c p l p' ms)
    (hst' : p'.state = .paused) : ∃ o, PausedBy cs
      (es ++ (newFacts c.messageId n ms).filter (·.message.isTaskEvent)) o := by
  cases h with
  | @acknowledge m hm =>
    obtain ⟨o, ho⟩ := hg.paused hst'
    refine ⟨o, pausedBy_append ho fun f hf hs => ?_⟩
    rw [List.mem_singleton.1 (mem_batch hf).2.1, Outbound.eventType_of_isControlAck hm] at hs
    cases hs
  | outcome ho =>
    cases ho with
    | started => cases hst'
    | acted => dsimp only at hst'; split at hst' <;> cases hst'
    | discovered => cases hst'
  | @control st t m hseq hst ht hm =>
    -- the control that paused it: a pause, and the latest command
    obtain ⟨hty, rfl⟩ := ht.of_paused hst'
    refine ⟨c, hc, hty, ?_, fun d hd hlt => ?_⟩
    · refine ⟨⟨n, m, c.messageId⟩, List.mem_append_right _ ?_, rfl, hm.eventType⟩
      simp [Outbound.isTaskEvent_of_eventType hm.eventType]
    · have := hg.sequence_le hd
      omega
  | @recover a t v m hb hseq hst hm ht hmseq hkey hv hfresh =>
    dsimp only at hst'
    split at hst'
    · cases hst'
    · obtain ⟨o, ho⟩ := hg.paused hst'
      refine ⟨o, pausedBy_append ho fun f hf hs => ?_⟩
      rw [List.mem_singleton.1 (mem_batch hf).2.1, Outbound.eventType_of_body hm] at hs
      rcases ht with rfl | rfl <;> cases hs

theorem emits (hg : Good p cs es) {p' : AttemptCheckpoint} {c : Command} {l : Label} {n : Nat}
    {ms : List Outbound} (hc : c ∈ cs) (h : Emits es c p l p' ms) :
    Good p' cs (es ++ (newFacts c.messageId n ms).filter (·.message.isTaskEvent)) := by
  obtain ⟨-, htask, hlast, hrev⟩ := h.checkpoint
  refine ⟨by rw [hlast]; exact hg.numbered, by rw [hlast]; exact hg.pos, ?_,
    by rw [htask]; exact hg.task, fun f hf => ?_, hg.emits_phase hc h, hg.emits_paused hc h⟩
  · have := hg.revision
    rcases hrev with rfl | hrev <;> omega
  · rcases List.mem_append.1 hf with hf | hf
    · exact hg.answered f hf
    · exact ⟨c, hc, (mem_batch hf).1.symm⟩

end Good

theorem Inv.step {h h' : History} {l : Label} (hs : h.Step l h') (hi : h.Inv) : h'.Inv := by
  cases hs with
  | first hseq hopens => exact .first hseq hopens
  | next htask hseq hadmits hfresh => exact Good.next hi htask hseq hadmits hfresh
  | emits hc h => exact Good.emits hi hc h

end History
end AutomationTool.Executor
