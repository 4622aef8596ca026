import AutomationTool.Core.Chunks
import AutomationTool.Core.LTS
import AutomationTool.ControlPlane.DiscoveryBatches
import AutomationTool.Executor.CommandProcessor

/-!
# Candidates, chunked and put together again

The executor sends the candidates of a discovery in batches of ten, the control plane's
accumulator puts them together.

* `discoveryBatch_eq_some`: the batches the executor builds, numbered from one.
* `Link`: one executor sending its batches from the first one on every connection, with
  connections that stop anywhere and an accumulator that may have been emptied.
* `discovery_reassembled`: over a link every batch is accepted and the candidates come out
  as they went in; of the executor's own batches in any order nothing else ever comes out.
* `altered_batch`: a batch altered before the accumulator saw it is not noticed.
-/
namespace AutomationTool.ControlPlane.TaskDiscovery

open Protocol TaskDiscoveryRepository

/-! ## The batches the executor builds -/

section

open Executor Executor.ExecutorCommandProcessor

theorem envelope_origin {I : Site} {c : Command} {stamp : Option Stamp} {key : IdempotencyKey}
    {n : Nat} {body : OutboundBody} {m : Outbound} (h : envelope I c stamp key n body = some m) :
    m.body = body ∧ m.installationId = I.installationId ∧ m.taskId = c.taskId ∧
      m.executionAttemptId = c.executionAttemptId := by
  obtain ⟨t, -, h⟩ := Option.bind_eq_some_iff.1 h
  split at h
  · cases h
    exact ⟨rfl, rfl, rfl, rfl⟩
  · cases h

/-- The attempt a discovery command is about. -/
def commandKey (I : Site) (c : Command) (d : DouyinDiscoveryCommandPayload) : AttemptKey :=
  ⟨I.installationId, c.taskId, c.executionAttemptId, d.pageRevision⟩

variable {I : Site} {c : Command} {d : DouyinDiscoveryCommandPayload}
  {stamps : Nat → Option Stamp}

theorem discoveryChunks_eq_some {n index : Nat} {chunks : List (List DouyinCandidate)}
    {ms : List Outbound} (h : discoveryChunks I c d n stamps index chunks = some ms) :
    ms.length = chunks.length ∧ ∀ j m, ms[j]? = some m → ∃ chunk, chunks[j]? = some chunk ∧
      m.body = .discoveryBatch ⟨d.pageRevision, index + j, n, chunk⟩ ∧
      attemptKey m d.pageRevision = commandKey I c d := by
  induction chunks generalizing index ms with
  | nil =>
    cases h
    exact ⟨rfl, fun j m hm => by simp at hm⟩
  | cons chunk chunks ih =>
    obtain ⟨m₀, hm₀, h⟩ := Option.bind_eq_some_iff.1 h
    obtain ⟨rest, hrest, h⟩ := Option.bind_eq_some_iff.1 h
    cases h
    obtain ⟨hlen, hall⟩ := ih hrest
    refine ⟨by rw [List.length_cons, List.length_cons, hlen], fun j m hm => ?_⟩
    cases j with
    | zero =>
      obtain ⟨hbody, hi, ht, he⟩ := envelope_origin hm₀
      cases hm
      refine ⟨chunk, rfl, hbody, ?_⟩
      rw [attemptKey, hi, ht, he]
      rfl
    | succ j =>
      obtain ⟨chunk', hchunk, hbody, hkey⟩ := hall j m hm
      refine ⟨chunk', hchunk, ?_, hkey⟩
      rw [hbody, Nat.add_assoc, Nat.add_comm 1 j]

/-- A discovery result on the wire: the batches and the final report. -/
structure Produced (I : Site) (c : Command) (d : DouyinDiscoveryCommandPayload)
    (outcome : DouyinDiscoveryExecutionResult) (bs : List DiscoveryBatch)
    (done : DiscoveryReport) : Prop where
  key : ∀ b ∈ bs, b.key = commandKey I c d
  index : ∀ (j : Nat) b, bs[j]? = some b →
    b.payload.batchIndex = j + 1 ∧ b.payload.batchCount = bs.length
  candidates : bs.flatMap (·.payload.candidates) = outcome.candidates
  /-- The source's own formula for the number of batches. -/
  batches : bs.length =
    (outcome.candidates.length + maxDiscoveryBatchCandidates - 1) / maxDiscoveryBatchCandidates
  doneKey : reportKey done = commandKey I c d
  doneOutcome : done.payload.outcome = outcome.state
  doneBatches : done.payload.batchCount = bs.length
  doneCandidates : done.payload.candidateCount = outcome.candidates.length

theorem flatMap_eq_flatten {α β : Type} {f : α → List β} {xs : List α} {ys : List (List β)}
    (hlen : xs.length = ys.length) (h : ∀ (j : Nat) x, xs[j]? = some x → ys[j]? = some (f x)) :
    xs.flatMap f = ys.flatten := by
  rw [List.flatMap_def]
  congr 1
  refine List.ext_getElem? fun j => ?_
  rw [List.getElem?_map]
  cases hx : xs[j]? with
  | some x => rw [h j x hx, Option.map_some]
  | none =>
    rw [Option.map_none, List.getElem?_eq_none]
    rw [← hlen]
    exact List.getElem?_eq_none_iff.1 hx

/-- `discover` only goes on with an outcome of the page it was asked for. -/
theorem discoveryBatch_eq_some {outcome : DouyinDiscoveryExecutionResult} {r : Outbound}
    {bs : List DiscoveryBatch} {done : DiscoveryReport}
    (h : discoveryBatch I c d outcome stamps = some (r :: bs.map (·.message) ++ [done.message]))
    (hpage : outcome.pageRevision = d.pageRevision) : Produced I c d outcome bs done := by
  obtain ⟨r', hr, h⟩ := Option.bind_eq_some_iff.1 h
  obtain ⟨ms, hms, h⟩ := Option.bind_eq_some_iff.1 h
  obtain ⟨m, hm, h⟩ := Option.bind_eq_some_iff.1 h
  obtain ⟨hhead, hlast⟩ := List.append_inj' (Option.some.inj h) rfl
  obtain ⟨-, rfl⟩ := List.cons.inj hhead
  obtain rfl := (List.cons.inj hlast).1
  obtain ⟨hlen, hall⟩ := discoveryChunks_eq_some hms
  rw [List.length_map] at hlen
  obtain ⟨hbody, hi, ht, he⟩ := envelope_origin hm
  have hpayload := done.body_eq.symm.trans hbody
  injection hpayload with hpayload
  have hat : ∀ (j : Nat) b, bs[j]? = some b →
      ∃ chunk, (outcome.candidates.toChunks maxDiscoveryBatchCandidates)[j]? = some chunk ∧
        b.payload = ⟨d.pageRevision, 1 + j, bs.length, chunk⟩ ∧ b.key = commandKey I c d := by
    intro j b hb
    obtain ⟨chunk, hchunk, hb', hkey⟩ := hall j b.message (by rw [List.getElem?_map, hb]; rfl)
    have hp := b.body_eq.symm.trans hb'
    injection hp with hp
    rw [← hlen] at hp
    refine ⟨chunk, hchunk, hp, ?_⟩
    rw [DiscoveryBatch.key, hp]
    exact hkey
  constructor
  · intro b hb
    obtain ⟨j, hj⟩ := List.mem_iff_getElem?.1 hb
    obtain ⟨_, -, -, hkey⟩ := hat j b hj
    exact hkey
  · intro j b hb
    obtain ⟨_, -, hp, -⟩ := hat j b hb
    rw [hp]
    exact ⟨Nat.add_comm 1 j, rfl⟩
  · rw [flatMap_eq_flatten hlen fun j b hb => ?_, flatten_toChunks]
    obtain ⟨chunk, hchunk, hp, -⟩ := hat j b hb
    rw [hchunk, hp]
  · rw [hlen]
    exact length_toChunks (by decide) _
  · rw [reportKey, hpayload, attemptKey, hi, ht, he, hpage]
    rfl
  · rw [hpayload]
  · rw [hpayload, hlen]
  · rw [hpayload]

end

/-! ## One executor, any number of connections -/

/-- The accumulator, and how many batches the connection has carried. -/
structure Link where
  accumulator : TaskDiscoveryBatchAccumulator
  position : Nat

inductive LinkEvent where
  /-- The old connection stopped; the accumulator may be a new one. -/
  | reconnect (emptied : Bool)
  | next
  /-- A message of another attempt. -/
  | foreign

namespace Link

/-- The attempt has a state, or could get one. -/
def Room (k : AttemptKey) (acc : TaskDiscoveryBatchAccumulator) : Prop :=
  (acc.state? k).isSome ∨ acc.states.rows.length < acc.maximumAttempts

/-- Every connection carries `bs` from the first one on. What is refused changes nothing;
the other attempts leave room. -/
inductive Step (k : AttemptKey) (bs : List DiscoveryBatch) : Link → LinkEvent → Link → Prop where
  | reconnect (L : Link) (emptied : Bool) :
      Step k bs L (.reconnect emptied)
        ⟨if emptied then L.accumulator.emptied else L.accumulator, 0⟩
  | next (L : Link) {b : DiscoveryBatch} (hb : bs[L.position]? = some b) :
      Step k bs L .next ⟨(L.accumulator.add b).getD L.accumulator, L.position + 1⟩
  | foreign (L : Link) {acc : TaskDiscoveryBatchAccumulator}
      (hsame : acc.state? k = L.accumulator.state? k) (hroom : Room k acc) :
      Step k bs L .foreign ⟨acc, L.position⟩

end Link

/-- The attempt is new to the accumulator. -/
def link (k : AttemptKey) (bs : List DiscoveryBatch) : LTS Link LinkEvent where
  init L := L.accumulator.state? k = none ∧ Link.Room k L.accumulator ∧ L.position = 0
  step := Link.Step k bs

/-- The accumulator holds the first `n` batches. -/
structure Held (k : AttemptKey) (bs : List DiscoveryBatch) (acc : TaskDiscoveryBatchAccumulator)
    (n : Nat) : Prop where
  le : n ≤ bs.length
  state : ∀ s, acc.state? k = some s →
    s.batchCount = bs.length ∧ s.batches = (bs.take n).map (·.accepted) ∧ 0 < n
  none : acc.state? k = none → n = 0
  room : Link.Room k acc

section

open TaskDiscoveryBatchAccumulator

variable {k : AttemptKey} {bs : List DiscoveryBatch} {acc acc' : TaskDiscoveryBatchAccumulator}
  {n j : Nat} {r : DiscoveryReport}

theorem getElem?_take_accepted {b : DiscoveryBatch} (hb : bs[j]? = some b) :
    ((bs.take n).map (·.accepted))[j]? = if j < n then some b.accepted else none := by
  rw [List.getElem?_map, List.getElem?_take]
  by_cases hj : j < n
  · rw [if_pos hj, if_pos hj, hb, Option.map_some]
  · rw [if_neg hj, if_neg hj, Option.map_none]

/-- What the accumulator makes of the batch at position `j` while it holds `n ≥ j`. -/
theorem record_at (hbs : Numbered k bs) {b : DiscoveryBatch} (hb : bs[j]? = some b)
    {s : AccumulatedBatches} (hcount : s.batchCount = bs.length)
    (hs : s.batches = (bs.take n).map (·.accepted)) (hn : n ≤ bs.length) (hj : j ≤ n) :
    s.record b = some { s with batches := (bs.take (max n (j + 1))).map (·.accepted) } := by
  obtain ⟨hindex, hbcount⟩ := hbs.2 j b hb
  have hjlt : j < bs.length := (List.getElem?_eq_some_iff.1 hb).1
  have hlen : s.batches.length = n := by
    rw [hs, List.length_map, List.length_take]
    omega
  have hat : s.batch? b.payload.batchIndex = if j < n then some b.accepted else none := by
    rw [hindex]
    show s.batches[j]? = _
    rw [hs, getElem?_take_accepted hb]
  unfold AccumulatedBatches.record
  rw [if_neg (by rw [hcount, hbcount]; exact fun h => h rfl), hat]
  by_cases hlt : j < n
  · rw [if_pos hlt, max_eq_left (by omega : j + 1 ≤ n), ← hs]
    show (if b.accepted.fingerprint ≠ outboundIntent b.message then none else some s) = some s
    exact if_neg fun h => h rfl
  · have hjn : j = n := by omega
    subst hjn
    rw [if_neg hlt, max_eq_right (by omega : j ≤ j + 1), List.take_add_one, hb, List.map_append,
      ← hs]
    exact if_neg fun h => h (by rw [hindex, hlen])

/-- The next batch of a connection is accepted: seen before, or the next one. -/
theorem held_add (hbs : Numbered k bs) (h : Held k bs acc n) {b : DiscoveryBatch}
    (hb : bs[j]? = some b) (hj : j ≤ n) :
    ∃ acc', acc.add b = some acc' ∧ Held k bs acc' (max n (j + 1)) := by
  have hkey : b.key = k := hbs.1 b (List.mem_of_getElem? hb)
  obtain ⟨hindex, hcount⟩ := hbs.2 j b hb
  have hjlt : j < bs.length := (List.getElem?_eq_some_iff.1 hb).1
  have hle := h.le
  have hcurrent : (acc.current b).batchCount = bs.length ∧
      (acc.current b).batches = (bs.take n).map (·.accepted) := by
    unfold current
    rw [hkey]
    cases hs : acc.state? k with
    | none =>
      rw [h.none hs]
      exact ⟨hcount, by simp⟩
    | some s => exact ⟨(h.state s hs).1, (h.state s hs).2.1⟩
  have hrec := record_at hbs hb hcurrent.1 hcurrent.2 h.le hj
  have hroom : (acc.state? b.key).isSome ∨
      acc.states.rows.length < acc.maximumAttempts ∧ b.payload.batchIndex = 1 := by
    rw [hkey]
    cases hs : acc.state? k with
    | some s => exact .inl rfl
    | none =>
      have hzero := h.none hs
      have hlt := h.room
      rw [Link.Room, hs] at hlt
      exact .inr ⟨hlt.resolve_left (by simp), by omega⟩
  obtain ⟨acc', hadd⟩ := Option.isSome_iff_exists.1 (add_isSome hrec hroom)
  obtain ⟨s', hrec', hs', -, -⟩ := add_eq_some hadd
  rw [hrec] at hrec'
  cases hrec'
  rw [hkey] at hs'
  refine ⟨acc', hadd, ⟨by omega, fun s hs => ?_, fun hs => ?_, .inl (by rw [hs']; rfl)⟩⟩
  · rw [hs'] at hs
    cases hs
    exact ⟨hcurrent.1, rfl, by omega⟩
  · rw [hs'] at hs
    cases hs

/-- What a link keeps: it holds at least what the connection carried. -/
theorem held_inductive (hbs : Numbered k bs) :
    (link k bs).Inductive fun L => ∃ n, L.position ≤ n ∧ Held k bs L.accumulator n := by
  constructor
  · rintro L ⟨hnone, hroom, hpos⟩
    refine ⟨0, by omega, ⟨Nat.zero_le _, fun s hs => ?_, fun _ => rfl, hroom⟩⟩
    rw [hnone] at hs
    cases hs
  · rintro L l L' ⟨n, hn, hheld⟩ hs
    cases hs with
    | reconnect emptied =>
      cases emptied with
      | false => exact ⟨n, Nat.zero_le _, hheld⟩
      | true =>
        refine ⟨0, Nat.le_refl _, ⟨Nat.zero_le _, fun s hs => ?_, fun _ => rfl, .inr ?_⟩⟩
        · cases hs
        exact L.accumulator.maximum_pos
    | next hb =>
      obtain ⟨acc', hadd, hheld'⟩ := held_add hbs hheld hb hn
      refine ⟨max n (L.position + 1), Nat.le_max_right _ _, ?_⟩
      show Held k bs ((L.accumulator.add _).getD _) _
      rw [hadd]
      exact hheld'
    | foreign hsame hroom =>
      refine ⟨n, hn, ⟨hheld.le, fun s hs => ?_, fun hs => ?_, hroom⟩⟩
      · exact hheld.state s (hsame.symm.trans hs)
      · exact hheld.none (hsame.symm.trans hs)

end

/-! ## Reassembly -/

section

open Executor Executor.ExecutorCommandProcessor TaskDiscoveryBatchAccumulator

variable {I : Site} {c : Command} {d : DouyinDiscoveryCommandPayload}
  {stamps : Nat → Option Stamp} {outcome : DouyinDiscoveryExecutionResult} {r : Outbound}
  {bs : List DiscoveryBatch} {done : DiscoveryReport}

/-- What a report hands on: the candidates of a completed discovery. -/
def reported (outcome : DouyinDiscoveryExecutionResult) : Option (List DouyinCandidate) :=
  if outcome.state = .completed then some outcome.candidates else none

namespace Produced

variable (h : Produced I c d outcome bs done)
include h

theorem numbered : Numbered (commandKey I c d) bs := ⟨h.key, h.index⟩

/-- A discovery that is not completed comes without batches. -/
theorem bs_eq_nil (hout : outcome.state ≠ .completed) : bs = [] := by
  have hnil : outcome.candidates = [] := by
    by_contra hne
    exact hout (outcome.completed_iff.2 hne)
  have hlen := h.batches
  rw [hnil] at hlen
  exact List.length_eq_zero_iff.1 hlen

/-- Batches of the result alone make up the result. -/
theorem picked_eq {picked : List DiscoveryBatch} (hown : ∀ b ∈ picked, b ∈ bs)
    (hnum : Numbered (commandKey I c d) picked) (hlen : picked.length = bs.length) :
    picked = bs := by
  refine List.ext_getElem? fun j => ?_
  rcases Nat.lt_or_ge j picked.length with hj | hj
  · have hp : picked[j]? = some picked[j] := List.getElem?_eq_getElem hj
    obtain ⟨i, hi⟩ := List.mem_iff_getElem?.1 (hown _ (List.mem_of_getElem? hp))
    have hindex := (hnum.2 j _ hp).1
    have hindex' := (h.index i _ hi).1
    obtain rfl : i = j := by omega
    exact hp.trans hi.symm
  · rw [List.getElem?_eq_none hj, List.getElem?_eq_none (hlen ▸ hj)]

theorem reported_of_picked {acc : TaskDiscoveryBatchAccumulator} {all : List DiscoveryBatch}
    (hback : Backed (commandKey I c d) all acc)
    (hown : ∀ b ∈ all, b.key = commandKey I c d → b ∈ bs) {x : Option (List DouyinCandidate)}
    (hx : acc.complete done = some x) : x = reported outcome := by
  unfold reported
  by_cases hout : outcome.state = .completed
  · rw [if_pos hout]
    cases x with
    | none =>
      exfalso
      unfold complete at hx
      rw [if_neg (by rw [h.doneOutcome, hout]; exact fun hne => hne rfl)] at hx
      split at hx
      · cases hx
      · split at hx
        · cases hx
        · split at hx <;> cases hx
    | some cs =>
      rw [← h.doneKey] at hback
      obtain ⟨picked, hsub, hnum, hlen, hcs, -⟩ := complete_assembled hback hx
      rw [h.doneKey] at hnum
      rw [hcs, h.picked_eq (fun b hb => hown b (hsub.subset hb) (hnum.1 b hb)) hnum
        (hlen.trans h.doneBatches), h.candidates]
  · rw [if_neg hout]
    unfold complete at hx
    rw [if_pos (by rw [h.doneOutcome]; exact hout)] at hx
    split at hx
    · cases hx
    · exact (Option.some.inj hx).symm

/-- An accumulator that holds all batches hands the candidates out. -/
theorem complete_of_held {acc : TaskDiscoveryBatchAccumulator}
    (hheld : Held (commandKey I c d) bs acc bs.length) :
    acc.complete done = some (reported outcome) := by
  unfold complete reported
  by_cases hout : outcome.state = .completed
  · have hne : outcome.candidates ≠ [] := outcome.completed_iff.1 hout
    rw [if_neg (by rw [h.doneOutcome, hout]; exact fun hne => hne rfl), if_pos hout, h.doneKey]
    cases hs : acc.state? (commandKey I c d) with
    | none =>
      exfalso
      have hzero := List.length_eq_zero_iff.1 (hheld.none hs)
      refine hne ?_
      rw [← h.candidates, hzero]
      rfl
    | some s =>
      obtain ⟨hcount, hbatches, -⟩ := hheld.state s hs
      rw [List.take_length] at hbatches
      have hcs : s.batches.flatMap (·.candidates) = outcome.candidates := by
        rw [hbatches, List.flatMap_map]
        exact h.candidates
      dsimp only
      rw [hcs, h.doneBatches, h.doneCandidates, hcount, hbatches, List.length_map]
      simp
  · rw [if_pos (by rw [h.doneOutcome]; exact hout), if_neg hout, h.doneKey]
    cases hs : acc.state? (commandKey I c d) with
    | none => rfl
    | some s =>
      exfalso
      have hpos := (hheld.state s hs).2.2
      rw [h.bs_eq_nil hout] at hpos
      exact Nat.lt_irrefl 0 hpos

/-- An accumulator that holds some of the batches hands nothing else out. -/
theorem backed_of_held {acc : TaskDiscoveryBatchAccumulator} {n : Nat}
    (hheld : Held (commandKey I c d) bs acc n) : Backed (commandKey I c d) bs acc := by
  intro s hs
  obtain ⟨hcount, hbatches, -⟩ := hheld.state s hs
  refine ⟨bs.take n, List.take_sublist _ _, hbatches, fun j b hb => ?_⟩
  have hb' : bs[j]? = some b := by
    rw [List.getElem?_take] at hb
    split at hb
    · exact hb
    · cases hb
  exact ⟨h.key b (List.mem_of_getElem? hb'), (h.index j b hb').1,
    (h.index j b hb').2.trans hcount.symm⟩

end Produced

theorem backed_of_none {k : AttemptKey} {acc : TaskDiscoveryBatchAccumulator}
    (h : acc.state? k = none) : Backed k [] acc := by
  intro s hs
  rw [h] at hs
  cases hs

theorem discovery_reassembled
    (h : discoveryBatch I c d outcome stamps = some (r :: bs.map (·.message) ++ [done.message]))
    (hpage : outcome.pageRevision = d.pageRevision) :
    (∀ L, (link (commandKey I c d) bs).Reachable L →
      (∀ b, bs[L.position]? = some b → (L.accumulator.add b).isSome) ∧
      (L.position = bs.length → L.accumulator.complete done = some (reported outcome)) ∧
      ∀ x, L.accumulator.complete done = some x → x = reported outcome) ∧
    (∀ (acc : TaskDiscoveryBatchAccumulator) es, acc.state? (commandKey I c d) = none →
      (∀ b ∈ since (commandKey I c d) es, b.key = commandKey I c d → b ∈ bs) →
      ∀ x, (es.foldl receive acc).complete done = some x → x = reported outcome) ∧
    (∀ (acc : TaskDiscoveryBatchAccumulator) es report cs, acc.state? (reportKey report) = none →
      (es.foldl receive acc).complete report = some (some cs) →
      Assembled (since (reportKey report) es) report cs) ∧
    ∀ (acc acc' : TaskDiscoveryBatchAccumulator) (b b' : DiscoveryBatch) (es : List BatchEvent),
      acc.add b = some acc' → (∀ r, .clear r ∈ es → reportKey r ≠ b.key) →
      b'.key = b.key → b'.payload.batchIndex = b.payload.batchIndex →
      outboundIntent b'.message ≠ outboundIntent b.message →
      (es.foldl receive acc').add b' = none := by
  have hp : Produced I c d outcome bs done := discoveryBatch_eq_some h hpage
  refine ⟨fun L hL => ?_, fun acc es hnone hown x hx => ?_, fun acc es report cs hnone hc => ?_,
    fun acc acc' b b' es hadd hes hkey hindex hne => ?_⟩
  · obtain ⟨n, hn, hheld⟩ := (held_inductive hp.numbered).reachable hL
    refine ⟨fun b hb => ?_, fun hpos => ?_, fun x hx => ?_⟩
    · obtain ⟨acc', hadd, -⟩ := held_add hp.numbered hheld hb hn
      rw [hadd]
      rfl
    · have hle := hheld.le
      have heq : n = bs.length := by omega
      exact hp.complete_of_held (heq ▸ hheld)
    · exact hp.reported_of_picked (hp.backed_of_held hheld) (fun b hb _ => hb) hx
  · exact hp.reported_of_picked ((backed_of_none hnone).foldl es) hown hx
  · exact complete_assembled ((backed_of_none hnone).foldl es) hc
  · have hrec := (recorded_of_add hadd).foldl hes
    rw [← hkey, ← hindex] at hrec
    exact hrec.refuses hne

end

/-! ## Eleven candidates -/

namespace Eleven

open Executor Executor.ExecutorCommandProcessor TaskDiscoveryBatchAccumulator

def site : Site := ⟨1, 1, fun _ => 0⟩

def search : DouyinDiscoveryCommandPayload where
  keyword := "tea"
  targetLimit := 20
  pageRevision := 1

def command : Command where
  messageId := 1
  sentAt := 0
  deadlineAt := seconds 180
  installationId := 1
  executorId := 1
  correlationId := 1
  idempotencyKey := .taskDiscoveryStart 1
  sequence := 1
  taskId := 1
  executionAttemptId := 1
  body := .taskDiscover search
  sequence_pos := Nat.one_pos
  sequence_le := (by decide : maxExecutorSequence ≥ 1)

def candidate (name : String) : DouyinCandidate := ⟨name, name, none, 1⟩

def found : DouyinDiscoveryExecutionResult where
  state := .completed
  evidence := .candidatesExtracted
  pageRevision := 1
  candidates := List.replicate 10 (candidate "one") ++ [candidate "eleven"]
  evidence_allowed := rfl
  revision_pos := Nat.one_pos
  candidates_le := by decide
  candidates_page := by decide
  completed_iff := by decide

def stamps (i : Nat) : Option Stamp := some ⟨seconds 10, 10 + i⟩

def outbound (n : Nat) (key : IdempotencyKey) (body : OutboundBody)
    (hn : n ≤ maxExecutorSequence ∧ 1 ≤ n := by decide) : Outbound where
  messageId := 10 + n
  sentAt := seconds 10
  deadlineAt := seconds 10 + messageDeadline
  installationId := 1
  executorId := 1
  correlationId := 1
  idempotencyKey := key
  sequence := n
  taskId := 1
  executionAttemptId := 1
  body := body
  sequence_pos := hn.2
  sequence_le := hn.1

def batchOf (cs : List DouyinCandidate) (n : Nat)
    (hn : n ≤ maxExecutorSequence ∧ 1 ≤ n := by decide) : DiscoveryBatch where
  message := outbound n (.discoveryBatch 1 n) (.discoveryBatch ⟨1, n, 2, cs⟩) hn
  payload := ⟨1, n, 2, cs⟩
  body_eq := rfl

def first : DiscoveryBatch := batchOf (List.replicate 10 (candidate "one")) 1
def second : DiscoveryBatch := batchOf [candidate "eleven"] 2

def done : DiscoveryReport where
  message := outbound 3 (.discoveryCompleted 1) (.discoveryCompleted
    ⟨.completed, .candidatesExtracted, 1, 2, 11⟩)
  payload := ⟨.completed, .candidatesExtracted, 1, 2, 11⟩
  body_eq := rfl

def accepted : Outbound :=
  { outbound 1 (.result 1) (.commandResult .taskAccept .accepted) with messageId := 10 }

theorem produced : discoveryBatch site command search found stamps =
    some (accepted :: [first, second].map (·.message) ++ [done.message]) := by decide

/-- One connection stops after the first batch, the next one goes through. -/
theorem eleven_reassembled :
    ((empty.add first).bind fun acc => acc.add second).bind (·.complete done) =
      some (some found.candidates) ∧
    ∃ L : Link, L.position = 2 ∧
      L.accumulator.complete done = some (some found.candidates) := by
  refine ⟨by decide, ?_⟩
  have h := discovery_reassembled produced rfl
  have h0 : (link (commandKey site command search) [first, second]).Reachable ⟨empty, 0⟩ :=
    .of_init ⟨rfl, .inr (by decide), rfl⟩
  have h1 := h0.next (.next _ rfl)
  have h2 := h1.next (.reconnect _ false)
  have h3 := h2.next (.next _ rfl)
  have h4 := h3.next (.next _ rfl)
  exact ⟨_, rfl, (h.1 _ h4).2.1 rfl⟩

/-- The first batch with another candidate in it. -/
def altered : DiscoveryBatch := batchOf (List.replicate 10 (candidate "other")) 1

/-- A batch altered before the accumulator saw it: the report is accepted, and what comes
out is not what the executor found. -/
theorem altered_batch :
    discoveryBatch site command search found stamps =
        some (accepted :: [first, second].map (·.message) ++ [done.message]) ∧
      outboundIntent altered.message ≠ outboundIntent first.message ∧
      ((empty.add altered).bind fun acc => acc.add second).bind (·.complete done) =
        some (some (altered.payload.candidates ++ second.payload.candidates)) ∧
      altered.payload.candidates ++ second.payload.candidates ≠ found.candidates := by
  decide

end Eleven

end AutomationTool.ControlPlane.TaskDiscovery
