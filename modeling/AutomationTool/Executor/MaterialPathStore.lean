import AutomationTool.Core.LTS
import AutomationTool.Executor.MaterialPaths

/-!
# The registry over its runs

A `Store` is the document, the mapping of the process that has the registry
open, if there is one, and beside them, for the proofs, the mapping as the
operations mean it (`published`): an operation counts once its document has
been renamed into place.

* `publish_raised`, `call_raised`: an operation that was refused or failed
  leaves the document and the mapping as they were.
* `sound_inductive`: as long as only files with `Recordable` numbers are
  registered, the document loads the published mapping and the process has it.
-/
namespace AutomationTool.Executor.MaterialPaths

open Editing (Uuid)
open EditingWorker (Uuid4)

/-! ## The operations -/

/-- How far `_write` gets: an `OSError` before the document was replaced, or a kill before or
after that. -/
inductive WriteOutcome | done | failed | killed (replaced : Bool)
deriving DecidableEq

/-- How an operation ends. -/
inductive Ending (α : Type)
  | returned (a : α)
  | raised (failure : Failure)
  | killed
deriving DecidableEq

/-- The registry of a running process, over its document. -/
structure Registry where
  document : Option Payload
  entries : Mapping

/-- `self._write(_serialized(entries)); self._entries = entries`.
mirrors material_probe.py:1831-1880 -/
def Registry.publish (r : Registry) (entries : Mapping) (w : WriteOutcome) :
    Ending Unit × Registry :=
  if (serialized entries).length > maxMaterialPathRegistryBytes then
    (.raised (.registry .registryFull), r)
  else
    match w with
    | .done => (.returned (), ⟨some (serialized entries), entries⟩)
    | .failed => (.raised (.registry .registryUnwritable), r)
    | .killed true => (.killed, { r with document := some (serialized entries) })
    | .killed false => (.killed, r)

/-- One identifier and source of a batch, with what `stat` says of the source. -/
structure Registration where
  materialId : Uuid
  source : PosixPath
  answer : StatAnswer

/-- What is recorded of a registration. -/
def Registration.prepared (nt : Bool) (x : Registration) :
    Except Failure (Uuid4 × RegisteredFile) :=
  match usableIdentifier x.materialId with
  | none => .error (.registry .unusableIdentifier)
  | some identifier =>
    match requireSourceFile x.source x.answer with
    | .error rejection => .error (.probe rejection)
    | .ok metadata => .ok (identifier, ⟨x.source, identityOf nt metadata⟩)

/-- The calls of a registry. `home`: its directory is still private. -/
inductive Op
  | register (home : Bool) (x : Registration) (w : WriteOutcome)
  | registerMany (home : Bool) (mappings : List Registration) (w : WriteOutcome)
  | forget (home : Bool) (materialId : Uuid) (w : WriteOutcome)
  | resolve (home : Bool) (materialId : Uuid) (answer again : StatAnswer)

def Op.home : Op → Bool
  | .register home _ _ | .registerMany home _ _ | .forget home _ _ | .resolve home _ _ _ => home

/-- What a call returns: nothing, or a path with its stat. -/
abbrev Reply := Option (PosixPath × FileStat)

namespace Registry

variable (nt : Bool)

def reply (e : Ending Unit × Registry) : Ending Reply × Registry :=
  match e with
  | (.returned _, r) => (.returned none, r)
  | (.raised failure, r) => (.raised failure, r)
  | (.killed, r) => (.killed, r)

/-- mirrors material_probe.py:1613-1657 -/
def register (r : Registry) (x : Registration) (w : WriteOutcome) : Ending Reply × Registry :=
  match x.prepared nt with
  | .error failure => (.raised failure, r)
  | .ok (identifier, file) => reply (r.publish (r.entries.insert identifier file) w)

def insertAll (entries : Mapping) (prepared : List (Uuid4 × RegisteredFile)) : Mapping :=
  prepared.foldl (fun m e => m.insert e.1 e.2) entries

/-- mirrors material_probe.py:1659-1688 -/
def registerMany (r : Registry) (mappings : List Registration) (w : WriteOutcome) :
    Ending Reply × Registry :=
  if ¬(1 ≤ mappings.length ∧ mappings.length ≤ 128) then
    (.raised (.registry .unusableIdentifier), r)
  else
    match mappings.mapM (Registration.prepared nt) with
    | .error failure => (.raised failure, r)
    | .ok prepared =>
      if ¬(prepared.map (·.1)).Nodup then (.raised (.registry .unusableIdentifier), r)
      else reply (r.publish (insertAll r.entries prepared) w)

/-- mirrors material_probe.py:1690-1709 -/
def forget (r : Registry) (materialId : Uuid) (w : WriteOutcome) : Ending Reply × Registry :=
  match usableIdentifier materialId with
  | none => (.raised (.registry .unusableIdentifier), r)
  | some identifier =>
    if identifier ∉ r.entries then (.returned none, r)
    else reply (r.publish (r.entries.erase identifier) w)

/-- `answer` is what the check of the source sees, `again` what the look for its reason sees.
mirrors material_probe.py:1711-1757 -/
def resolve (r : Registry) (materialId : Uuid) (answer again : StatAnswer) :
    Ending Reply × Registry :=
  match usableIdentifier materialId with
  | none => (.raised (.registry .unusableIdentifier), r)
  | some identifier =>
    match r.entries.lookup identifier with
    | none => (.raised (.registry .notRegistered), r)
    | some entry =>
      match requireSourceFile entry.path answer with
      | .error _ => (.raised (.registry (whyTheFileCannotBeUsed again)), r)
      | .ok metadata =>
        if identityOf nt metadata ≠ entry.identity then (.raised (.registry .fileChanged), r)
        else (.returned (some (entry.path, metadata)), r)

/-- An operation once its directory has been found private. -/
def body (r : Registry) : Op → Ending Reply × Registry
  | .register _ x w => r.register nt x w
  | .registerMany _ mappings w => r.registerMany nt mappings w
  | .forget _ materialId w => r.forget materialId w
  | .resolve _ materialId answer again => r.resolve nt materialId answer again

/-- A call, behind `_require_its_directory`. -/
def call (r : Registry) (op : Op) : Ending Reply × Registry :=
  if op.home then r.body nt op else (.raised (.registry .registryUnreadable), r)

end Registry

/-! ## What an operation means -/

/-- Which file each material has. -/
abbrev Published := Uuid4 → Option RegisteredFile

/-- What is left of a registration that could be prepared. -/
def Registration.effect (nt : Bool) (p : Published) (x : Registration) : Published :=
  match x.prepared nt with
  | .error _ => p
  | .ok (identifier, file) => Function.update p identifier (some file)

def Op.effect (nt : Bool) (p : Published) : Op → Published
  | .register _ x _ => x.effect nt p
  | .registerMany _ mappings _ => mappings.foldl (Registration.effect nt) p
  | .forget _ materialId _ =>
    match usableIdentifier materialId with
    | none => p
    | some identifier => Function.update p identifier none
  | .resolve _ _ _ _ => p

/-- The document of an operation was put in place before the process was killed. -/
def Op.replaced : Op → Bool
  | .register _ _ w | .registerMany _ _ w | .forget _ _ w => w = .killed true
  | .resolve _ _ _ _ => false

/-- The operation took place. -/
def Op.took (op : Op) : Ending Reply → Bool
  | .returned _ => true
  | .raised _ => false
  | .killed => op.replaced

/-! ## Runs -/

structure Store where
  document : Option Payload
  process : Option Mapping
  published : Published

/-- `start` is a new process with a new registry; `home`, `readable`: the directory is private and
the document can be read. -/
inductive Event
  | start (home readable : Bool)
  | call (op : Op)
  | kill

def Store.step (nt : Bool) (S : Store) : Event → Option Store
  | .start home readable =>
    some { S with
      process := if home && readable then (load nt S.document).toOption else none }
  | .call op =>
    S.process.map fun entries =>
      let (ending, r) := Registry.call nt ⟨S.document, entries⟩ op
      { document := r.document
        process := if ending = .killed then none else some r.entries
        published := if op.took ending then op.effect nt S.published else S.published }
  | .kill => some { S with process := none }

/-- A registry over any document that can be loaded, none at first. -/
def system (nt : Bool) : LTS Store Event where
  init S := S.process = none ∧ ∃ m, load nt S.document = .ok m ∧ ∀ id, m.lookup id = S.published id
  step S e S' := S.step nt e = some S'

/-- The numbers that `stat` reports of a file are ones the reader takes. -/
def Recordable (nt : Bool) (metadata : FileStat) : Prop :=
  let identity := identityOf nt metadata
  0 ≤ identity.device ∧ 0 ≤ identity.inode ∧ 0 ≤ identity.modifiedNs ∧ 0 ≤ identity.sizeBytes

def Registration.recordable (nt : Bool) (x : Registration) : Prop :=
  ∀ metadata, x.answer = .ok metadata → Recordable nt metadata

/-- Only files with recordable numbers are registered. -/
def Event.recordable (nt : Bool) : Event → Store → Prop
  | .call (.register _ x _), _ => x.recordable nt
  | .call (.registerMany _ mappings _), _ => ∀ x ∈ mappings, x.recordable nt
  | _, _ => True

/-! ## What a call does -/

section

variable {nt : Bool}

/-- A write is refused or fails, or it is done, or the process is killed around it. -/
theorem publish_cases (r : Registry) (entries : Mapping) (w : WriteOutcome) :
    (∃ failure, r.publish entries w = (.raised failure, r)) ∨
    ((serialized entries).length ≤ maxMaterialPathRegistryBytes ∧ w = .done ∧
      r.publish entries w = (.returned (), ⟨some (serialized entries), entries⟩)) ∨
    ((serialized entries).length ≤ maxMaterialPathRegistryBytes ∧ w = .killed true ∧
      r.publish entries w = (.killed, { r with document := some (serialized entries) })) ∨
    (w = .killed false ∧ r.publish entries w = (.killed, r)) := by
  unfold Registry.publish
  split
  · exact .inl ⟨_, rfl⟩
  · rename_i hlength
    have hle := Nat.le_of_not_lt hlength
    cases w with
    | done => exact .inr (.inl ⟨hle, rfl, rfl⟩)
    | failed => exact .inl ⟨_, rfl⟩
    | killed replaced =>
      cases replaced with
      | true => exact .inr (.inr (.inl ⟨hle, rfl, rfl⟩))
      | false => exact .inr (.inr (.inr ⟨rfl, rfl⟩))

/-- The mapping means `p`. -/
def Means (entries : Mapping) (p : Published) : Prop := ∀ id, entries.lookup id = p id

theorem Means.insert {entries : Mapping} {p : Published} (h : Means entries p)
    (identifier : Uuid4) (file : RegisteredFile) :
    Means (entries.insert identifier file) (Function.update p identifier (some file)) := by
  intro id
  by_cases hid : id = identifier
  · rw [hid, AList.lookup_insert, Function.update_self]
  · rw [AList.lookup_insert_ne hid, Function.update_of_ne hid]
    exact h id

theorem Means.erase {entries : Mapping} {p : Published} (h : Means entries p)
    (identifier : Uuid4) : Means (entries.erase identifier) (Function.update p identifier none) := by
  intro id
  by_cases hid : id = identifier
  · rw [hid, AList.lookup_erase, Function.update_self]
  · rw [AList.lookup_erase_ne hid, Function.update_of_ne hid]
    exact h id

/-- What one call means is what the code writes: the whole batch, entry by entry. -/
theorem Means.insertAll {mappings : List Registration} {prepared : List (Uuid4 × RegisteredFile)}
    (hprepared : mappings.mapM (Registration.prepared nt) = .ok prepared) {entries : Mapping}
    {p : Published} (h : Means entries p) :
    Means (Registry.insertAll entries prepared) (mappings.foldl (Registration.effect nt) p) := by
  induction mappings generalizing prepared entries p with
  | nil =>
    cases hprepared
    exact h
  | cons x mappings ih =>
    rw [List.mapM_cons] at hprepared
    cases hx : x.prepared nt with
    | error failure =>
      rw [hx] at hprepared
      cases hprepared
    | ok e =>
      cases hrest : mappings.mapM (Registration.prepared nt) with
      | error failure =>
        rw [hx, hrest] at hprepared
        cases hprepared
      | ok rest =>
        rw [hx, hrest] at hprepared
        cases hprepared
        have heffect : x.effect nt p = Function.update p e.1 (some e.2) := by
          simp [Registration.effect, hx]
        rw [List.foldl_cons, heffect]
        exact ih hrest (h.insert e.1 e.2)

theorem body_cases {r : Registry} {p : Published} (h : Means r.entries p) (op : Op) :
    (∃ failure, r.body nt op = (.raised failure, r)) ∨
    (op.effect nt p = p ∧ ∃ a, r.body nt op = (.returned a, r)) ∨
    (∃ entries w, Means entries (op.effect nt p) ∧ (op.replaced ↔ w = .killed true) ∧
      r.body nt op = Registry.reply (r.publish entries w)) := by
  cases op with
  | register home x w =>
    simp only [Registry.body, Registry.register, Op.effect, Registration.effect]
    cases hx : x.prepared nt with
    | error failure => exact .inl ⟨_, rfl⟩
    | ok e => exact .inr (.inr ⟨_, w, h.insert e.1 e.2, by simp [Op.replaced], rfl⟩)
  | registerMany home mappings w =>
    simp only [Registry.body, Registry.registerMany]
    split
    · exact .inl ⟨_, rfl⟩
    · cases hprepared : mappings.mapM (Registration.prepared nt) with
      | error failure => exact .inl ⟨_, rfl⟩
      | ok prepared =>
        simp only
        split
        · exact .inl ⟨_, rfl⟩
        · exact .inr (.inr ⟨_, w, h.insertAll hprepared, by simp [Op.replaced], rfl⟩)
  | forget home materialId w =>
    simp only [Registry.body, Registry.forget, Op.effect]
    cases usableIdentifier materialId with
    | none => exact .inl ⟨_, rfl⟩
    | some identifier =>
      simp only
      split
      · rename_i habsent
        refine .inr (.inl ⟨?_, _, rfl⟩)
        rw [Function.update_eq_self_iff, ← h identifier]
        exact (AList.lookup_eq_none.2 habsent).symm
      · exact .inr (.inr ⟨_, w, h.erase identifier, by simp [Op.replaced], rfl⟩)
  | resolve home materialId answer again =>
    simp only [Registry.body, Registry.resolve]
    split
    · exact .inl ⟨_, rfl⟩
    · split
      · exact .inl ⟨_, rfl⟩
      · split
        · exact .inl ⟨_, rfl⟩
        · split
          · exact .inl ⟨_, rfl⟩
          · exact .inr (.inl ⟨rfl, _, rfl⟩)

/-- A batch of distinct identifiers has every entry under its own. -/
theorem insertAll_lookup {prepared : List (Uuid4 × RegisteredFile)}
    (hnodup : (prepared.map (·.1)).Nodup) (entries : Mapping) :
    (∀ e ∈ prepared, (Registry.insertAll entries prepared).lookup e.1 = some e.2) ∧
      ∀ id, id ∉ prepared.map (·.1) →
        (Registry.insertAll entries prepared).lookup id = entries.lookup id := by
  unfold Registry.insertAll
  induction prepared generalizing entries with
  | nil => simp
  | cons e prepared ih =>
    rw [List.map_cons, List.nodup_cons] at hnodup
    obtain ⟨hin, hout⟩ := ih hnodup.2 (entries.insert e.1 e.2)
    refine ⟨fun e' he' => ?_, fun id hid => ?_⟩
    · rcases List.mem_cons.1 he' with rfl | he'
      · rw [List.foldl_cons, hout _ hnodup.1, AList.lookup_insert]
      · rw [List.foldl_cons]
        exact hin e' he'
    · rw [List.map_cons, List.mem_cons, not_or] at hid
      rw [List.foldl_cons, hout id hid.2, AList.lookup_insert_ne hid.1]

/-- **What a call does**: it is refused, or it has nothing to write, or it writes what it means. -/
theorem call_cases {r : Registry} {p : Published} (h : Means r.entries p) (op : Op) :
    (∃ failure, r.call nt op = (.raised failure, r)) ∨
    (op.effect nt p = p ∧ ∃ a, r.call nt op = (.returned a, r)) ∨
    (∃ entries w, Means entries (op.effect nt p) ∧ (op.replaced ↔ w = .killed true) ∧
      r.call nt op = Registry.reply (r.publish entries w)) := by
  unfold Registry.call
  split
  · exact body_cases h op
  · exact .inl ⟨_, rfl⟩

/-- A call that was refused or failed leaves the document and the mapping as they were. -/
theorem call_raised {r r' : Registry} {op : Op} {failure : Failure}
    (h : r.call nt op = (.raised failure, r')) : r' = r := by
  obtain ⟨f, hf⟩ | ⟨-, a, ha⟩ | ⟨entries, w, -, -, hw⟩ :=
    call_cases (fun _ => rfl) op
  · cases hf.symm.trans h
    rfl
  · cases ha.symm.trans h
  · rw [h] at hw
    obtain ⟨f, hp⟩ | ⟨-, -, hp⟩ | ⟨-, -, hp⟩ | ⟨-, hp⟩ := publish_cases r entries w <;>
      rw [hp] at hw <;> cases hw
    rfl

/-- A registration of a file with recordable numbers is one the reader takes. -/
theorem prepared_storable {x : Registration} {e : Uuid4 × RegisteredFile}
    (hx : x.prepared nt = .ok e) (h : x.recordable nt) : Storable nt e.2 := by
  unfold Registration.prepared at hx
  split at hx
  · cases hx
  · split at hx
    · cases hx
    · rename_i metadata hsource
      cases hx
      unfold requireSourceFile at hsource
      split at hsource
      · cases hsource
      · rename_i hshaped
        split at hsource
        · cases hsource
        · rename_i answered hanswer
          split at hsource
          · cases hsource
            obtain ⟨hdevice, hinode, hmodified, hsize⟩ := h _ hanswer
            exact ⟨not_not.1 hshaped, hdevice, stableDeviceIdentity_idem _, hinode, hmodified,
              hsize⟩
          · cases hsource

/-- The reader takes every entry. -/
def AllStorable (nt : Bool) (p : Published) : Prop :=
  ∀ id file, p id = some file → Storable nt file

theorem AllStorable.effect {x : Registration} {p : Published} (hp : AllStorable nt p)
    (h : x.recordable nt) : AllStorable nt (x.effect nt p) := by
  unfold Registration.effect
  split
  · exact hp
  · rename_i identifier file hx
    intro id file' hfile
    by_cases hid : id = identifier
    · rw [hid, Function.update_self] at hfile
      cases hfile
      exact prepared_storable hx h
    · rw [Function.update_of_ne hid] at hfile
      exact hp id file' hfile

theorem AllStorable.op_effect {op : Op} {S : Store} {p : Published} (hp : AllStorable nt p)
    (h : (Event.call op).recordable nt S) : AllStorable nt (op.effect nt p) := by
  cases op with
  | register home x w => exact hp.effect h
  | registerMany home mappings w =>
    show AllStorable nt (mappings.foldl (Registration.effect nt) p)
    have hall : ∀ x ∈ mappings, x.recordable nt := h
    clear h
    induction mappings generalizing p with
    | nil => exact hp
    | cons x mappings ih =>
      exact ih (hp.effect (hall x List.mem_cons_self)) fun y hy =>
        hall y (List.mem_cons_of_mem _ hy)
  | forget home materialId w =>
    show AllStorable nt (match usableIdentifier materialId with
      | none => p
      | some identifier => Function.update p identifier none)
    split
    · exact hp
    · rename_i identifier _
      intro id file hfile
      by_cases hid : id = identifier
      · rw [hid, Function.update_self] at hfile
        cases hfile
      · rw [Function.update_of_ne hid] at hfile
        exact hp id file hfile
  | resolve home materialId answer again => exact hp

/-! ## The invariant -/

/-- The document loads what was published, and the process has it. -/
structure Sound (nt : Bool) (S : Store) : Prop where
  loads : ∃ m, load nt S.document = .ok m ∧ Means m S.published
  memory : ∀ m, S.process = some m → Means m S.published

theorem Sound.storable {S : Store} (h : Sound nt S) : AllStorable nt S.published := by
  obtain ⟨m, hm, hmeans⟩ := h.loads
  intro id file hfile
  exact storable_of_load hm id file ((hmeans id).trans hfile)

/-- A document that has been renamed into place loads the mapping it was made from. -/
theorem loads_serialized {entries : Mapping} {p : Published} (h : Means entries p)
    (hp : AllStorable nt p)
    (hlength : (serialized entries).length ≤ maxMaterialPathRegistryBytes) :
    ∃ m, load nt (some (serialized entries)) = .ok m ∧ Means m p := by
  obtain ⟨m, hm, hlookup⟩ :=
    load_serialized (fun id file hfile => hp id file ((h id).symm.trans hfile)) hlength
  exact ⟨m, hm, fun id => (hlookup id).trans (h id)⟩

theorem Sound.call {S S' : Store} {op : Op} (h : Sound nt S)
    (hrec : (Event.call op).recordable nt S) (hstep : S.step nt (.call op) = some S') :
    Sound nt S' := by
  obtain ⟨entries, hentries, rfl⟩ := Option.map_eq_some_iff.1 hstep
  have hmeans := h.memory entries hentries
  obtain ⟨f, hcall⟩ | ⟨heffect, a, hcall⟩ | ⟨entries', w, hmeans', hw, hcall⟩ :=
    @call_cases nt ⟨S.document, entries⟩ S.published hmeans op
  · rw [hcall]
    exact ⟨h.loads, fun m hm => by cases hm; exact hmeans⟩
  · rw [hcall]
    simp only [Op.took, if_true, heffect]
    exact ⟨h.loads, fun m hm => by cases hm; exact hmeans⟩
  · rw [hcall]
    have hstorable := h.storable.op_effect hrec
    obtain ⟨f, hp⟩ | ⟨hlength, -, hp⟩ | ⟨hlength, hkilled, hp⟩ | ⟨hkilled, hp⟩ :=
      publish_cases ⟨S.document, entries⟩ entries' w <;> rw [hp]
    · exact ⟨h.loads, fun m hm => by cases hm; exact hmeans⟩
    · exact ⟨loads_serialized hmeans' hstorable hlength, fun m hm => by cases hm; exact hmeans'⟩
    · have htook : op.replaced = true := hw.2 hkilled
      simp only [Registry.reply, Op.took, htook, if_true]
      exact ⟨loads_serialized hmeans' hstorable hlength, fun m hm => by cases hm⟩
    · have htook : op.replaced = false := by
        rw [Bool.eq_false_iff]
        intro ht
        cases hkilled.symm.trans (hw.1 ht)
      simp only [Registry.reply, Op.took, htook]
      exact ⟨h.loads, fun m hm => by cases hm⟩

/-- **The invariant**, in every run in which only files with recordable numbers are registered. -/
theorem sound_inductive : ((system nt).restrict (Event.recordable nt)).Inductive (Sound nt) where
  init S h := ⟨h.2, fun m hm => by rw [h.1] at hm; cases hm⟩
  step S e S' h hstep := by
    obtain ⟨hstep, hrec⟩ := hstep
    cases e with
    | start home readable =>
      cases hstep
      refine ⟨h.loads, fun m hm => ?_⟩
      obtain ⟨m', hload, hmeans⟩ := h.loads
      simp only [hload] at hm
      split at hm
      · cases hm
        exact hmeans
      · cases hm
    | call op => exact h.call hrec hstep
    | kill =>
      cases hstep
      exact ⟨h.loads, fun m hm => by cases hm⟩

end

end AutomationTool.Executor.MaterialPaths
