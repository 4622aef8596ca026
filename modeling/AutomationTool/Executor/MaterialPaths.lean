import AutomationTool.Core.Hex
import AutomationTool.Core.Json
import AutomationTool.Core.PosixPath
import AutomationTool.Protocol.SafeText
import AutomationTool.Executor.EditingProtocol

/-!
# Where each material's file is

`MaterialPathRegistry` keeps one JSON document in the private state directory
and the mapping it states in memory. Every change serialises the whole mapping
to a scratch file and renames it over the document, and only then takes it into
memory.

What the operating system answers is a parameter of each operation: whether the
directory is still private, what `stat` says about a source, and how far the
write gets (`WriteOutcome`). The scratch files themselves are left out.

* `load_serialized`: a mapping whose every entry is `Storable` is loaded again
  from the document it is written to.
-/
namespace AutomationTool.Executor.MaterialPaths

open Editing (Uuid Uuid.version)
open EditingWorker (Uuid4)
open Protocol (containsControlOrBidi)

/-- The reasons of `MaterialProbeRejection` that a source can be refused for. -/
inductive MaterialProbeRejection | unreadable | unsafePath
deriving DecidableEq

inductive MaterialPathRegistryRejection
  | unusableIdentifier | notRegistered | fileMissing | fileUnreadable | fileChanged
  | registryUnreadable | registryUnwritable | registryFull
deriving DecidableEq

/-- `MaterialProbeRejected` and `MaterialPathRegistryRejected`. -/
inductive Failure
  | probe (rejection : MaterialProbeRejection)
  | registry (rejection : MaterialPathRegistryRejection)
deriving DecidableEq

def maxPathCharacters : Nat := 4096

def maxMaterialPathRegistryBytes : Nat := 16 * 1024 * 1024

def materialPathRegistryVersion : String := "executor.material-path-registry.v1"

/-! ## Files -/

/-- What `os.stat` and `os.access` report of a file. -/
structure FileStat where
  device : Int
  inode : Int
  modifiedNs : Int
  sizeBytes : Int
  regular : Bool
  readable : Bool
deriving DecidableEq

/-- `missing`: nothing is there; `refused`: any other `OSError`. -/
inductive StatError | missing | refused
deriving DecidableEq

abbrev StatAnswer := Except StatError FileStat

/-- mirrors material_probe.py:1403-1416 -/
structure FileIdentity where
  device : Int
  inode : Int
  modifiedNs : Int
  sizeBytes : Int
deriving DecidableEq

structure RegisteredFile where
  path : PosixPath
  identity : FileIdentity
deriving DecidableEq

/-- `nt` is `os.name == "nt"`.
mirrors material_probe.py:1419-1430 -/
def stableDeviceIdentity (nt : Bool) (device : Int) : Int :=
  if nt then device % 2 ^ 32 else device

/-- mirrors material_probe.py:1433-1439 -/
def identityOf (nt : Bool) (metadata : FileStat) : FileIdentity where
  device := stableDeviceIdentity nt metadata.device
  inode := metadata.inode
  modifiedNs := metadata.modifiedNs
  sizeBytes := metadata.sizeBytes

/-- `_require_path_shape` accepts.
mirrors material_probe.py:394-405 -/
def Shaped (path : PosixPath) : Prop :=
  path.isAbsolute ∧ path.text.length ≤ maxPathCharacters ∧ containsControlOrBidi path.text = false

instance (path : PosixPath) : Decidable (Shaped path) := inferInstanceAs (Decidable (_ ∧ _))

/-- mirrors material_probe.py:436-461 -/
def requireSourceFile (path : PosixPath) (answer : StatAnswer) :
    Except MaterialProbeRejection FileStat :=
  if ¬Shaped path then .error .unsafePath
  else
    match answer with
    | .error _ => .error .unreadable
    | .ok metadata =>
      if metadata.regular && metadata.readable then .ok metadata else .error .unreadable

/-- mirrors material_probe.py:1882-1902 -/
def whyTheFileCannotBeUsed : StatAnswer → MaterialPathRegistryRejection
  | .error .missing => .fileMissing
  | _ => .fileUnreadable

/-- mirrors material_probe.py:1458-1476 -/
def usableIdentifier (value : Uuid) : Option Uuid4 :=
  if h : Uuid.version value = some 4 then some ⟨value, h⟩ else none

/-! ## The document -/

abbrev Mapping := AList fun _ : Uuid4 => RegisteredFile

/-- What is in a file that is read as a document: its JSON value, unless it has none, and its
length. -/
structure Payload where
  value : Option Json
  length : Nat

/-- The length `json.dumps` gives a character, everything outside ASCII escaped. -/
def escapedLength (c : Char) : Nat :=
  if c = '"' ∨ c = '\\' ∨ c = '\n' ∨ c = '\r' ∨ c = '\t' ∨ c.toNat = 8 ∨ c.toNat = 12 then 2
  else if 0x20 ≤ c.toNat ∧ c.toNat ≤ 0x7e then 1
  else if c.toNat < 0x10000 then 6
  else 12

def entryJson (file : RegisteredFile) : Json :=
  .obj
    [("device", .int file.identity.device), ("inode", .int file.identity.inode),
      ("modified_ns", .int file.identity.modifiedNs), ("path", .str file.path.text),
      ("size_bytes", .int file.identity.sizeBytes)]

/-- `"…":{"device":…,"inode":…,"modified_ns":…,"path":"…","size_bytes":…}`. -/
def entryLength (file : RegisteredFile) : Nat :=
  39 + 59 + (file.path.text.map escapedLength).sum +
    ([file.identity.device, file.identity.inode, file.identity.modifiedNs,
      file.identity.sizeBytes].map fun n => (toString n).length).sum

/-- mirrors material_probe.py:2064-2090 -/
def serialized (entries : Mapping) : Payload where
  value := some (.obj
    [("entries", .obj (entries.entries.map fun e =>
        (String.ofList (Hex.hyphenated e.1), entryJson e.2))),
      ("version", .str materialPathRegistryVersion.toList)])
  length := 61 + (entries.entries.map fun e => entryLength e.2).sum + (entries.entries.length - 1)

/-- mirrors material_probe.py:1495-1497 -/
def wholeNumber : Json → Option Int
  | .int n => if 0 ≤ n then some n else none
  | _ => none

/-- mirrors material_probe.py:1479-1492 -/
def shapedPath : Json → Option PosixPath
  | .str value => if Shaped (.ofText value) then some (.ofText value) else none
  | _ => none

/-- mirrors material_probe.py:1500-1519 -/
def parsedEntry (nt : Bool) (value : Json) : Option RegisteredFile := do
  let members ← Json.fields ["path", "device", "inode", "modified_ns", "size_bytes"] value
  let path ← (Json.get members "path").bind shapedPath
  let device ← (Json.get members "device").bind wholeNumber
  let inode ← (Json.get members "inode").bind wholeNumber
  let modifiedNs ← (Json.get members "modified_ns").bind wholeNumber
  let sizeBytes ← (Json.get members "size_bytes").bind wholeNumber
  pure
    { path
      identity := { device := stableDeviceIdentity nt device, inode, modifiedNs, sizeBytes } }

/-- `_usable_identifier(_parsed_identifier(key))`.
mirrors material_probe.py:1550-1562 -/
def parsedIdentifier (key : String) : Option Uuid4 := do
  let parsed ← Hex.ofHyphenated key.toList
  if Hex.hyphenated parsed = key.toList then usableIdentifier parsed else none

def parsedMember (nt : Bool) (entries : Mapping) (member : String × Json) : Option Mapping := do
  let identifier ← parsedIdentifier member.1
  let entry ← parsedEntry nt member.2
  pure (entries.insert identifier entry)

/-- mirrors material_probe.py:1522-1547 -/
def parsedDocument (nt : Bool) : Json → Option Mapping
  | .obj members =>
    match Json.get members "version", Json.get members "entries" with
    | some (.str version), some (.obj entries) =>
      if version = materialPathRegistryVersion.toList then entries.foldlM (parsedMember nt) ∅
      else none
    | _, _ => none
  | _ => none

/-- `_load`, of a document that can be read.
mirrors material_probe.py:1780-1806 -/
def load (nt : Bool) : Option Payload → Except MaterialPathRegistryRejection Mapping
  | none => .ok ∅
  | some payload =>
    if payload.length > maxMaterialPathRegistryBytes then .error .registryUnreadable
    else
      match payload.value.bind (parsedDocument nt) with
      | none => .error .registryUnreadable
      | some entries => .ok entries

/-! ## What is written is loaded -/

/-- The reader takes this entry, and takes it for what it is. -/
structure Storable (nt : Bool) (file : RegisteredFile) : Prop where
  shaped : Shaped file.path
  device : 0 ≤ file.identity.device
  stable : stableDeviceIdentity nt file.identity.device = file.identity.device
  inode : 0 ≤ file.identity.inode
  modifiedNs : 0 ≤ file.identity.modifiedNs
  sizeBytes : 0 ≤ file.identity.sizeBytes

variable {nt : Bool}

theorem stableDeviceIdentity_idem (device : Int) :
    stableDeviceIdentity nt (stableDeviceIdentity nt device) = stableDeviceIdentity nt device := by
  cases nt
  · rfl
  · exact Int.emod_emod_of_dvd _ (Int.dvd_refl _)

theorem parsedEntry_entryJson {file : RegisteredFile} (h : Storable nt file) :
    parsedEntry nt (entryJson file) = some file := by
  have hpath : shapedPath (.str file.path.text) = some file.path := by
    simp [shapedPath, PosixPath.ofText_text, h.shaped]
  simp [parsedEntry, entryJson, Json.fields, hpath, wholeNumber, h.device, h.inode, h.modifiedNs,
    h.sizeBytes, h.stable]

/-- What is loaded is storable again. -/
theorem storable_of_parsedEntry {value : Json} {file : RegisteredFile}
    (h : parsedEntry nt value = some file) : Storable nt file := by
  have hwhole : ∀ {o : Option Json} {n : Int}, o.bind wholeNumber = some n → 0 ≤ n := by
    intro o n hn
    obtain ⟨j, -, hj⟩ := Option.bind_eq_some_iff.1 hn
    unfold wholeNumber at hj
    split at hj
    · split at hj
      · cases hj
        assumption
      · cases hj
    · cases hj
  unfold parsedEntry at h
  obtain ⟨members, -, h⟩ := Option.bind_eq_some_iff.1 h
  obtain ⟨path, hpath, h⟩ := Option.bind_eq_some_iff.1 h
  obtain ⟨device, hdevice, h⟩ := Option.bind_eq_some_iff.1 h
  obtain ⟨inode, hinode, h⟩ := Option.bind_eq_some_iff.1 h
  obtain ⟨modifiedNs, hmodified, h⟩ := Option.bind_eq_some_iff.1 h
  obtain ⟨sizeBytes, hsize, h⟩ := Option.bind_eq_some_iff.1 h
  cases h
  refine ⟨?_, ?_, stableDeviceIdentity_idem _, hwhole hinode, hwhole hmodified, hwhole hsize⟩
  · obtain ⟨j, -, hj⟩ := Option.bind_eq_some_iff.1 hpath
    unfold shapedPath at hj
    split at hj
    · split at hj
      · cases hj
        assumption
      · cases hj
    · cases hj
  · have hpos := hwhole hdevice
    show 0 ≤ stableDeviceIdentity nt device
    cases nt
    · exact hpos
    · exact Int.emod_nonneg _ (by decide)

theorem version_lt {u : Uuid} (h : Uuid.version u = some 4) : u < 2 ^ 128 := by
  unfold Uuid.version at h
  split at h
  · rename_i hu
    exact hu.1
  · cases h

theorem parsedIdentifier_hyphenated (id : Uuid4) :
    parsedIdentifier (String.ofList (Hex.hyphenated id)) = some id := by
  have hread := Hex.ofHyphenated_hyphenated (version_lt id.2)
  simp [parsedIdentifier, hread, usableIdentifier, id.2]

/-- A mapping built entry by entry, from what was there before. -/
theorem lookup_foldl_insert {l : List (Sigma fun _ : Uuid4 => RegisteredFile)} (hl : l.NodupKeys)
    (acc : Mapping) (id : Uuid4) :
    (l.foldl (fun m e => m.insert e.1 e.2) acc).lookup id =
      (l.dlookup id).or (acc.lookup id) := by
  induction l generalizing acc with
  | nil => simp
  | cons e l ih =>
    obtain ⟨k, file⟩ := e
    obtain ⟨hk, hl⟩ := List.nodupKeys_cons.1 hl
    rw [List.foldl_cons, ih hl]
    by_cases hid : id = k
    · subst hid
      rw [List.dlookup_eq_none.2 hk, List.dlookup_cons_eq, AList.lookup_insert]
      rfl
    · rw [List.dlookup_cons_ne _ _ hid, AList.lookup_insert_ne hid]

theorem foldlM_parsedMember {l : List (Sigma fun _ : Uuid4 => RegisteredFile)}
    (h : ∀ e ∈ l, Storable nt e.2) (acc : Mapping) :
    (l.map fun e => (String.ofList (Hex.hyphenated e.1), entryJson e.2)).foldlM
      (parsedMember nt) acc = some (l.foldl (fun m e => m.insert e.1 e.2) acc) := by
  induction l generalizing acc with
  | nil => rfl
  | cons e l ih =>
    have hentry := parsedEntry_entryJson (h e List.mem_cons_self)
    have hstep : parsedMember nt acc (String.ofList (Hex.hyphenated e.1), entryJson e.2) =
        some (acc.insert e.1 e.2) := by
      simp [parsedMember, parsedIdentifier_hyphenated, hentry]
    rw [List.map_cons, List.foldlM_cons, hstep, List.foldl_cons]
    exact ih (fun e' he' => h e' (List.mem_cons_of_mem _ he')) _

/-- **What is written is loaded**: the same file under every identifier. -/
theorem load_serialized {entries : Mapping}
    (h : ∀ id file, entries.lookup id = some file → Storable nt file)
    (hlength : (serialized entries).length ≤ maxMaterialPathRegistryBytes) :
    ∃ m, load nt (some (serialized entries)) = .ok m ∧ ∀ id, m.lookup id = entries.lookup id := by
  have hall : ∀ e ∈ entries.entries, Storable nt e.2 :=
    fun e he => h e.1 e.2 ((AList.mem_lookup_iff).2 he)
  have hparsed : (serialized entries).value.bind (parsedDocument nt) =
      some (entries.entries.foldl (fun m e => m.insert e.1 e.2) ∅) := by
    simp [serialized, parsedDocument, foldlM_parsedMember hall]
  refine ⟨entries.entries.foldl (fun m e => m.insert e.1 e.2) ∅, ?_, fun id => ?_⟩
  · unfold load
    simp only
    rw [if_neg (by omega), hparsed]
  · rw [lookup_foldl_insert entries.nodupKeys, AList.lookup_empty]
    simp [AList.lookup]

/-- What was loaded is storable. -/
theorem storable_of_load {document : Option Payload} {m : Mapping} (h : load nt document = .ok m) :
    ∀ id file, m.lookup id = some file → Storable nt file := by
  have hfold : ∀ (members : List (String × Json)) (acc m : Mapping),
      (∀ id file, acc.lookup id = some file → Storable nt file) →
      members.foldlM (parsedMember nt) acc = some m →
      ∀ id file, m.lookup id = some file → Storable nt file := by
    intro members
    induction members with
    | nil =>
      intro acc m hacc hm
      cases hm
      exact hacc
    | cons member members ih =>
      intro acc m hacc hm
      rw [List.foldlM_cons] at hm
      obtain ⟨acc', hstep, hm⟩ := Option.bind_eq_some_iff.1 hm
      refine ih acc' m ?_ hm
      obtain ⟨k, -, hstep⟩ := Option.bind_eq_some_iff.1 hstep
      obtain ⟨entry, hentry, hstep⟩ := Option.bind_eq_some_iff.1 hstep
      cases hstep
      intro id file hlookup
      by_cases hid : id = k
      · subst hid
        rw [AList.lookup_insert] at hlookup
        cases hlookup
        exact storable_of_parsedEntry hentry
      · rw [AList.lookup_insert_ne hid] at hlookup
        exact hacc id file hlookup
  unfold load at h
  split at h
  · cases h
    simp
  · split at h
    · cases h
    · split at h
      · cases h
      · rename_i entries hentries
        cases h
        obtain ⟨value, -, hparsed⟩ := Option.bind_eq_some_iff.1 hentries
        unfold parsedDocument at hparsed
        split at hparsed
        · split at hparsed
          · split at hparsed
            · exact hfold _ ∅ _ (by simp) hparsed
            · cases hparsed
          · cases hparsed
        · cases hparsed

end AutomationTool.Executor.MaterialPaths
