/-
Where an import puts a file and where lookups look for it.  A key is imported
under the name that a lookup probes if its file has that name, with the key
prefix or without it, and under no other condition on the prefix, the layer or
the key; a file whose bare name already begins with the prefix has to bear the
whole name.
-/
import LayeredConfig.Proofs.DirectoryImport

namespace LayeredConfig

open LayeredConfig.Action

namespace Settings

variable {settings : Settings} {path key name : String}

/-- Is this the name of a file for a key in a layer?  It is the full key, or the
full key without its prefix unless the rest begins with that prefix too. -/
def NamesFile (settings : Settings) (path key name : String) : Prop :=
  name = settings.absoluteKey path key ∨
    name = path ++ ":" ++ key ∧ ¬ settings.keyPrefix.toList <+: name.toList

theorem absoluteKey_eq_append (settings : Settings) (path key : String) :
    settings.absoluteKey path key = settings.keyPrefix ++ (path ++ ":" ++ key) := by
  simp only [absoluteKey, String.append_assoc]

theorem prefixed_of_carried (h : settings.keyPrefix.toList <+: name.toList) :
    settings.prefixed name = name := by
  rw [prefixed, if_pos (List.isPrefixOf_iff_prefix.2 h)]

theorem prefixed_of_not_carried (h : ¬ settings.keyPrefix.toList <+: name.toList) :
    settings.prefixed name = settings.keyPrefix ++ name := by
  rw [prefixed, if_neg (mt List.isPrefixOf_iff_prefix.1 h)]

/-- A file is imported under a full key just if it has one of these names. -/
theorem prefixed_eq_absoluteKey_iff :
    settings.prefixed name = settings.absoluteKey path key ↔ settings.NamesFile path key name := by
  by_cases hcarried : settings.keyPrefix.toList <+: name.toList
  · simp only [NamesFile, prefixed_of_carried hcarried, hcarried, not_true_eq_false, and_false,
      or_false]
  · have hfull : name ≠ settings.absoluteKey path key := by
      rintro rfl
      rw [absoluteKey_eq_append, String.toList_append] at hcarried
      exact hcarried (List.prefix_append _ _)
    rw [prefixed_of_not_carried hcarried, absoluteKey_eq_append, String.append_right_inj]
    simp only [NamesFile, hfull, hcarried, not_false_eq_true, and_true, false_or]

end Settings

namespace StoredValue

theorem kind_ne_none (value : StoredValue) : value.kind ≠ .none := by
  cases value <;> nofun

end StoredValue

namespace MemoryStore

variable {settings : Settings} {scope : Scope} {m : MemoryStore} {path key : String}
  {value : StoredValue}

/-- What is stored under a key of a layer that applies is a candidate of the
lookups for its kind. -/
theorem mem_candidateKeys (h : m.unavailable = false)
    (hpath : path ∈ PathTemplate.resolvePaths settings.keyPaths scope)
    (hstored : m.entries.get? (settings.absoluteKey path key) = some value) :
    ∃ names,
      (((⟨settings, store⟩ : Engine MemoryStore).candidateKeys key value.kind scope).outcome m).1 =
        .ok names ∧ settings.absoluteKey path key ∈ names := by
  let v := m.view settings scope .byName
  have hshows : store.Shows (Holding m.entries) v := by
    rw [← store.withFieldOrder_byName]
    exact shows v
  have hcandidates := hshows.existingKeys key value.kind_ne_none
    (PathTemplate.resolvePaths settings.keyPaths scope)
  have hkind : v.kindAt (settings.absoluteKey path key) = value.kind := by
    have hshown : v.entries.get? (settings.absoluteKey path key) = some value := hstored
    simp only [View.kindAt, hshown]
  refine ⟨_, hcandidates.result_eq ⟨rfl, h⟩, List.mem_filter.2 ⟨?_, decide_eq_true hkind⟩⟩
  exact List.mem_map_of_mem hpath

end MemoryStore

namespace Manager

open FileTree (listed)

variable {settings : Settings} {manager : Manager MemoryStore Unit} {tree : FileTree}
  {directory : ByteArray} {way : FileTree.Way} {entries : List (ByteArray × FileNode)}
  {m : MemoryStore} {scope : Scope} {path key name payload : String} {value : StoredValue}

/-- An imported file is found by lookups.  If the one regular file of a directory
is a payload under a name for a key in a layer that applies, the import stores
it, and then the full key holds the value of the payload and is among the
candidates of the lookups for its kind, whatever was stored before.  No other key
is touched. -/
theorem loadDefaults_found_by_lookups
    (hmanager : Manager.new settings (.always MemoryStore.store) = .ok manager)
    (hway : tree.locate directory = .ok way) (hdirectory : tree.nodeAt way = .directory entries)
    (hfile : listed entries = [⟨name.toUTF8, some payload.toUTF8⟩])
    (hpayload : StoredValue.decode payload = .ok value)
    (hname : settings.NamesFile path key name)
    (hpath : path ∈ PathTemplate.resolvePaths settings.keyPaths scope)
    (h : m.unavailable = false) :
    ∃ left names,
      (manager.loadDefaults tree directory).outcome m = (.ok ⟨1, 0⟩, left) ∧
      left.entries.get? (settings.absoluteKey path key) = some value ∧
      (∀ other, other ≠ settings.absoluteKey path key →
        left.entries.get? other = m.entries.get? other) ∧
      (((⟨settings, MemoryStore.store⟩ : Engine MemoryStore).candidateKeys key value.kind
        scope).outcome left).1 = .ok names ∧
      settings.absoluteKey path key ∈ names := by
  let file : FileTree.Listed := ⟨name.toUTF8, some payload.toUTF8⟩
  have hheld : file.payload? = some (name, value) := by
    simp only [file, FileTree.Listed.payload?, Text.fromUTF8?_toUTF8, Option.bind_some, hpayload,
      Except.toOption, Option.bind_eq_bind, Option.pure_def]
  have hstored : Import.payloads settings [file] = [(settings.absoluteKey path key, value)] := by
    rw [Import.payloads, List.mergeSort_singleton, ← Settings.prefixed_eq_absoluteKey_iff.2 hname]
    exact List.filterMap_cons_some (by rw [Import.decodeFile_eq, hheld, Option.map_some])
  have hran := outcome_loadDefaults hmanager hway hdirectory h
  rw [hfile, hstored, List.countP_singleton, List.countP_singleton, hheld] at hran
  have hget : ∀ other, (m.entries.insertAll [(settings.absoluteKey path key, value)]).get? other =
      if other = settings.absoluteKey path key then some value else m.entries.get? other :=
    fun other => m.entries.get?_insert _ other value
  have hfull := hget (settings.absoluteKey path key)
  rw [if_pos rfl] at hfull
  obtain ⟨names, hnames, hmem⟩ := MemoryStore.mem_candidateKeys
    (m := { m with entries := m.entries.insertAll [(settings.absoluteKey path key, value)] })
    h hpath hfull
  refine ⟨_, names, hran, hfull, fun other hother => ?_, hnames, hmem⟩
  rw [hget, if_neg hother]

/-- Settings with a layer for each pod. -/
def podLayers : Settings where
  keyPaths := ["%\x7bpod\x7d"]

/-- A file for the layer of a pod that is called like the key prefix, and a
directory. -/
def podEntries : List (ByteArray × FileNode) :=
  [("cfg:cfg:motd".toUTF8, .file motdPayload), ("older".toUTF8, .directory [])]

/-- The message replaces a list.  A file `cfg:motd` would begin with the prefix
already, and be for no key of that layer. -/
theorem loadDefaults_found_by_lookups_pod :
    ∃ left names,
      (loadDefaults ⟨podLayers, .always MemoryStore.store⟩ ⟨.directory podEntries, []⟩
        "/".toUTF8).outcome
          { entries := NameMap.ofList [("cfg:cfg:motd", .list ["hello"])] } =
        (.ok ⟨1, 0⟩, left) ∧
      left.entries.get? "cfg:cfg:motd" = some (.string "hello") ∧
      (((⟨podLayers, MemoryStore.store⟩ : Engine MemoryStore).candidateKeys "motd" .string
        (.ofPairs [("pod", "cfg")])).outcome left).1 = .ok names ∧
      "cfg:cfg:motd" ∈ names ∧ ¬ podLayers.NamesFile "cfg" "motd" "cfg:motd" := by
  have hmanager : new podLayers (.always MemoryStore.store) =
      .ok ⟨podLayers, .always MemoryStore.store⟩ := rfl
  have hway : FileTree.locate ⟨.directory podEntries, []⟩ "/".toUTF8 = .ok [] :=
    FileTree.locate_slash rfl
  have hpayload : StoredValue.decode "\x7b\"type\":\"string\",\"data\":\"hello\"\x7d" =
      .ok (.string "hello") := by decide +kernel
  have hname : podLayers.NamesFile "cfg" "motd" "cfg:cfg:motd" := .inl (by decide +kernel)
  have hpath : "cfg" ∈ PathTemplate.resolvePaths podLayers.keyPaths (.ofPairs [("pod", "cfg")]) := by
    decide +kernel
  have hfull : podLayers.absoluteKey "cfg" "motd" = "cfg:cfg:motd" := by decide +kernel
  obtain ⟨left, names, hran, hstored, -, hnames, hmem⟩ :=
    loadDefaults_found_by_lookups
      (m := { entries := NameMap.ofList [("cfg:cfg:motd", .list ["hello"])] })
      hmanager hway rfl rfl hpayload hname hpath rfl
  rw [hfull] at hstored hmem
  refine ⟨left, names, hran, hstored, hnames, hmem, ?_⟩
  rw [← Settings.prefixed_eq_absoluteKey_iff]
  decide +kernel

end Manager

end LayeredConfig
