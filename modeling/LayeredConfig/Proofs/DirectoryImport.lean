/-
Bulk import into a store in memory.  Files are stored in the byte order of
their names, each in place of what is under its key, so a key ends up with the
value of the last file for it, and importing once more changes nothing.
-/
import LayeredConfig.Import
import LayeredConfig.Proofs.Listing
import LayeredConfig.Proofs.Writes

namespace LayeredConfig

open LayeredConfig.Action

namespace FileTree

/-- The regular file that an entry of a directory is. -/
def listed? (entry : ByteArray × FileNode) : Option Listed :=
  match entry.2 with
  | .file content => some ⟨entry.1, some content⟩
  | .locked _ => some ⟨entry.1, none⟩
  | _ => none

/-- The regular files among the entries of a directory. -/
def listed (entries : List (ByteArray × FileNode)) : List Listed := entries.filterMap listed?

theorem regularFiles_eq {tree : FileTree} {path : ByteArray} {way : Way}
    {entries : List (ByteArray × FileNode)} (hway : tree.locate path = .ok way)
    (hdirectory : tree.nodeAt way = .directory entries) :
    tree.regularFiles path = .ok ((listed entries).mergeSort Listed.le) := by
  rw [regularFiles, hway]
  simp only [bind, Except.bind, hdirectory]
  rfl

/-- What a file has, if its content can be read, it and the name are texts, and
the content is a payload: the name and the value. -/
def Listed.payload? (file : Listed) : Option (String × StoredValue) := do
  let name ← String.fromUTF8? file.name
  let text ← file.content?.bind String.fromUTF8?
  let value ← (StoredValue.decode text).toOption
  return (name, value)

theorem Listed.le_iff {a b : Listed} : Listed.le a b = true ↔ a.name.toList ≤ b.name.toList := by
  rw [Listed.le, decide_eq_true_eq]

/-- Files in the order in which they are imported are in the byte order of their
names. -/
theorem pairwise_mergeSort_le (files : List Listed) :
    (files.mergeSort Listed.le).Pairwise fun a b => a.name.toList ≤ b.name.toList := by
  have htrans (a b c : Listed) (hab : Listed.le a b = true) (hbc : Listed.le b c = true) :
      Listed.le a c = true :=
    Listed.le_iff.2 (List.le_trans (Listed.le_iff.1 hab) (Listed.le_iff.1 hbc))
  have htotal (a b : Listed) : (Listed.le a b || Listed.le b a) = true := by
    rw [Bool.or_eq_true, Listed.le_iff, Listed.le_iff]
    exact List.le_total a.name.toList b.name.toList
  have hsorted := List.pairwise_mergeSort htrans htotal files
  exact hsorted.imp Listed.le_iff.1

/-- A slash alone is the root. -/
theorem locate_slash {tree : FileTree} {entries : List (ByteArray × FileNode)}
    (h : tree.root = .directory entries) : tree.locate "/".toUTF8 = .ok [] := by
  have hsplit : splitPath "/".toUTF8 = [ByteArray.empty, ByteArray.empty] := by decide +kernel
  have hnul : "/".toUTF8.toList.contains 0 = false := by decide +kernel
  have hsize : "/".toUTF8.size = 1 := by decide +kernel
  have habsolute : isAbsolutePath "/".toUTF8 = true := by decide +kernel
  rw [locate, hnul, hsize, habsolute, hsplit]
  simp [walk, nodeAt, pathLimit, h]

end FileTree

namespace Import

open FileTree (Listed)

variable {settings : Settings}

theorem decodeFile_eq (settings : Settings) (file : Listed) :
    decodeFile settings file =
      file.payload?.map fun payload => (settings.prefixed payload.1, payload.2) := by
  simp only [decodeFile, Listed.payload?, Option.bind_eq_bind, Option.pure_def, Option.map_bind,
    Option.map_some, Function.comp_def]

/-- Does a file hold a value for a key? -/
def Provides (settings : Settings) (file : Listed) (key : String) (value : StoredValue) : Prop :=
  ∃ name, file.payload? = some (name, value) ∧ settings.prefixed name = key

theorem provides_iff {file : Listed} {key : String} {value : StoredValue} :
    Provides settings file key value ↔ decodeFile settings file = some (key, value) := by
  rw [decodeFile_eq, Option.map_eq_some_iff]
  constructor
  · rintro ⟨name, hpayload, rfl⟩
    exact ⟨(name, value), hpayload, rfl⟩
  · rintro ⟨⟨name, held⟩, hpayload, hkey⟩
    cases hkey
    exact ⟨name, hpayload, rfl⟩

/-- The last of some files for a key, in the byte order of their names, with its
value. -/
structure IsLast (settings : Settings) (files : List Listed) (key : String) (file : Listed)
    (value : StoredValue) : Prop where
  mem : file ∈ files
  provides : Provides settings file key value
  last : ∀ other ∈ files, ∀ held, Provides settings other key held →
    other.name.toList ≤ file.name.toList

section Files

variable {m : MemoryStore}

/-- Each file is stored in place of what is under its key, and what is no
payload is skipped. -/
theorem outcome_storeFiles (h : m.unavailable = false) (report : ImportReport)
    (files : List Listed) :
    (storeFiles settings MemoryStore.store report files).outcome m =
      (.ok ⟨report.stored + files.countP fun file => file.payload?.isSome,
          report.skipped + files.countP fun file => file.payload?.isNone⟩,
        { m with entries := m.entries.insertAll (files.filterMap (decodeFile settings)) }) := by
  induction files generalizing report m with
  | nil => rfl
  | cons file rest ih =>
      have hpayload := decodeFile_eq settings file
      cases hdecode : decodeFile settings file with
      | none =>
          rw [hdecode, eq_comm, Option.map_eq_none_iff] at hpayload
          rw [storeFiles, hdecode]
          simp only
          rw [ih h, List.filterMap_cons_none hdecode, List.countP_cons_of_neg (by simp [hpayload]),
            List.countP_cons_of_pos (by simp [hpayload]), Nat.add_assoc, Nat.add_comm 1]
      | some stored =>
          obtain ⟨key, value⟩ := stored
          rw [hdecode, eq_comm, Option.map_eq_some_iff] at hpayload
          obtain ⟨payload, hpayload, _⟩ := hpayload
          have hstore : (observe (MemoryStore.store.storeValue key value)).outcome m =
              (.ok (.ok ()), { m with entries := m.entries.insert key value }) := by
            rw [outcome_observe, MemoryStore.outcome_storeValue h]
          have hrest := ih (m := { m with entries := m.entries.insert key value }) h
            { report with stored := report.stored + 1 }
          rw [storeFiles, hdecode]
          simp only
          rw [outcome_bind_of_ok hstore]
          simp only
          rw [hrest, List.filterMap_cons_some hdecode, List.countP_cons_of_pos (by simp [hpayload]),
            List.countP_cons_of_neg (by simp [hpayload]), Nat.add_assoc, Nat.add_comm 1]
          rfl

/-- After the import a key has the value of the last file for it, or what it had
before if there is none. -/
theorem get?_insertAll_decodeFile (settings : Settings) (entries : NameMap StoredValue)
    {files : List Listed}
    (hsorted : files.Pairwise fun a b => a.name.toList ≤ b.name.toList) (key : String) :
    (∃ file value, IsLast settings files key file value ∧
      (entries.insertAll (files.filterMap (decodeFile settings))).get? key = some value) ∨
    ((∀ file ∈ files, ∀ value, ¬ Provides settings file key value) ∧
      (entries.insertAll (files.filterMap (decodeFile settings))).get? key =
        entries.get? key) := by
  rw [NameMap.get?_insertAll, List.filter_filterMap, List.getLast?_filterMap]
  have hdecode {file : Listed} {value : StoredValue} (hprovides : Provides settings file key value) :
      (decodeFile settings file).filter (fun pair => pair.1 == key) = some (key, value) := by
    rw [provides_iff.1 hprovides, Option.filter_some, if_pos (beq_self_eq_true key)]
  cases hlast : files.reverse.findSome? fun file =>
      (decodeFile settings file).filter fun pair => pair.1 == key with
  | none =>
      refine .inr ⟨fun file hfile value hprovides => ?_, rfl⟩
      have hnone := List.findSome?_eq_none_iff.1 hlast file (List.mem_reverse.2 hfile)
      rw [hdecode hprovides] at hnone
      exact Option.some_ne_none _ hnone
  | some pair =>
      obtain ⟨later, file, earlier, hfiles, hpair, hlater⟩ := List.findSome?_eq_some_iff.1 hlast
      rw [List.reverse_eq_iff, List.reverse_append, List.reverse_cons] at hfiles
      obtain ⟨hdecoded, hkey⟩ := Option.filter_eq_some_iff.1 hpair
      obtain rfl : pair.1 = key := eq_of_beq hkey
      refine .inl ⟨file, pair.2, ⟨?_, provides_iff.2 hdecoded, ?_⟩, rfl⟩
      · simp [hfiles]
      · intro other hother held hprovides
        rw [hfiles, List.append_assoc, List.mem_append, List.singleton_append, List.mem_cons] at hother
        rw [hfiles, List.append_assoc, List.pairwise_append] at hsorted
        rcases hother with hbefore | rfl | hafter
        · exact hsorted.2.2 other hbefore file (by simp)
        · exact List.le_refl _
        · have hnone := hlater other (List.mem_reverse.1 hafter)
          rw [hdecode hprovides] at hnone
          exact absurd hnone (Option.some_ne_none _)

end Files

/-- What some files stand for, in the order in which it is stored. -/
def payloads (settings : Settings) (files : List Listed) : List (String × StoredValue) :=
  (files.mergeSort Listed.le).filterMap (decodeFile settings)

/-- Of files in any order and the same files in the order of the import the
last for a key are the same. -/
theorem IsLast.of_mergeSort {files : List Listed} {key : String} {file : Listed}
    {value : StoredValue} (h : IsLast settings (files.mergeSort Listed.le) key file value) :
    IsLast settings files key file value where
  mem := List.mem_mergeSort.1 h.mem
  provides := h.provides
  last := fun other hother held hprovides =>
    h.last other (List.mem_mergeSort.2 hother) held hprovides

/-- What is a payload and what is none are all the files together. -/
theorem countP_payload (files : List Listed) :
    (files.countP fun file => file.payload?.isSome) +
      (files.countP fun file => file.payload?.isNone) = files.length := by
  rw [List.length_eq_countP_add_countP fun file : Listed => file.payload?.isSome]
  exact congrArg _ (List.countP_congr fun file _ => by simp)

end Import

namespace StoreProvider

theorem outcome_withStore_always {σ α : Type} (store : KeyStore σ)
    (use : KeyStore σ → Action σ α) (state : σ) :
    ((always store).withStore use).outcome state = (use store).outcome state := rfl

end StoreProvider

namespace Manager

open FileTree (listed)
open Import (IsLast Provides)

variable {settings : Settings} {manager : Manager MemoryStore Unit} {tree : FileTree}
  {directory : ByteArray} {way : FileTree.Way} {entries : List (ByteArray × FileNode)}
  {m : MemoryStore}

/-- An import writes the values that the files stand for, in their order. -/
theorem outcome_loadDefaults
    (hmanager : Manager.new settings (.always MemoryStore.store) = .ok manager)
    (hway : tree.locate directory = .ok way) (hdirectory : tree.nodeAt way = .directory entries)
    (h : m.unavailable = false) :
    (manager.loadDefaults tree directory).outcome m =
      (.ok ⟨(listed entries).countP fun file => file.payload?.isSome,
          (listed entries).countP fun file => file.payload?.isNone⟩,
        { m with entries := m.entries.insertAll (Import.payloads settings (listed entries)) }) := by
  obtain rfl := eq_of_new hmanager
  have hsorted := (listed entries).mergeSort_perm FileTree.Listed.le
  rw [loadDefaults, FileTree.regularFiles_eq hway hdirectory]
  simp only
  rw [StoreProvider.outcome_withStore_always, Import.outcome_storeFiles h, hsorted.countP_eq,
    hsorted.countP_eq, Nat.zero_add, Nat.zero_add, Import.payloads]

/-- A bulk import into a store in memory reads the regular files directly in a
directory and no other entries.  It counts each of them once, as stored if its
name and its content are texts and the content is a payload.  Every key then
has the value of the last file for it in the byte order of their names, and
what no payload is for stays as it was.  The same import once more gives the
same report and changes nothing. -/
theorem loadDefaults_overwrites
    (hmanager : Manager.new settings (.always MemoryStore.store) = .ok manager)
    (hway : tree.locate directory = .ok way) (hdirectory : tree.nodeAt way = .directory entries)
    (h : m.unavailable = false) :
    ∃ report left,
      (manager.loadDefaults tree directory).outcome m = (.ok report, left) ∧
      report.stored + report.skipped = (listed entries).length ∧
      (report.stored = (listed entries).countP fun file => file.payload?.isSome) ∧
      (∀ key,
        (∃ file value, IsLast settings (listed entries) key file value ∧
          left.entries.get? key = some value) ∨
        ((∀ file ∈ listed entries, ∀ value, ¬ Provides settings file key value) ∧
          left.entries.get? key = m.entries.get? key)) ∧
      left.fetches = m.fetches ∧ left.unavailable = false ∧
      (manager.loadDefaults tree directory).outcome left = (.ok report, left) := by
  refine ⟨_, _, outcome_loadDefaults hmanager hway hdirectory h,
    Import.countP_payload (listed entries), rfl, fun key => ?_, rfl, h, ?_⟩
  · rcases Import.get?_insertAll_decodeFile settings m.entries
      (FileTree.pairwise_mergeSort_le (listed entries)) key with
      ⟨file, value, hlast, hget⟩ | ⟨hnone, hget⟩
    · exact .inl ⟨file, value, hlast.of_mergeSort, hget⟩
    · exact .inr ⟨fun file hfile => hnone file (List.mem_mergeSort.2 hfile), hget⟩
  · have hagain := outcome_loadDefaults hmanager hway hdirectory
      (m := { m with entries := m.entries.insertAll (Import.payloads settings (listed entries)) }) h
    rwa [NameMap.insertAll_insertAll] at hagain

/-- A payload with a message. -/
def motdPayload : ByteArray := "\x7b\"type\":\"string\",\"data\":\"hello\"\x7d".toUTF8

def plainMotd : FileTree.Listed := ⟨"default:motd".toUTF8, some motdPayload⟩

/-- Two files for one key, a file that is no payload, a link and a directory. -/
def mixedEntries : List (ByteArray × FileNode) :=
  [(plainMotd.name, .file motdPayload), ("broken".toUTF8, .file "hello".toUTF8),
    ("cfg:default:motd".toUTF8, .file "\x7b\"type\":\"list\",\"data\":[]\x7d".toUTF8),
    ("latest".toUTF8, .symlink "broken".toUTF8), ("older".toUTF8, .directory [])]

theorem loadDefaults_overwrites_mixedEntries :
    ∃ report left,
      (loadDefaults ⟨{}, .always MemoryStore.store⟩ ⟨.directory mixedEntries, []⟩
        "/".toUTF8).outcome {} = (.ok report, left) ∧
      report.stored = 2 ∧ report.stored + report.skipped = 3 ∧
      left.entries.get? "cfg:default:motd" = some (.string "hello") := by
  have hmanager : new {} (.always MemoryStore.store) = .ok ⟨{}, .always MemoryStore.store⟩ := rfl
  have hway : FileTree.locate ⟨.directory mixedEntries, []⟩ "/".toUTF8 = .ok [] :=
    FileTree.locate_slash rfl
  obtain ⟨report, left, hran, hall, hstored, hkeys, -⟩ :=
    loadDefaults_overwrites (m := {}) hmanager hway rfl rfl
  have hplain : plainMotd ∈ listed mixedEntries := by decide +kernel
  have hlatest : ∀ file ∈ listed mixedEntries, plainMotd.name.toList ≤ file.name.toList →
      Import.decodeFile {} file = some ("cfg:default:motd", .string "hello") := by decide +kernel
  have hprovides := Import.provides_iff.2 (hlatest plainMotd hplain (List.le_refl _))
  refine ⟨report, left, hran, ?_, hall, ?_⟩
  · rw [hstored]
    decide +kernel
  · rcases hkeys "cfg:default:motd" with ⟨file, value, hlast, hget⟩ | ⟨hnone, _⟩
    · have hdecoded := hlatest file hlast.mem (hlast.last plainMotd hplain _ hprovides)
      rw [Import.provides_iff.1 hlast.provides] at hdecoded
      cases hdecoded
      exact hget
    · exact absurd hprovides (hnone plainMotd hplain _)

end Manager

end LayeredConfig
