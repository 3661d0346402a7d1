/-
How settings are assembled from their layers.  Overrides lie on top, then what
the settings file names, then the base; every field is that of the topmost
layer that has it, and only the result has to be usable.  Options of the program
replace three fields of it.  A file that names a field under a tag is read on its
own and cannot be laid over anything.
-/
import LayeredConfig.CommandLine
import LayeredConfig.Proofs.ServerView
import LayeredConfig.Proofs.Settings.Environment
import LayeredConfig.Proofs.Settings.Layer
import LayeredConfig.Proofs.Settings.PartlyOverridden
import Mathlib.Logic.ExistsUnique

namespace LayeredConfig

open Yaml

namespace SettingsFile

/-- Is the document a mapping, with a mapping for the server settings if they
are there? -/
def isMapping (file : SettingsFile) : Bool :=
  file.document.isMapping && (file.document.get? "redis").all Value.isMapping

/-- Does the file name no field under a tag? -/
def NamesPlainly (file : SettingsFile) : Prop :=
  (∀ name ∈ Settings.fieldNames, file.document.NamesPlainly name) ∧
    ∀ inner ∈ file.document.get? "redis",
      ∀ name ∈ RedisSettings.fieldNames, inner.NamesPlainly name

instance (file : SettingsFile) : Decidable file.NamesPlainly :=
  inferInstanceAs (Decidable (_ ∧ _))

theorem ofDocument_of_load {tree : FileTree} {path : ByteArray} {file : SettingsFile}
    (h : load tree path = .ok file) : Settings.ofDocument file.document = .ok file.settings := by
  rw [load] at h
  cases hway : tree.locate path with
  | error fault =>
      rw [hway] at h
      cases h
  | ok way =>
      rw [hway] at h
      obtain ⟨content, _, h⟩ := bind_eq_ok_iff.1 h
      obtain ⟨document, _, h⟩ := bind_eq_ok_iff.1 h
      obtain ⟨settings, hsettings, h⟩ := bind_eq_ok_iff.1 h
      cases h
      exact hsettings

/-- A file can be laid over a base just if it names no field under a tag. -/
theorem applyTo_ok_iff {file : SettingsFile} {base after : Settings} (hbase : base.FitsWords)
    (hread : Settings.ofDocument file.document = .ok file.settings)
    (hmapping : file.isMapping = true) :
    file.applyTo base = .ok after ↔
      file.NamesPlainly ∧ after = base.beneath file.document file.settings := by
  obtain ⟨hdocument, hredis⟩ := Bool.and_eq_true_iff.1 hmapping
  rw [applyTo, Settings.layer, Settings.ofDocument_ok_iff]
  rw [Settings.ofDocument_ok_iff] at hread
  rw [NamesPlainly]
  have hentries := Value.eq_mapping_of_isMapping hdocument
  rw [hentries] at hread hredis ⊢
  apply Settings.ofValue?_overlay_iff hbase hread
  intro inner hinner
  rw [hinner] at hredis
  exact hredis

/-- A file that names a field under a tag cannot be laid over a base. -/
theorem applyTo_of_not_namesPlainly {file : SettingsFile} {base : Settings}
    (hbase : base.FitsWords) (hread : Settings.ofDocument file.document = .ok file.settings)
    (hmapping : file.isMapping = true) (htagged : ¬ file.NamesPlainly) :
    file.applyTo base = .error Settings.unreadableDocument := by
  apply Settings.layer_eq_error
  intro after hlaid
  exact htagged ((applyTo_ok_iff hbase hread hmapping).1 hlaid).1

end SettingsFile

/-- The base with a settings file laid over it, if there is one. -/
def Settings.beneathFile (base : Settings) (file? : Option SettingsFile) : Settings :=
  file?.elim base fun file => base.beneath file.document file.settings

namespace SettingsLoader

variable {loader : SettingsLoader} {file? : Option SettingsFile} {settings after : Settings}

/-- The value that a setting is overridden with. -/
def value? (loader : SettingsLoader) (setting : Overridable) : Option String :=
  loader.overrides.bind fun o => o.value? setting

/-- Read the settings file that the loader asks for, if there is one. -/
def readFile (loader : SettingsLoader) (tree : FileTree) (locations : List ByteArray) :
    Except Failure (Option SettingsFile) :=
  match loader.file with
  | .none => .ok none
  | .path path => some <$> SettingsFile.load tree path
  | .discover => SettingsFile.discoverIn tree locations

theorem overridden_ok_iff :
    loader.overridden settings = .ok after ↔
      Settings.OverriddenFrom loader.value? settings after := by
  rw [Settings.overriddenFrom_iff]
  cases hoverrides : loader.overrides with
  | none =>
      have hvalue : loader.value? = fun _ => none := by
        funext setting
        rw [value?, hoverrides]
        rfl
      rw [overridden, hoverrides, hvalue, Except.ok.injEq]
      constructor
      · rintro rfl
        exact ⟨nofun, rfl⟩
      · rintro ⟨_, rfl⟩
        rfl
  | some o =>
      have hvalue : loader.value? = o.value? := by
        funext setting
        rw [value?, hoverrides]
        rfl
      rw [overridden, hoverrides, hvalue, ← Overrides.outcome_apply_iff]
      dsimp only
      split
      · next left hout => simp [hout]
      · next failure left hout => simp [hout]

/-- The file of a loader that reads one was read from some path. -/
theorem load_of_readFile {tree : FileTree} {locations : List ByteArray} {file : SettingsFile}
    (h : loader.readFile tree locations = .ok (some file)) :
    ∃ path, SettingsFile.load tree path = .ok file := by
  rw [readFile] at h
  split at h
  · cases h
  · next path _ =>
      obtain ⟨_, hload, hsome⟩ := map_eq_ok_iff.1 h
      cases hsome
      exact ⟨path, hload⟩
  · rw [SettingsFile.discoverIn] at h
    split at h
    · next path _ =>
        obtain ⟨_, hload, hsome⟩ := map_eq_ok_iff.1 h
        cases hsome
        exact ⟨path, hload⟩
    · cases h

/-- The file that is read is laid over the base. -/
theorem withFile_of_readFile {tree : FileTree} {locations : List ByteArray}
    (h : loader.readFile tree locations = .ok file?) :
    loader.withFile tree locations =
      file?.elim (.ok loader.base) fun file => file.applyTo loader.base := by
  rw [readFile] at h
  rw [withFile]
  cases hsource : loader.file with
  | none =>
      rw [hsource] at h
      cases h
      rfl
  | path path =>
      rw [hsource] at h
      obtain ⟨file, hload, hsome⟩ := map_eq_ok_iff.1 h
      cases hsome
      simp only [hload]
      rfl
  | discover =>
      rw [hsource] at h
      dsimp only at h ⊢
      rw [h]
      cases file? <;> rfl

theorem load_ok_iff {tree : FileTree} {locations : List ByteArray} :
    loader.load tree locations = .ok settings ↔
      ∃ laid, loader.withFile tree locations = .ok laid ∧
        loader.overridden laid = .ok settings ∧ settings.validate = .ok () := by
  rw [load, bind_eq_ok_iff]
  apply exists_congr
  intro laid
  apply and_congr_right
  intro _
  rw [bind_eq_ok_iff]
  constructor
  · rintro ⟨result, hresult, hchecked⟩
    obtain ⟨_, hvalid, hreturn⟩ := bind_eq_ok_iff.1 hchecked
    cases hreturn
    exact ⟨hresult, hvalid⟩
  · rintro ⟨hresult, hvalid⟩
    refine ⟨settings, hresult, ?_⟩
    rw [hvalid]
    rfl

end SettingsLoader

namespace FileTree

/-- A tree with nothing but one settings file in its root. -/
def ofFile (content : String) : FileTree where
  root := .directory [("confmgr.yaml".toUTF8, .file content.toUTF8)]

theorem locate_ofFile (content : String) :
    (ofFile content).locate "confmgr.yaml".toUTF8 =
      .ok [("confmgr.yaml".toUTF8, .file content.toUTF8)] := by
  have hsplit : splitPath "confmgr.yaml".toUTF8 = ["confmgr.yaml".toUTF8] := by decide +kernel
  have hnul : "confmgr.yaml".toUTF8.toList.contains 0 = false := by decide +kernel
  have hsize : "confmgr.yaml".toUTF8.size = 12 := by decide +kernel
  have hrelative : isAbsolutePath "confmgr.yaml".toUTF8 = false := by decide +kernel
  have hdot : "confmgr.yaml".toUTF8 ≠ ".".toUTF8 := by decide +kernel
  have hdots : "confmgr.yaml".toUTF8 ≠ "..".toUTF8 := by decide +kernel
  -- the recursion of a walk is on a measure, so it is opened by its equations
  rw [locate, hnul, hsize, hrelative, hsplit]
  simp only [walk, ofFile, nodeAt, FileNode.child?, hsize, hdot, hdots, pathLimit, if_true]
  simp

end FileTree

namespace SettingsFile

/-- The settings file that `FileTree.ofFile` holds. -/
def ofText (content : String) : Except Failure SettingsFile := do
  let document ← Settings.parseDocument content
  let settings ← Settings.ofDocument document
  return ⟨["confmgr.yaml".toUTF8], settings, document⟩

theorem load_ofFile {content : String} (h : content.toUTF8.size ≤ sizeLimit) :
    load (.ofFile content) "confmgr.yaml".toUTF8 = ofText content := by
  have hcontent : contentOf (.file content.toUTF8) = .ok content := by
    rw [contentOf, if_neg (Nat.not_lt.2 h), Text.fromUTF8?_toUTF8]
  rw [load, FileTree.locate_ofFile]
  simp only [FileTree.nodeAt, hcontent]
  rfl

/-- A file is there if its text can be read and passes a check. -/
theorem exists_load_ofFile (content : String) (check : SettingsFile → Bool)
    (hsize : content.toUTF8.size ≤ sizeLimit)
    (hcheck : (ofText content).toOption.any check = true) :
    ∃ file, load (.ofFile content) "confmgr.yaml".toUTF8 = .ok file ∧ check file = true := by
  rw [load_ofFile hsize]
  cases hread : ofText content with
  | error failure =>
      rw [hread] at hcheck
      cases hcheck
  | ok file =>
      rw [hread] at hcheck
      exact ⟨file, rfl, hcheck⟩

end SettingsFile

namespace CommandLine

open Settings

/-- Options do not touch what is checked, so the settings with them in place
are as usable as those beneath. -/
theorem loadSettings_eq (options : Options) (surroundings : Surroundings) :
    loadSettings options surroundings =
      options.applyTo <$> (settingsLoader options surroundings).load surroundings.tree
        (SettingsFile.defaultLocations surroundings.configDirectory?) := by
  rw [loadSettings]
  cases hload : (settingsLoader options surroundings).load surroundings.tree
      (SettingsFile.defaultLocations surroundings.configDirectory?) with
  | error failure => rfl
  | ok settings =>
      obtain ⟨_, _, _, hvalid⟩ := SettingsLoader.load_ok_iff.1 hload
      have hstill : (options.applyTo settings).validate = .ok () := hvalid
      change (do (options.applyTo settings).validate; return options.applyTo settings) = _
      rw [hstill]
      rfl

/-- The loader beneath options: over the defaults it lays the file that is named, or
else the first one found, and over this the variables behind `CONFMGR_`. -/
structure LoaderBeneath (options : Options) (s : Surroundings) (loader : SettingsLoader) :
    Prop where
  base : loader.base = {}
  named : ∀ path, options.config = some path → loader.file = .path path
  unnamed : options.config = none → loader.file = .discover
  overrides : loader.overrides = some (.ofEnvironment "CONFMGR_" s.environment)
  value?_eq : (s.environment.map Prod.fst).Nodup → ∀ setting,
    loader.value? setting = Overrides.readable? s.environment ("CONFMGR_" ++ setting.name)

theorem loaderBeneath_settingsLoader (options : Options) (s : Surroundings) :
    LoaderBeneath options s (settingsLoader options s) where
  base := rfl
  named := by
    intro path hpath
    rw [settingsLoader, hpath]
    rfl
  unnamed := by
    intro hnone
    rw [settingsLoader, hnone]
    rfl
  overrides := rfl
  value?_eq := Overrides.value?_ofEnvironment

/-- Settings with what options give in place of three fields: the URL and the key prefix
if they are given, and the search paths if there are any.  Nothing else is changed. -/
structure Options.Replace (options : Options) (below settings : Settings) : Prop where
  url : Settled options.redisUrl (fun given text => text = given)
    below.redis.url settings.redis.url
  keyPrefix : Settled options.keyPrefix (fun given text => text = given)
    below.keyPrefix settings.keyPrefix
  keyPaths : options.keyPaths ≠ [] → settings.keyPaths = options.keyPaths
  noKeyPaths : options.keyPaths = [] → settings.keyPaths = below.keyPaths
  others : settings = { below with
    redis := { below.redis with url := settings.redis.url }
    keyPrefix := settings.keyPrefix
    keyPaths := settings.keyPaths }

theorem Options.replace_iff {options : Options} {below settings : Settings} :
    options.Replace below settings ↔ settings = options.applyTo below := by
  constructor
  · intro h
    have hpaths : settings.keyPaths =
        if options.keyPaths.isEmpty then below.keyPaths else options.keyPaths := by
      split
      · next hempty => exact h.noKeyPaths (List.isEmpty_iff.1 hempty)
      · next hsome => exact h.keyPaths (by simpa using hsome)
    rw [h.others, settled_text_iff.1 h.url, settled_text_iff.1 h.keyPrefix, hpaths]
    rfl
  · rintro rfl
    exact ⟨settled_text_iff.2 rfl, settled_text_iff.2 rfl, fun hsome => by simp [applyTo, hsome],
      fun hnone => by simp [applyTo, hnone], rfl⟩

end CommandLine

namespace SettingsLoader

open Overridable Settings

variable {loader : SettingsLoader} {file? : Option SettingsFile}

/-- The base with the file laid over it, when that can be done. -/
theorem withFile_ok_iff {tree : FileTree} {locations : List ByteArray} {laid : Settings}
    (hbase : loader.base.FitsWords) (hread : loader.readFile tree locations = .ok file?)
    (hmapping : ∀ file, file? = some file → file.isMapping = true) :
    loader.withFile tree locations = .ok laid ↔
      (∀ file, file? = some file → file.NamesPlainly) ∧ laid = loader.base.beneathFile file? := by
  rw [withFile_of_readFile hread]
  cases file? with
  | none => simp [beneathFile, eq_comm]
  | some file =>
      obtain ⟨path, hload⟩ := load_of_readFile hread
      have hlay : file.applyTo loader.base = .ok laid ↔
          file.NamesPlainly ∧ laid = loader.base.beneath file.document file.settings :=
        SettingsFile.applyTo_ok_iff hbase (SettingsFile.ofDocument_of_load hload)
          (hmapping file rfl)
      simpa [beneathFile] using hlay

/-- Loading goes through just if the file names no field under a tag, all
numbers among the overrides can be read and the merged settings can be used.
These are determined then: each field is what its override gives, or else what the
file sets it to, or else that of the base.  The program fails as the loader beneath
its options does, and otherwise returns the same settings with three fields replaced
by options. -/
theorem load_assembles_layers (loader : SettingsLoader) (tree : FileTree)
    (locations : List ByteArray) (options : CommandLine.Options)
    (s : CommandLine.Surroundings) :
    (∀ file?, loader.base.FitsWords → loader.readFile tree locations = .ok file? →
      (∀ file, file? = some file → file.isMapping = true) →
      ((∀ setting raw, setting.isNumber = true → loader.value? setting = some raw →
          ∃ n, Gives raw n) →
        ∃! merged, OverriddenFrom loader.value? (loader.base.beneathFile file?) merged) ∧
      ∀ settings, loader.load tree locations = .ok settings ↔
        ((∀ file, file? = some file → file.NamesPlainly) ∧
          (∀ setting raw, setting.isNumber = true → loader.value? setting = some raw →
            ∃ n, Gives raw n) ∧
          settings.validate = .ok ()) ∧
        OverriddenFrom loader.value? (loader.base.beneathFile file?) settings) ∧
    ∃ beneath, CommandLine.LoaderBeneath options s beneath ∧
      (∀ failure, CommandLine.loadSettings options s = .error failure ↔
        beneath.load s.tree (SettingsFile.defaultLocations s.configDirectory?) =
          .error failure) ∧
      ∀ settings, CommandLine.loadSettings options s = .ok settings ↔
        ∃ below, beneath.load s.tree (SettingsFile.defaultLocations s.configDirectory?) =
            .ok below ∧ options.Replace below settings := by
  constructor
  · intro file? hbase hread hmapping
    constructor
    · intro hnumbers
      refine ⟨_, overriddenFrom_iff.2 ⟨numbersReadable_iff_gives.2 hnumbers, rfl⟩, ?_⟩
      intro other hother
      exact (overriddenFrom_iff.1 hother).2
    · intro settings
      simp only [load_ok_iff, withFile_ok_iff hbase hread hmapping, overridden_ok_iff]
      constructor
      · rintro ⟨_, ⟨hplain, rfl⟩, hmerged, hvalid⟩
        have hnumbers := numbersReadable_iff_gives.1 (overriddenFrom_iff.1 hmerged).1
        exact ⟨⟨hplain, hnumbers, hvalid⟩, hmerged⟩
      · rintro ⟨⟨hplain, _, hvalid⟩, hmerged⟩
        exact ⟨_, ⟨hplain, rfl⟩, hmerged, hvalid⟩
  · refine ⟨_, CommandLine.loaderBeneath_settingsLoader options s, ?_, ?_⟩
    · intro failure
      rw [CommandLine.loadSettings_eq, ← bind_pure_comp, bind_pure_eq_error_iff]
    · intro settings
      rw [CommandLine.loadSettings_eq, map_eq_ok_iff]
      simp only [CommandLine.Options.replace_iff, eq_comm]

/-- A base that cannot be used on its own, beneath a file and overrides. -/
def stacked : SettingsLoader where
  base := { keyPrefix := "base:", hdrPrefix := "x-", maxSubstitutionDepth := 0 }
  file := .path "confmgr.yaml".toUTF8
  overrides := some (.ofValues (.ofList [("KEY_PATHS", " a ,, b"), ("REDIS_MAX_IDLE", "3")]))

def stackedText : String :=
  "max_substitution_depth: 4\nkey_prefix: 'file:'\nredis:\n  wait: false\n"

/-- The same file and overrides around the program, and a variable without the prefix. -/
def stackedSurroundings : CommandLine.Surroundings where
  tree := .ofFile stackedText
  environment := [("KEY_PREFIX".toUTF8, "env:".toUTF8),
    ("CONFMGR_KEY_PATHS".toUTF8, " a ,, b".toUTF8), ("CONFMGR_REDIS_MAX_IDLE".toUTF8, "3".toUTF8)]

def stackedValue? (setting : Overridable) : Option String :=
  Overrides.readable? stackedSurroundings.environment ("CONFMGR_" ++ setting.name)

/-- Options that name the file, and give a URL, a key prefix and search paths. -/
def stackedOptions (keyPaths : List String) : CommandLine.Options where
  config := some "confmgr.yaml".toUTF8
  redisUrl := some "redis://option"
  keyPrefix := some "option:"
  keyPaths := keyPaths

/-- What the program has beneath these options. -/
def beneathOptions : Settings where
  keyPaths := ["a", "b"]
  keyPrefix := "file:"
  maxSubstitutionDepth := 4
  redis := { maxIdle := 3, wait := false }

/-- The file repairs the base, the overrides lie over the file, and what only
the base has stays.  Over the defaults the program puts its options on top of that. -/
theorem load_assembles_layers_stacked :
    stacked.load (.ofFile stackedText) [] = .ok { beneathOptions with hdrPrefix := "x-" } ∧
      CommandLine.loadSettings (stackedOptions []) stackedSurroundings =
        .ok { keyPaths := ["a", "b"], keyPrefix := "option:", maxSubstitutionDepth := 4
              redis := { url := "redis://option", maxIdle := 3, wait := false } } ∧
      CommandLine.loadSettings (stackedOptions ["c"]) stackedSurroundings =
        .ok { keyPaths := ["c"], keyPrefix := "option:", maxSubstitutionDepth := 4
              redis := { url := "redis://option", maxIdle := 3, wait := false } } := by
  obtain ⟨file, hfile, hcheck⟩ := SettingsFile.exists_load_ofFile stackedText
    (fun file => file.isMapping && decide (file.NamesPlainly ∧
      (stacked.base.beneathFile (some file)).overriddenBy stacked.value? =
        { beneathOptions with hdrPrefix := "x-" } ∧
      (beneathFile {} (some file)).overriddenBy stackedValue? = beneathOptions))
    (by decide +kernel) (by decide +kernel)
  obtain ⟨hmapping, hdecided⟩ := Bool.and_eq_true_iff.1 hcheck
  obtain ⟨hplain, hstacked, hbeneath⟩ := of_decide_eq_true hdecided
  have hload : ∀ (loader : SettingsLoader) (tree : FileTree) (locations : List ByteArray),
      loader.base.FitsWords → loader.readFile tree locations = .ok (some file) →
      NumbersReadable loader.value? →
      ((loader.base.beneathFile (some file)).overriddenBy loader.value?).validate = .ok () →
      loader.load tree locations =
        .ok ((loader.base.beneathFile (some file)).overriddenBy loader.value?) := by
    intro loader tree locations hbase hread hnumbers hvalid
    obtain ⟨-, hok⟩ := (load_assembles_layers loader tree locations {} stackedSurroundings).1
      (some file) hbase hread (by rintro _ ⟨⟩; exact hmapping)
    exact (hok _).2 ⟨⟨by rintro _ ⟨⟩; exact hplain, numbersReadable_iff_gives.1 hnumbers, hvalid⟩,
      overriddenFrom_iff.2 ⟨hnumbers, rfl⟩⟩
  have hprogram : ∀ keyPaths, CommandLine.loadSettings (stackedOptions keyPaths)
      stackedSurroundings = .ok ((stackedOptions keyPaths).applyTo beneathOptions) := by
    intro keyPaths
    obtain ⟨loader, hloader, -, hok⟩ :=
      (load_assembles_layers stacked {} [] (stackedOptions keyPaths) stackedSurroundings).2
    have hvalue : loader.value? = stackedValue? := by
      funext setting
      exact hloader.value?_eq (by decide +kernel) setting
    have hread : loader.readFile stackedSurroundings.tree
        (SettingsFile.defaultLocations stackedSurroundings.configDirectory?) = .ok (some file) := by
      rw [readFile, hloader.named _ rfl]
      exact map_eq_ok_iff.2 ⟨file, hfile, rfl⟩
    have hbelow := hload loader _ _ (by rw [hloader.base]; exact default_fitsWords) hread
    rw [hloader.base, hvalue, hbeneath] at hbelow
    exact (hok _).2 ⟨beneathOptions, hbelow (by decide +kernel) rfl,
      CommandLine.Options.replace_iff.2 rfl⟩
  refine ⟨?_, hprogram [], hprogram ["c"]⟩
  have hbase : stacked.base.FitsWords := ⟨by decide, RedisSettings.default_fitsWords⟩
  have hread : stacked.readFile (.ofFile stackedText) [] = .ok (some file) :=
    map_eq_ok_iff.2 ⟨file, hfile, rfl⟩
  have hmerged := hload stacked _ _ hbase hread (by decide +kernel)
  rw [hstacked] at hmerged
  exact hmerged rfl

/-- The defaults beneath a file. -/
def overDefaults : SettingsLoader where
  file := .path "confmgr.yaml".toUTF8

def taggedText : String := "!t max_substitution_depth: 4\n"

/-- A tagged name is read as the name of the field when the file is read, but it
is not found below when the file is laid over the base.  The result has the
field twice, and loading fails although nothing in the settings is wrong. -/
theorem load_fails_for_tagged_name :
    ∃ file, SettingsFile.load (.ofFile taggedText) "confmgr.yaml".toUTF8 = .ok file ∧
      file.isMapping = true ∧
      (∀ setting raw, setting.isNumber = true → overDefaults.value? setting = some raw →
        ∃ n, Gives raw n) ∧
      OverriddenFrom overDefaults.value? (overDefaults.base.beneathFile (some file))
        { maxSubstitutionDepth := 4 } ∧
      ({ maxSubstitutionDepth := 4 } : Settings).validate = .ok () ∧
      overDefaults.load (.ofFile taggedText) [] = .error Settings.unreadableDocument := by
  obtain ⟨file, hload, hcheck⟩ := SettingsFile.exists_load_ofFile taggedText
    (fun file => file.isMapping && decide (¬ file.NamesPlainly ∧
      (overDefaults.base.beneathFile (some file)).overriddenBy overDefaults.value? =
        { maxSubstitutionDepth := 4 }))
    (by decide +kernel) (by decide +kernel)
  obtain ⟨hmapping, hdecided⟩ := Bool.and_eq_true_iff.1 hcheck
  obtain ⟨htagged, hmerged⟩ := of_decide_eq_true hdecided
  have hread : overDefaults.readFile (.ofFile taggedText) [] = .ok (some file) :=
    map_eq_ok_iff.2 ⟨file, hload, rfl⟩
  have hlaid := SettingsFile.applyTo_of_not_namesPlainly default_fitsWords
    (SettingsFile.ofDocument_of_load hload) hmapping htagged
  -- `nofun`: there are no overrides, so no number among them is unreadable
  refine ⟨file, hload, hmapping, nofun, overriddenFrom_iff.2 ⟨nofun, hmerged.symm⟩, rfl, ?_⟩
  have hbase : overDefaults.base = {} := rfl
  rw [load, withFile_of_readFile hread, Option.elim_some, hbase, hlaid]
  rfl

end SettingsLoader

end LayeredConfig
