import RedactedBundle.Proofs.Files.Frame
import RedactedBundle.Proofs.Settings.Keys
import RedactedBundle.Toml.Fault

/-!
# Loading layers

The settings for a folder are the built-in ones multiplied by those of each file that is there, in
the order of the files, with the environment over them. So under each key the last file counts whose
text makes a difference there. The files that may be missing are as good as files that say nothing,
and loading fails only if one of the files that are there cannot be read.

## Main definitions

- `Settings.sources`: the files that the settings for a folder are read from
- `Settings.mergeAll`: several layers merged
- `Settings.Key.ofEnvironment?`: what the environment sets for a key

## Main statements

- `Settings.load_eq`: the settings as a product of layers
- `Settings.load_eq_of_mentions_nothing`: a file that says nothing might as well be missing
- `Settings.exists_load_eq_error_iff`: when loading fails
- `Settings.get_of_load_eq_ok`: the value in effect under each key
- `Settings.layers_form_monoid`: layers can be merged in any grouping
-/

namespace RedactedBundle.Settings

/-- The settings files that are used if they are there, the user's before the folder's. -/
def discovered (env : Environment) (root : Path) : List Path :=
  (userFile? env).toList ++ [folderFile root]

/-- The files that the settings for a folder are read from, the earliest layer first. -/
def sources (fs : FileSystem) (env : Environment) (root : Path) (named : Option Path) :
    List Path :=
  (discovered env root).filter fs.holds ++ named.toList

/-- Layers merged, the earliest one first. -/
def mergeAll (layers : List Settings) : Settings := layers.foldl merge unset

theorem mergeAll_eq_prod (layers : List Settings) : mergeAll layers = layers.prod :=
  List.prod_eq_foldl.symm

/-- A text of settings that mentions none of the keys. -/
structure IsBlank [TomlReader] (cs : List Char) : Prop where
  valid : (ofToml? cs).isSome
  unwritten (key : Key) : key.written? cs = none

/-- What the environment sets for a key. -/
def Key.ofEnvironment? (env : Environment) : Key → Option Setting
  | .outputFile => env.outputFile.map .text
  | .theme => env.theme.map .text
  | _ => none

theorem get_override (settings : Settings) (env : Environment) (key : Key) :
    (settings.override env).get key = (key.ofEnvironment? env).getD (settings.get key) := by
  cases key with
  | outputFile => exact (Option.getD_map ..).symm
  | theme => exact (Option.getD_map ..).symm
  | _ => rfl

/-- The lowest layer has no own values besides the built-in ones. -/
theorem getD_own?_builtin (key : Key) : (builtin.own? key).getD key.standard = key.standard :=
  (get_eq builtin key).symm

variable {fs fs' : FileSystem} {env : Environment} {root path : Path} {named : Option Path}
  {settings : Settings} {layers : List Settings} {cs : List Char}

theorem mem_sources_iff :
    path ∈ sources fs env root named ↔
      path ∈ discovered env root ∧ fs.holds path ∨ named = some path := by
  rw [sources, List.mem_append, List.mem_filter, Option.mem_toList]

theorem get_prod_cons_builtin (layers : List Settings) (key : Key) :
    (builtin :: layers).prod.get key =
      (layers.reverse.findSome? (·.own? key)).getD key.standard := by
  rw [get_eq, own?_prod, List.reverse_cons, List.findSome?_append, List.findSome?_singleton,
    Option.getD_or, getD_own?_builtin]

section Reader

variable [TomlReader]

/-! ## One file -/

theorem fromFile_eq_ok_iff :
    fromFile fs path = .ok settings ↔
      ∃ cs, fs.readText path = .ok cs ∧ ofToml? cs = some settings := by
  rw [fromFile]
  cases fs.readText path with
  | error error => simp
  | ok cs => cases hlayer : ofToml? cs <;> simp [hlayer]

theorem exists_fromFile_eq_error_iff :
    (∃ failure, fromFile fs path = .error failure) ↔
      (∃ error, fs.readText path = .error error) ∨
        ∃ cs, fs.readText path = .ok cs ∧ ofToml? cs = none := by
  rw [fromFile]
  cases fs.readText path with
  | error error => simp
  | ok cs => cases hlayer : ofToml? cs <;> simp [hlayer]

/-- Settings with the ones in a file over them. -/
def mergeFile (fs : FileSystem) (settings : Settings) (path : Path) : Except Failure Settings :=
  (fromFile fs path).map settings.merge

theorem mergeFile_congr (h : fs'.readText path = fs.readText path) (settings : Settings) :
    mergeFile fs' settings path = mergeFile fs settings path := by
  rw [mergeFile, mergeFile, fromFile, fromFile, h]

theorem mergeFound_congr (hholds : fs'.holds path = fs.holds path)
    (htext : fs'.readText path = fs.readText path) (settings : Settings) :
    mergeFound fs' settings path = mergeFound fs settings path := by
  rw [mergeFound, mergeFound, hholds, fromFile, fromFile, htext]

theorem mergeFound_of_missing (hmissing : fs.holds path = false) (settings : Settings) :
    mergeFound fs settings path = .ok settings := by
  rw [mergeFound, hmissing]
  rfl

theorem mergeFound_of_isBlank (hread : fs.readText path = .ok cs) (hblank : IsBlank cs)
    (settings : Settings) : mergeFound fs settings path = .ok settings := by
  obtain ⟨layer, hlayer⟩ := Option.isSome_iff_exists.mp hblank.valid
  have hunset : layer = unset := eq_unset_of_written?_eq_none hlayer hblank.unwritten
  rw [mergeFound, FileSystem.holds_of_readText_eq_ok hread, if_pos rfl,
    fromFile_eq_ok_iff.mpr ⟨cs, hread, hlayer⟩, hunset]
  exact congrArg Except.ok (merge_unset settings)

/-! ## All files -/

theorem foldlM_mergeFile (paths : List Path) (settings : Settings) :
    paths.foldlM (mergeFile fs) settings =
      (paths.mapM (fromFile fs)).map fun layers => settings * layers.prod := by
  induction paths generalizing settings with
  | nil => exact congrArg Except.ok (mul_one settings).symm
  | cons path rest ih =>
    rw [List.foldlM_cons, List.mapM_cons, mergeFile]
    cases fromFile fs path with
    | error failure => rfl
    | ok layer =>
      -- What was merged so far is a factor in front of the layers to come.
      change rest.foldlM (mergeFile fs) (settings * layer) = _
      rw [ih]
      cases hrest : rest.mapM (fromFile fs) with
      | error failure => simp [bind, Except.bind, Except.map]
      | ok layers => simp [bind, Except.bind, Except.map, pure, Except.pure, mul_assoc]

theorem foldlM_mergeFound (paths : List Path) (settings : Settings) :
    paths.foldlM (mergeFound fs) settings =
      (paths.filter fs.holds).foldlM (mergeFile fs) settings := by
  induction paths generalizing settings with
  | nil => rfl
  | cons path rest ih =>
    rw [List.foldlM_cons, mergeFound]
    cases hholds : fs.holds path with
    | false =>
      rw [List.filter_cons_of_neg (by simp [hholds])]
      exact ih settings
    | true =>
      rw [List.filter_cons_of_pos hholds, List.foldlM_cons]
      exact congrArg _ (funext ih)

theorem load_eq_foldlM :
    load fs env root named = (do
      let found ← (discovered env root).foldlM (mergeFound fs) builtin
      let settings ← named.toList.foldlM (mergeFile fs) found
      pure (settings.override env)) := by
  have hone (settings : Settings) (path : Path) :
      [path].foldlM (mergeFile fs) settings = mergeFile fs settings path := bind_pure _
  rw [load, discovered, List.foldlM_append]
  cases userFile? env <;> cases named <;>
    simp only [Option.toList_none, Option.toList_some, List.foldlM_cons, List.foldlM_nil,
      bind_pure, pure_bind, bind_assoc] <;> rfl

/-- The settings are those of the files that are there, merged in their order. -/
theorem load_eq :
    load fs env root named =
      ((sources fs env root named).mapM (fromFile fs)).map fun layers =>
        (builtin :: layers).prod.override env := by
  have hfold : load fs env root named =
      (sources fs env root named).foldlM (mergeFile fs) builtin >>= fun settings =>
        pure (settings.override env) := by
    rw [load_eq_foldlM, sources, List.foldlM_append, bind_assoc, foldlM_mergeFound]
  rw [hfold, foldlM_mergeFile]
  cases (sources fs env root named).mapM (fromFile fs) with
  | error failure => rfl
  | ok layers => rfl

theorem exists_layers_of_load_eq_ok (h : load fs env root named = .ok settings) :
    ∃ layers, (sources fs env root named).mapM (fromFile fs) = .ok layers ∧
      settings = (builtin :: layers).prod.override env := by
  rw [load_eq] at h
  cases hlayers : (sources fs env root named).mapM (fromFile fs) with
  | error failure => rw [hlayers] at h; cases h
  | ok layers => rw [hlayers] at h; exact ⟨layers, rfl, (Except.ok.inj h).symm⟩

/-- Settings that were loaded are loaded from all files that have the same at the same paths. -/
theorem load_of_at?_eq (h : load fs env root named = .ok settings)
    (hsame : ∀ path, path ∈ discovered env root ∨ named = some path →
      fs'.at? path = fs.at? path) :
    load fs' env root named = .ok settings := by
  have hsources : sources fs' env root named = sources fs env root named := by
    rw [sources, sources, List.filter_congr fun path hpath =>
      FileSystem.holds_of_at?_eq (hsame path (.inl hpath))]
  obtain ⟨layers, hlayers, rfl⟩ := exists_layers_of_load_eq_ok h
  have hlayers' : (sources fs' env root named).mapM (fromFile fs') = .ok layers := by
    rw [hsources]
    refine mapM_eq_ok_of_forall_mem (fun path hpath layer hlayer => ?_) hlayers
    obtain ⟨cs, hread, hparse⟩ := fromFile_eq_ok_iff.mp hlayer
    have hpath' := (mem_sources_iff.mp hpath).imp_left And.left
    have hread' := FileSystem.readText_of_at?_eq (hsame path hpath') hread
    exact fromFile_eq_ok_iff.mpr ⟨cs, hread', hparse⟩
  rw [load_eq, hlayers']
  rfl

/-! ## The value in effect -/

/-- Files that give layers hold texts, in which the own values of the layers are written. -/
theorem exists_texts_of_mapM_eq_ok {paths : List Path}
    (h : paths.mapM (fromFile fs) = .ok layers) :
    ∃ texts, paths.mapM fs.readText = .ok texts ∧
      ∀ key : Key, layers.map (·.own? key) = texts.map key.counted? := by
  simp only [mapM_eq_ok_iff] at h ⊢
  induction h with
  | nil => exact ⟨[], .nil, fun _ => rfl⟩
  | cons hfile _ ih =>
    obtain ⟨cs, hread, hlayer⟩ := fromFile_eq_ok_iff.mp hfile
    obtain ⟨texts, htexts, hown⟩ := ih
    refine ⟨cs :: texts, .cons hread htexts, fun key => ?_⟩
    rw [List.map_cons, List.map_cons, hown, own?_of_ofToml?_eq_some hlayer]

/-- Under each key, what the environment sets comes first, then what the last of the files writes
that makes a difference, and then the built-in value. -/
theorem get_of_load_eq_ok (h : load fs env root named = .ok settings) :
    ∃ texts, (sources fs env root named).mapM fs.readText = .ok texts ∧
      ∀ key : Key, settings.get key =
        (key.ofEnvironment? env).getD
          ((texts.reverse.findSome? key.counted?).getD key.standard) := by
  obtain ⟨layers, hlayers, rfl⟩ := exists_layers_of_load_eq_ok h
  obtain ⟨texts, htexts, hown⟩ := exists_texts_of_mapM_eq_ok hlayers
  refine ⟨texts, htexts, fun key => ?_⟩
  have hlast : layers.reverse.findSome? (·.own? key) = texts.reverse.findSome? key.counted? := by
    have hmap := congrArg (fun values => values.reverse.findSome? id) (hown key)
    simpa only [← List.map_reverse, List.findSome?_map, Function.id_comp] using hmap
  rw [get_override, get_prod_cons_builtin, hlast]

end Reader

/-! ### Two layers -/

/-- Files with the user's settings and those for the folder d, either of which may be missing. -/
def layeredFiles (user folder : Option String) : FileSystem :=
  let location (names : List String) : Location := names.map fun name => Utf8.encode name.toList
  let file (names : List String) (text : String) : Location × Entry :=
    (location names, .file (Utf8.encode text.toList) false)
  { entries :=
      [(location ["h"], .folder), (location ["h", "capsule"], .folder),
        (location ["d"], .folder), (location ["d", ".capsule"], .folder)] ++
      (user.map (file ["h", "capsule", "config.toml"])).toList ++
      (folder.map (file ["d", ".capsule", "config.toml"])).toList
    working := [] }

/-- The environment of a user whose settings are below the folder h. -/
def layeredEnvironment (outputFile : Option String) : Environment :=
  ⟨some (.ofString "/h"), outputFile, none⟩

def themedText : String := "[ui]\ntheme = \"InspiredGitHub\"\n[export]\ntitle = \"Team\"\n"

/-- A text of settings that repeats two built-in values. -/
def standardText : String :=
  "[ui]\ntheme = \"base16-ocean.dark\"\n[export]\ntitle = \"Project bundle for AI\"\n"

def repeatedFiles : FileSystem := layeredFiles themedText standardText

/-- The title is the folder's, but the theme the user's. -/
def repeatedSettings : Settings := { builtin with theme := "InspiredGitHub" }

/-- The environment sets the output file and leaves the theme to the files. -/
theorem get_of_load_eq_ok_repeatedFiles :
    load repeatedFiles (layeredEnvironment "Out.md") (.ofString "d") none =
        .ok (repeatedSettings.override (layeredEnvironment "Out.md")) ∧
      ∃ texts, (sources repeatedFiles (layeredEnvironment "Out.md") (.ofString "d") none).mapM
          repeatedFiles.readText = .ok texts ∧
        ∀ key : Key, (repeatedSettings.override (layeredEnvironment "Out.md")).get key =
          (key.ofEnvironment? (layeredEnvironment "Out.md")).getD
            ((texts.reverse.findSome? key.counted?).getD key.standard) := by
  have hload : load repeatedFiles (layeredEnvironment "Out.md") (.ofString "d") none =
      .ok (repeatedSettings.override (layeredEnvironment "Out.md")) := by
    decide +kernel
  exact ⟨hload, get_of_load_eq_ok hload⟩

/-- A theme that the folder mentions last does not count, as it is the built-in one. -/
theorem not_forall_get_eq_last_written :
    ¬ ∀ (fs : FileSystem) (env : Environment) (root : Path) (named : Option Path)
      (settings : Settings) (texts : List (List Char)),
      load fs env root named = .ok settings →
        (sources fs env root named).mapM fs.readText = .ok texts →
        ∀ key : Key, settings.get key =
          (key.ofEnvironment? env).getD
            ((texts.reverse.findSome? key.written?).getD key.standard) := by
  intro h
  have hload : load repeatedFiles (layeredEnvironment none) (.ofString "d") none =
      .ok repeatedSettings := by
    decide +kernel
  have htexts : (sources repeatedFiles (layeredEnvironment none) (.ofString "d") none).mapM
      repeatedFiles.readText = .ok [themedText.toList, standardText.toList] := by
    decide +kernel
  have htheme := h _ _ _ _ _ _ hload htexts .theme
  exact absurd htheme (by decide +kernel)

/-! ## The algebra of layers -/

section Reader

variable [TomlReader]

theorem load_of_groups {groups : List (List Settings)}
    (hlayers : (sources fs env root named).mapM (fromFile fs) = .ok layers)
    (hgroups : groups.flatten = builtin :: layers) :
    load fs env root named = .ok ((mergeAll (groups.map mergeAll)).override env) := by
  have hprod : mergeAll (groups.map mergeAll) = (builtin :: layers).prod := by
    rw [mergeAll_eq_prod, ← hgroups, List.prod_flatten]
    exact congrArg (fun f => (groups.map f).prod) (funext mergeAll_eq_prod)
  rw [load_eq, hlayers, hprod]
  rfl

/-- A settings file that may be missing might as well be there and mention nothing. -/
theorem load_eq_of_isBlank (hnamed : named ≠ some path) (hmissing : fs.holds path = false)
    (hread : fs'.readText path = .ok cs) (hblank : IsBlank cs)
    (hothers : ∀ other, other ∈ discovered env root ∨ named = some other → other ≠ path →
      fs'.holds other = fs.holds other ∧ fs'.readText other = fs.readText other) :
    load fs' env root named = load fs env root named := by
  -- File by file, the settings so far are the same with and without the blank one.
  have hfound : ∀ other ∈ discovered env root, ∀ settings : Settings,
      mergeFound fs' settings other = mergeFound fs settings other := by
    intro other hother settings
    by_cases hsame : other = path
    · rw [hsame, mergeFound_of_isBlank hread hblank, mergeFound_of_missing hmissing]
    · obtain ⟨hholds, htext⟩ := hothers other (.inl hother) hsame
      exact mergeFound_congr hholds htext settings
  have hfile : ∀ other ∈ named.toList, ∀ settings : Settings,
      mergeFile fs' settings other = mergeFile fs settings other := by
    intro other hother settings
    rw [Option.mem_toList] at hother
    have hsame : other ≠ path := fun heq => hnamed (heq ▸ hother)
    exact mergeFile_congr (hothers other (.inr hother) hsame).2 settings
  rw [load_eq_foldlM, load_eq_foldlM, foldlM_congr hfound]
  exact congrArg _ (funext fun found => by rw [foldlM_congr hfile])

/-- Loading fails if a file that is there, or the one that was named, is not text or not settings,
and only then. -/
theorem exists_load_eq_error_iff :
    (∃ failure, load fs env root named = .error failure) ↔
      ∃ path, (path ∈ discovered env root ∧ fs.holds path ∨ named = some path) ∧
        ((∃ error, fs.readText path = .error error) ∨
          ∃ cs, fs.readText path = .ok cs ∧ ofToml? cs = none) := by
  have hfiles : (∃ failure, load fs env root named = .error failure) ↔
      ∃ failure, (sources fs env root named).mapM (fromFile fs) = .error failure := by
    rw [load_eq]
    cases (sources fs env root named).mapM (fromFile fs) <;> simp [Except.map]
  simp only [hfiles, exists_mapM_eq_error_iff, mem_sources_iff, exists_fromFile_eq_error_iff]

/-- Merging is associative, with the layer that mentions nothing as its unit. So layers can be
merged in any grouping, and a file that may be missing might as well be there and mention nothing;
loading fails only over a file that is there, or the one that was named. -/
theorem layers_form_monoid :
    (∀ a b c : Settings, (a.merge b).merge c = a.merge (b.merge c)) ∧
    (∀ settings : Settings, unset.merge settings = settings ∧ settings.merge unset = settings) ∧
    (∀ (fs : FileSystem) (env : Environment) (root : Path) (named : Option Path)
      (layers : List Settings) (groups : List (List Settings)),
      (sources fs env root named).mapM (fromFile fs) = .ok layers →
      groups.flatten = builtin :: layers →
      load fs env root named = .ok ((mergeAll (groups.map mergeAll)).override env)) ∧
    (∀ (fs fs' : FileSystem) (env : Environment) (root : Path) (named : Option Path) (path : Path)
      (cs : List Char),
      named ≠ some path → fs.holds path = false → fs'.readText path = .ok cs → IsBlank cs →
      (∀ other, other ∈ discovered env root ∨ named = some other → other ≠ path →
        fs'.holds other = fs.holds other ∧ fs'.readText other = fs.readText other) →
      load fs' env root named = load fs env root named) ∧
    (∀ (fs : FileSystem) (env : Environment) (root : Path) (named : Option Path),
      (∃ failure, load fs env root named = .error failure) ↔
        ∃ path, (path ∈ discovered env root ∧ fs.holds path ∨ named = some path) ∧
          ((∃ error, fs.readText path = .error error) ∨
            ∃ cs, fs.readText path = .ok cs ∧ ofToml? cs = none)) := by
  refine ⟨merge_assoc, fun settings => ⟨unset_merge settings, merge_unset settings⟩, ?_, ?_, ?_⟩
  · intro fs env root named layers groups hlayers hgroups
    exact load_of_groups hlayers hgroups
  · intro fs fs' env root named path cs hnamed hmissing hread hblank hothers
    exact load_eq_of_isBlank hnamed hmissing hread hblank hothers
  · intro fs env root named
    exact exists_load_eq_error_iff

end Reader

/-- A text of settings that is all comment. -/
def blankText : String := "# later\n"

theorem isBlank_blankText : IsBlank blankText.toList :=
  ⟨by decide +kernel, fun key => by cases key <;> decide +kernel⟩

/-- The user's file is missing or blank, and the folder's fails, or else is merged beforehand. -/
theorem layers_form_monoid_layeredFiles :
    load (layeredFiles blankText themedText) (layeredEnvironment none) (.ofString "d") none =
        load (layeredFiles none themedText) (layeredEnvironment none) (.ofString "d") none ∧
      load (layeredFiles none themedText) (layeredEnvironment none) (.ofString "d") none =
        .ok ((mergeAll ([[], [builtin, ⟨{}, .standard, ⟨"Team", none, none⟩, "InspiredGitHub"⟩]].map
          mergeAll)).override (layeredEnvironment none)) ∧
      ∃ failure, load (layeredFiles none (some "[ui]\ntheme = 1\n")) (layeredEnvironment none)
        (.ofString "d") none = .error failure := by
  obtain ⟨-, -, hgroups, hblank, hfails⟩ := layers_form_monoid
  refine ⟨?_, ?_, ?_⟩
  · refine hblank _ _ _ _ _ (.ofString "/h/capsule/config.toml") blankText.toList (by simp)
      (by decide +kernel) (by decide +kernel) isBlank_blankText ?_
    intro other hother hne
    obtain rfl : other = .ofString "d/.capsule/config.toml" := by
      have hfound : other ∈ [Path.ofString "/h/capsule/config.toml",
          .ofString "d/.capsule/config.toml"] :=
        hother.resolve_right (by simp)
      simpa [hne] using hfound
    decide +kernel
  · exact hgroups _ _ _ _ [⟨{}, .standard, ⟨"Team", none, none⟩, "InspiredGitHub"⟩] _
      (by decide +kernel) rfl
  · refine (hfails _ _ _ _).mpr ⟨.ofString "d/.capsule/config.toml", .inl ?_, .inr ?_⟩
    · decide +kernel
    · exact ⟨"[ui]\ntheme = 1\n".toList, by decide +kernel⟩

end RedactedBundle.Settings
