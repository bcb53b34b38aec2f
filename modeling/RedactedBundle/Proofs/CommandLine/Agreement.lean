import RedactedBundle.Proofs.CommandLine.Job
import RedactedBundle.Proofs.CommandLine.Staging
import RedactedBundle.Proofs.Files.Resolve
import RedactedBundle.Proofs.Session.Coherence

/-!
# Redacting a file and staging it

The command for redaction looks for settings in the folder in front of a file's name, reads the
file and redacts it once. The command for bundles is given the folder, finds the file in its
listing, and hides one name after the other in a session that may have shown other files before.
Both come to the same text.

## Main statements

- `openHiding_eq_redactFile`: both commands redact a listed file alike
-/

namespace RedactedBundle

open FileName (slash)

/-- The path of a name in a folder, as it is written. -/
def Path.slashed (folder : Path) (name : String) : Path :=
  ⟨folder.bytes ++ slash :: Utf8.encode name.toList⟩

/-- The text can be the name of a file in a folder. -/
structure IsFileName (name : String) : Prop where
  ne_empty : name ≠ ""
  ne_dot : name ≠ "."
  slash_not_mem : '/' ∉ name.toList

namespace IsFileName

variable {name : String}

theorem encode_ne_nil (h : IsFileName name) : Utf8.encode name.toList ≠ [] := by
  intro hnil
  have hdecode := Utf8.decodeLossy_encode name.toList
  rw [hnil] at hdecode
  exact h.ne_empty (String.toList_inj.mp hdecode.symm)

theorem encode_ne_dot (h : IsFileName name) : Utf8.encode name.toList ≠ [FileName.dot] := by
  intro hdot
  have hdecode := Utf8.decodeLossy_encode name.toList
  rw [hdot] at hdecode
  exact h.ne_dot (String.toList_inj.mp hdecode.symm)

theorem slash_not_mem_encode (h : IsFileName name) : slash ∉ Utf8.encode name.toList :=
  fun hmem => h.slash_not_mem (Utf8.slash_mem_encode hmem)

end IsFileName

/-! ## Settings -/

/-- The settings of a file are those of the folder in front of its name. -/
theorem settingsFolder_slashed {folder : Path} {name : String} (hfolder : folder.bytes ≠ [])
    (hname : IsFileName name) : settingsFolder (folder.slashed name) = folder.trimmed := by
  have hempty : folder.trimmed.isEmpty = false := by
    simpa [Path.isEmpty] using Path.trimmed_bytes_ne_nil hfolder
  rw [settingsFolder, Path.slashed, Path.parent?_append_slash hfolder hname.slash_not_mem_encode
    hname.encode_ne_nil hname.encode_ne_dot]
  simp [hempty]

namespace Settings

variable [TomlReader] {fs : FileSystem} {settings result : Settings}

theorem fromFile_of_resolve_eq {path path' : Path} (hresolve : fs.resolve path = fs.resolve path')
    (h : fromFile fs path = .ok result) : fromFile fs path' = .ok result := by
  have hread : fs.readText path' = fs.readText path := by
    rw [FileSystem.readText, FileSystem.readText, FileSystem.read_congr hresolve]
  rw [fromFile] at h
  rw [fromFile, hread]
  -- Failures name the path, so only settings that were read carry over.
  cases htext : fs.readText path with
  | error error => rw [htext] at h; cases h
  | ok cs =>
    rw [htext] at h
    cases hsettings : ofToml? cs with
    | none => simp [hsettings] at h
    | some settings => simpa [hsettings] using h

theorem mergeFound_of_resolve_eq {path path' : Path} (hresolve : fs.resolve path = fs.resolve path')
    (h : mergeFound fs settings path = .ok result) : mergeFound fs settings path' = .ok result := by
  rw [mergeFound] at h
  rw [mergeFound, ← FileSystem.holds_congr hresolve]
  by_cases hholds : fs.holds path
  · rw [if_pos hholds] at h ⊢
    cases hfile : fromFile fs path with
    | error failure => rw [hfile] at h; cases h
    | ok found =>
      rw [hfile] at h
      rw [fromFile_of_resolve_eq hresolve hfile]
      exact h
  · rw [if_neg hholds] at h ⊢
    exact h

/-- The settings of a folder are found by its trimmed path too. -/
theorem load_trimmed {environment : Environment} {folder : Path} {named : Option Path}
    (hfolder : folder.bytes ≠ [])
    (hlength : (folderFile folder.trimmed).bytes.length < 4096 →
      (folderFile folder).bytes.length < 4096)
    (h : load fs environment folder named = .ok result) :
    load fs environment folder.trimmed named = .ok result := by
  have hresolve : fs.resolve (folderFile folder) = fs.resolve (folderFile folder.trimmed) :=
    FileSystem.resolve_join_trimmed hfolder (by decide) (by decide) (by decide) hlength
  rw [load] at h ⊢
  cases huser : userFile? environment <;> simp only [huser] at h <;>
    obtain ⟨user, hfound, h⟩ := Session.bind_eq_ok_iff.mp h <;>
    obtain ⟨merged, hmerged, h⟩ := Session.bind_eq_ok_iff.mp h <;>
    exact Session.bind_eq_ok_iff.mpr ⟨user, hfound, Session.bind_eq_ok_iff.mpr
      ⟨merged, mergeFound_of_resolve_eq hresolve hmerged, h⟩⟩

end Settings

/-! ## One file -/

variable {treeOf : String → Except Failure Node} {fs : FileSystem} {folder : Path} {name : String}
  {session : Session}

theorem folder_ne_nil_of_mem_list {child : FileName × Entry} (h : child ∈ fs.list folder) :
    folder.bytes ≠ [] := by
  intro hnil
  rw [FileSystem.list, FileSystem.resolve, Path.isEmpty, hnil] at h
  cases h

/-- A file that is listed once is read in the session as from its path. -/
theorem sourceOf_eq_readFile {file : SourceFile} {bytes : List UInt8}
    (hfolder : folder.bytes ≠ []) (htreeOf : session.treeOf = treeOf) (hname : IsFileName name)
    (hfind : session.listing.find? name = some file)
    (hpath : file.path = folder.join ⟨Utf8.encode name.toList⟩)
    (hread : fs.read (folder.slashed name) = .ok bytes) :
    session.sourceOf fs name = readFile treeOf fs (folder.slashed name) := by
  have hresolve : fs.resolve (folder.slashed name) = fs.resolve file.path := by
    rw [hpath]
    exact FileSystem.resolve_append_slash hfolder hname.slash_not_mem_encode hname.encode_ne_nil
      (FileSystem.length_lt_of_read_eq_ok hread)
  have hlisted : fs.read file.path = .ok bytes := (FileSystem.read_congr hresolve).symm.trans hread
  rw [Session.sourceOf, hfind]
  dsimp only
  rw [Session.readListed, if_pos (FileSystem.isFile_of_read_eq_ok hlisted), FileSystem.readSource,
    hlisted, readFile, FileSystem.readSource, hread, htreeOf]
  rfl

/-- The command for redaction prints the redacted file behind what was printed before, or fails and
leaves the report as it is. -/
theorem perform_redact [PatternLanguage] [TomlReader] [TemplateEngine]
    (treeOf : String → Except Failure Node) (environment : Environment) (config : Option Path)
    (file : Path) (classes methods : List String) (report : Report) :
    ((Request.redact file classes methods).perform treeOf environment config).run report =
      match redactFile treeOf report.files environment config file classes methods with
      | .ok text => (.ok (), { report with output := report.output ++ text })
      | .error failure => (.error failure, report) := by
  simp only [Request.perform, Job.run_bind, Job.run_get, Job.run_liftExcept]
  cases redactFile treeOf report.files environment config file classes methods <;> rfl

/-- A file that is listed once is shown in a session of its folder, with names hidden one after the
other, as the command for redaction prints it. It makes no difference which files the session showed
before and which names it hid in them; and what the command for bundles stages is that text. -/
theorem openHiding_eq_redactFile [PatternLanguage] [TomlReader] [TemplateEngine]
    {environment : Environment} {config : Option Path} {settings : Settings} {entry : Entry}
    {bytes : List UInt8} (hsettings : Settings.load fs environment folder config = .ok settings)
    (hsession : Session.startReading treeOf fs folder settings = .ok session)
    (hname : IsFileName name) (hentry : (Utf8.encode name.toList, entry) ∈ fs.list folder)
    (hregular : entry.size?.isSome)
    (hcount : (session.listing.files.map SourceFile.name).count name = 1)
    (hread : fs.read (folder.slashed name) = .ok bytes)
    (hlength : (Settings.folderFile (settingsFolder (folder.slashed name))).bytes.length < 4096 →
      (Settings.folderFile folder).bytes.length < 4096)
    (classes methods : List String) :
    let redacted := redactFile treeOf fs environment config (folder.slashed name) classes methods
    (∀ report : Report, report.files = fs →
      ((Request.redact (folder.slashed name) classes methods).perform treeOf environment
          config).run report =
        match redacted with
        | .ok text => (.ok (), { report with output := report.output ++ text })
        | .error failure => (.error failure, report)) ∧
      (∀ before, session.SameFolder before →
        (openHiding fs classes methods before name).map Session.shown = redacted) ∧
      (stageFolder treeOf fs environment config folder [name] classes methods).map
          (fun staged => staged.bundle.entries) =
        redacted.map fun text => if text = "" then [] else [⟨name, text⟩] := by
  intro redacted
  have hfolder := folder_ne_nil_of_mem_list hentry
  have hstart := Session.isStart_of_startReading_eq_ok hsession
  have hfind := Listing.find?_of_count_eq_one hstart.scan_eq hentry hregular hcount
  have hload : Settings.load fs environment (settingsFolder (folder.slashed name)) config =
      .ok settings := by
    rw [settingsFolder_slashed hfolder hname] at hlength ⊢
    exact Settings.load_trimmed hfolder hlength hsettings
  have hredacted : redacted = (session.sourceOf fs name).map fun source =>
      source.redact session.placeholders (.ofLists classes methods) := by
    simp only [redacted]
    rw [redactFile, hload, sourceOf_eq_readFile hfolder hstart.treeOf_eq hname hfind rfl
      hread, hstart.placeholders_eq]
    rfl
  refine ⟨?_, ?_, ?_⟩
  · rintro report rfl
    exact perform_redact ..
  · intro before hbefore
    rw [openHiding_eq (hbefore.listing_eq ▸ hfind), hbefore.sourceOf_eq, hredacted,
      ← hbefore.placeholders_eq]
    cases session.sourceOf fs name <;> rfl
  · have hstage : stageFolder treeOf fs environment config folder [name] classes methods =
        (stageHiding fs classes methods session name).bind (stageAll fs classes methods []) := by
      rw [stageFolder, hsettings, Except.bind, hsession]
      rfl
    rw [hstage, hredacted]
    cases hsource : session.sourceOf fs name with
    | error failure =>
      have hsnapshot : session.snapshotOf fs (.ofLists classes methods) name = .error failure := by
        rw [Session.snapshotOf, hsource]
        rfl
      rw [stageHiding_of_snapshotOf_eq_error hsnapshot]
      rfl
    | ok source =>
      have hsnapshot : session.snapshotOf fs (.ofLists classes methods) name =
          .ok ⟨name, source.redact session.placeholders (.ofLists classes methods)⟩ := by
        rw [Session.snapshotOf, hsource]
        rfl
      obtain ⟨next, hnext, -, hstaged⟩ := stageHiding_of_snapshotOf_eq_ok hsnapshot
      rw [hnext]
      change Except.ok next.bundle.entries = .ok _
      rw [hstaged, hstart.bundle_eq]
      by_cases hempty : source.redact session.placeholders (.ofLists classes methods) = "" <;>
        simp [hempty, Bundle.empty, Snapshot.putInto]

/-! ## Settings of their own -/

/-- A folder with one source file and with settings of its own. -/
def settledFiles : FileSystem :=
  { entries :=
      [([Utf8.encode "d".toList], .folder),
        ([Utf8.encode "d".toList, Utf8.encode "a.cs".toList],
          .file (Utf8.encode "class A \x7b void F() \x7b \x7d \x7d".toList) false),
        ([Utf8.encode "d".toList, Utf8.encode ".capsule".toList], .folder),
        ([Utf8.encode "d".toList, Utf8.encode ".capsule".toList, Utf8.encode "config.toml".toList],
          .file (Utf8.encode "[redaction]\nmethod_placeholder = \"custom\"\n".toList) false)]
    working := [] }

/-- The settings of that folder. -/
def settledSettings : Settings :=
  { Settings.builtin with placeholders := ⟨"custom", "whole class collapsed"⟩ }

/-- The listing of that folder, written with slashes and a dot at its end. -/
def settledListing : Listing :=
  { root := .ofString "d/.//"
    files := [⟨"a.cs", .ofString "d/.//a.cs", some 24⟩]
    placeholder := false }

/-- A session over that folder which showed another file and hid names in it. -/
def usedSession : Session :=
  { treeOf := plainTree
    listing := settledListing
    outputFile := settledSettings.project.outputFile
    placeholders := settledSettings.placeholders
    options := settledSettings.documentOptions
    current := none
    hidden := .ofLists ["A"] ["G"]
    bundle := Bundle.empty
    url := none }

/-- With dots and slashes behind the folder, and names left hidden by another file, the folder's
settings are found and the hidden names are those of the command. -/
theorem openHiding_eq_redactFile_settledFiles :
    (openHiding settledFiles ["B"] ["F", "F"] usedSession "a.cs").map Session.shown =
        .ok "class A \x7b void F() \x7b /* custom */ \x7d \x7d" ∧
      (stageFolder plainTree settledFiles ⟨none, none, none⟩ none (.ofString "d/.//") ["a.cs"]
          ["B"] ["F", "F"]).map (fun staged => staged.bundle.entries) =
        .ok [⟨"a.cs", "class A \x7b void F() \x7b /* custom */ \x7d \x7d"⟩] := by
  have hredacted : redactFile plainTree settledFiles ⟨none, none, none⟩ none
      ((Path.ofString "d/.//").slashed "a.cs") ["B"] ["F", "F"] =
      .ok "class A \x7b void F() \x7b /* custom */ \x7d \x7d" := by decide +kernel
  have hsettings : Settings.load settledFiles ⟨none, none, none⟩ (.ofString "d/.//") none =
      .ok settledSettings := by decide +kernel
  have hscan : Listing.scan settledFiles (.ofString "d/.//") settledSettings.project.patterns
      settledSettings.project.placeholderFile = .ok settledListing := by decide +kernel
  have hsession : Session.startReading plainTree settledFiles (.ofString "d/.//") settledSettings =
      .ok { usedSession with hidden := Hidden.empty } := by
    rw [Session.startReading, hscan]
    rfl
  have hentry : (Utf8.encode "a.cs".toList,
      Entry.file (Utf8.encode "class A \x7b void F() \x7b \x7d \x7d".toList) false) ∈
      settledFiles.list (.ofString "d/.//") := by decide +kernel
  have hread : settledFiles.read ((Path.ofString "d/.//").slashed "a.cs") =
      .ok (Utf8.encode "class A \x7b void F() \x7b \x7d \x7d".toList) := by decide +kernel
  obtain ⟨-, hshown, hstaged⟩ := openHiding_eq_redactFile hsettings hsession
    ⟨by decide, by decide, by decide⟩ hentry rfl (by decide +kernel) hread
    (fun _ => by decide +kernel) ["B"] ["F", "F"]
  rw [hredacted] at hshown hstaged
  exact ⟨hshown usedSession ⟨rfl, rfl, rfl, rfl, rfl⟩, hstaged⟩

/-- The folder of `settledFiles`, with more slashes at its end than leave room for the name of its
settings file. -/
def slashedFolder : Path := ⟨Utf8.encode "d".toList ++ List.replicate 4079 slash⟩

/-- A path that is too long leads nowhere, so the settings file of a folder can be out of reach from
the folder as it was written, but not from the file in it. -/
theorem redactFile_slashedFolder :
    (Utf8.encode "a.cs".toList,
        Entry.file (Utf8.encode "class A \x7b void F() \x7b \x7d \x7d".toList) false) ∈
      settledFiles.list slashedFolder ∧
    ((Settings.load settledFiles ⟨none, none, none⟩ slashedFolder none).bind fun settings =>
        (Session.startReading plainTree settledFiles slashedFolder settings).map fun session =>
          session.listing.files.map SourceFile.name) = .ok ["a.cs"] ∧
    redactFile plainTree settledFiles ⟨none, none, none⟩ none (slashedFolder.slashed "a.cs") []
        ["F"] = .ok "class A \x7b void F() \x7b /* custom */ \x7d \x7d" ∧
    (stageFolder plainTree settledFiles ⟨none, none, none⟩ none slashedFolder ["a.cs"] []
        ["F"]).map (fun staged => staged.bundle.entries) =
      .ok [⟨"a.cs", "class A \x7b void F() \x7b /* logic hidden */ \x7d \x7d"⟩] := by
  refine ⟨?_, ?_, ?_, ?_⟩ <;> decide +kernel

end RedactedBundle
