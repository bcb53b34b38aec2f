import RedactedBundle.Proofs.Bundle
import RedactedBundle.Proofs.CommandLine.Export
import RedactedBundle.Proofs.CommandLine.Staging
import RedactedBundle.Proofs.Document.Layout
import RedactedBundle.Proofs.Redaction.EditScript

/-!
# Bundling all files or none

The command for bundles stages the files that are asked for and then exports the document. It
comes to the export only if all the files could be read, so it either exports each of them once or
does nothing at all.

## Main statements

- `stageAll_of_sourceOf_eq_ok`: what is staged if all files can be read
- `Request.run_perform_bundle_of_snapshots`, `Request.exists_snapshots_of_run_perform_bundle`: when
  a document is saved, and which one
- `Request.report_eq_of_perform_bundle_eq_error`: a command that fails has done nothing
- `Request.perform_bundle`: what the command exports, and when it fails
-/

namespace RedactedBundle

section Stage

variable {fs : FileSystem} {classes methods names : List String} {session : Session}

/-! ## Staging the files -/

theorem mapM_snapshotOf_of_sourceOf_eq_ok {hidden : Hidden} {source : String → Source}
    (h : ∀ name ∈ names, session.sourceOf fs name = .ok (source name)) :
    names.mapM (session.snapshotOf fs hidden) =
      .ok (names.map fun name => ⟨name, (source name).redact session.placeholders hidden⟩) := by
  rw [mapM_eq_ok_iff, List.forall₂_map_right_iff, List.forall₂_same]
  intro name hname
  rw [Session.snapshotOf, h name hname]
  rfl

/-- Each file that is asked for is staged once, unless nothing of it is shown. -/
theorem stageAll_of_sourceOf_eq_ok (classes methods : List String) {source : String → Source}
    (hbundle : session.bundle = Bundle.empty)
    (h : ∀ name ∈ names, session.sourceOf fs name = .ok (source name)) :
    let redacted name := (source name).redact session.placeholders (.ofLists classes methods)
    ∃ staged, stageAll fs classes methods names session = .ok staged ∧ session.SameFolder staged ∧
      staged.bundle.entries =
        (names.filter (redacted · ≠ "")).eraseDups.map fun name => ⟨name, redacted name⟩ := by
  intro redacted
  have hsnapshots : names.mapM (session.snapshotOf fs (.ofLists classes methods)) =
      .ok (names.map fun name => ⟨name, redacted name⟩) := mapM_snapshotOf_of_sourceOf_eq_ok h
  obtain ⟨staged, hstaged, hfolder, hstagedBundle⟩ := stageAll_of_mapM_eq_ok hsnapshots
  refine ⟨staged, hstaged, hfolder, ?_⟩
  rw [hstagedBundle, hbundle, List.filter_map]
  exact Bundle.entries_ofList_map redacted _

theorem Session.SameFolder.outputPath_eq {next : Session} (h : session.SameFolder next) :
    next.outputPath = session.outputPath := by
  rw [outputPath, outputPath, h.listing_eq, h.outputFile_eq]

end Stage

/-! ## Commands -/

namespace Request

section Perform

variable [PatternLanguage] [TomlReader] [TemplateEngine]
  {treeOf : String → Except Failure Node} {environment : Environment}
  {config : Option Path} {folder : Path} {files classes methods : List String}
  {stdout copy : Bool} {report : Report}

/-- The document is exported after all files were staged. -/
theorem run_perform_bundle :
    ((bundle folder files classes methods stdout copy).perform treeOf environment config).run
        report =
      match stageFolder treeOf report.files environment config folder files classes methods with
      | .ok staged => (exportDocument stdout copy staged).run report
      | .error failure => (.error failure, report) := by
  simp only [perform, Job.run_bind, Job.run_get, Job.run_liftExcept]
  cases stageFolder treeOf report.files environment config folder files classes methods <;> rfl

/-- With its settings loaded and its files listed, a folder's files are staged. -/
theorem run_perform_bundle_of_startReading {settings : Settings} {session : Session}
    (hsettings : Settings.load report.files environment folder config = .ok settings)
    (hsession : Session.startReading treeOf report.files folder settings = .ok session) :
    ((bundle folder files classes methods stdout copy).perform treeOf environment config).run
        report =
      match stageAll report.files classes methods (session.chosenNames files) session with
      | .ok staged => (exportDocument stdout copy staged).run report
      | .error failure => (.error failure, report) := by
  rw [run_perform_bundle, stageFolder, hsettings, Except.bind, hsession]
  rfl

/-- A command that saves a document saves that of the snapshots of all files that are asked for. -/
theorem run_perform_bundle_of_snapshots {settings : Settings} {session : Session}
    {snapshots : List Snapshot} {document : String} {written : FileSystem}
    (hsettings : Settings.load report.files environment folder config = .ok settings)
    (hsession : Session.startReading treeOf report.files folder settings = .ok session)
    (hsnapshots : (session.chosenNames files).mapM
      (session.snapshotOf report.files (.ofLists classes methods)) = .ok snapshots)
    (hdocument : settings.documentOptions.render report.files
      (.ofList (snapshots.filter (·.text ≠ ""))) = .ok document)
    (hblank : document ≠ "")
    (hwrite : report.files.write session.outputPath (Utf8.encode document.toList) =
      .ok written) :
    ((bundle folder files classes methods false false).perform treeOf environment config).run
        report =
      (.ok (), report.saved (Bundle.ofList (snapshots.filter (·.text ≠ ""))).size
        session.outputPath written) := by
  have hstart := Session.isStart_of_startReading_eq_ok hsession
  obtain ⟨staged, hstaged, hfolder, hbundle⟩ := stageAll_of_mapM_eq_ok hsnapshots
  rw [hstart.bundle_eq] at hbundle
  have hrender : staged.options.render report.files staged.bundle = .ok document := by
    rw [hfolder.options_eq, hstart.options_eq, hbundle]
    exact hdocument
  rw [← hfolder.outputPath_eq] at hwrite ⊢
  rw [run_perform_bundle_of_startReading hsettings hsession, hstaged]
  refine (exports_exportDocument.saved document hrender hblank written hwrite).1.trans ?_
  rw [hbundle]
  rfl

/-- If a command reports that it saved a document, it was that of the snapshots of all files that
were asked for. -/
theorem exists_snapshots_of_run_perform_bundle {settings : Settings} {session : Session}
    {size : Nat} {path : Path} {written : FileSystem}
    (hsettings : Settings.load report.files environment folder config = .ok settings)
    (hsession : Session.startReading treeOf report.files folder settings = .ok session)
    (hrun : ((bundle folder files classes methods false false).perform treeOf environment
      config).run report = (.ok (), report.saved size path written)) :
    ∃ snapshots document, (session.chosenNames files).mapM
        (session.snapshotOf report.files (.ofLists classes methods)) = .ok snapshots ∧
      settings.documentOptions.render report.files (.ofList (snapshots.filter (·.text ≠ ""))) =
        .ok document ∧
      document ≠ "" ∧
      report.files.write session.outputPath (Utf8.encode document.toList) = .ok written ∧
      ∀ next : Report, next.saved (Bundle.ofList (snapshots.filter (·.text ≠ ""))).size
        session.outputPath written = next.saved size path written := by
  have hstart := Session.isStart_of_startReading_eq_ok hsession
  rw [run_perform_bundle_of_startReading hsettings hsession] at hrun
  cases hstaged : stageAll report.files classes methods (session.chosenNames files) session with
  | error failure => rw [hstaged] at hrun; cases hrun
  | ok staged =>
    rw [hstaged] at hrun
    obtain ⟨document, hdocument, hblank, hwrite, hsaved⟩ :=
      exists_document_of_exportDocument_eq_saved hrun
    obtain ⟨snapshots, hsnapshots, hfolder, hbundle⟩ := exists_snapshots_of_stageAll_eq_ok hstaged
    rw [hstart.bundle_eq] at hbundle
    rw [Session.document, hfolder.options_eq, hstart.options_eq, hbundle] at hdocument
    rw [hfolder.outputPath_eq] at hwrite hsaved
    rw [hbundle] at hsaved
    exact ⟨snapshots, document, hsnapshots, hdocument, hblank, hwrite, hsaved⟩

end Perform

end Request

/-! ## Files named again and files that are empty -/

/-- A folder with one source file and an empty one. -/
def pairFiles : FileSystem :=
  { entries :=
      [([Utf8.encode "d".toList], .folder),
        ([Utf8.encode "d".toList, Utf8.encode "a.cs".toList],
          .file (Utf8.encode "class A \x7b void F() \x7b \x7d \x7d".toList) false),
        ([Utf8.encode "d".toList, Utf8.encode "b.cs".toList], .file [] false)]
    working := [] }

/-- What a command finds in that folder. -/
def pairReport : Report := ⟨"> ", none, pairFiles, ⟨.memory, []⟩⟩

/-- A session over that folder. -/
def pairSession : Session :=
  { treeOf := plainTree
    listing :=
      { root := .ofString "d"
        files := [⟨"a.cs", .ofString "d/a.cs", some 24⟩, ⟨"b.cs", .ofString "d/b.cs", some 0⟩]
        placeholder := false }
    outputFile := Settings.builtin.project.outputFile
    placeholders := Settings.builtin.placeholders
    options := Settings.builtin.documentOptions
    current := none
    hidden := Hidden.empty
    bundle := Bundle.empty
    url := none }

/-- The document of that folder with the method hidden. -/
def pairDocument : String :=
  "# Project bundle for AI\n**Total files:** 1\n\n" ++
    "## File: `a.cs`\n```csharp\n" ++
    "class A \x7b void F() \x7b /* logic hidden */ \x7d \x7d\n```\n---\n"

end RedactedBundle
