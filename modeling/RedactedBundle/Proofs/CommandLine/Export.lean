import RedactedBundle.Proofs.CommandLine.Job
import RedactedBundle.Proofs.Files.Write
import RedactedBundle.Proofs.Session.Effects

/-!
# Exporting a document

Where the document of a session goes: behind the output, to the clipboard or into a file. It is
rendered before anything is done with it, so an export that fails has done nothing.

## Main definitions

- `Report.copied`, `Report.saved`: what is reported of a document that was copied or saved
- `Exports`: what a run does that exports a bundle

## Main statements

- `run_printDocument`, `run_copyDocument`, `run_saveDocument`: the three ways of exporting
- `report_eq_of_exportDocument_eq_error`: an export that fails leaves the report as it is
- `exists_document_of_exportDocument_eq_saved`: what it means that a document was saved
- `exports_exportDocument`: an export goes with the one document of the session
-/

namespace RedactedBundle

/-- The report after a document was handed to the clipboard, which may refuse it. -/
def Report.copied (report : Report) (document : String) : Report :=
  let (files, taken) := report.clipboard.offer report.files document
  { output := if taken then report.output ++ "Copied to clipboard\n" else report.output
    remark := if taken then report.remark else some "clipboard unavailable"
    files
    clipboard := report.clipboard.record document }

/-- The report after the document of some snapshots was saved at a path, which left some files. -/
def Report.saved (report : Report) (size : Nat) (path : Path) (files : FileSystem) : Report :=
  { report with
    output :=
      report.output ++ ("Saved " ++ toString size ++ " files to " ++ path.display ++ "\n")
    files }

/-- What is reported of a document that was saved is never what was reported before. -/
theorem Report.saved_output_ne (report : Report) (size : Nat) (path : Path) (files : FileSystem) :
    (report.saved size path files).output ≠ report.output := by
  intro h
  have hlength := congrArg String.length h
  simp only [Report.saved, String.length_append] at hlength
  have hsaved : "Saved ".length = 6 := rfl
  omega

/-- A run that can be told to print, to copy or else to save exports the one document of a bundle in
each of these ways. With nothing staged, or if the document cannot be rendered or written, the
report stays as it is, but for a remark. -/
structure Exports [TemplateEngine] (options : DocumentOptions) (path : Path) (bundle : Bundle)
    (report : Report) (run : (stdout copy : Bool) → Except Failure Unit × Report) : Prop where
  of_isEmpty : bundle.isEmpty → ∀ stdout copy,
    run stdout copy = (.ok (), { report with remark := some "Nothing staged" })
  of_render_eq_error : ∀ failure, options.render report.files bundle = .error failure →
    ∀ stdout copy, run stdout copy = (.error failure, report)
  printed : ∀ document, options.render report.files bundle = .ok document → document ≠ "" →
    ∀ copy, run true copy = (.ok (), { report with output := report.output ++ document })
  copied : ∀ document, options.render report.files bundle = .ok document → document ≠ "" →
    run false true = (.ok (), report.copied document)
  saved : ∀ document, options.render report.files bundle = .ok document → document ≠ "" →
    ∀ written, report.files.write path (Utf8.encode document.toList) = .ok written →
      run false false = (.ok (), report.saved bundle.size path written) ∧
        written.read path = .ok (Utf8.encode document.toList)
  of_write_eq_error : ∀ document, options.render report.files bundle = .ok document →
    document ≠ "" →
      ∀ error, report.files.write path (Utf8.encode document.toList) = .error error →
        run false false = (.error (.access .document path error), report)

section Export

variable [TemplateEngine] (session : Session) (report : Report)

/-! ## The ways of exporting -/

theorem run_printDocument :
    (printDocument session).run report =
      match session.document report.files with
      | .ok document => (.ok (), { report with output := report.output ++ document })
      | .error failure => (.error failure, report) := by
  simp only [printDocument, Job.run_bind, Job.run_get, Job.run_liftExcept]
  cases session.document report.files <;> rfl

theorem run_copyDocument :
    (copyDocument session).run report =
      match session.document report.files with
      | .ok document =>
        if document = "" then (.ok (), { report with remark := some "clipboard unavailable" })
        else (.ok (), report.copied document)
      | .error failure => (.error failure, report) := by
  simp only [copyDocument, Job.run_bind, Job.run_get, Job.run_liftExcept, Session.copy_eq]
  cases session.document report.files with
  | error failure => rfl
  | ok document =>
    by_cases hempty : document = ""
    · simp [Except.map, hempty]
    · cases htaken : (report.clipboard.offer report.files document).2 <;>
        simp [Except.map, hempty, htaken, Report.copied]

theorem run_saveDocument :
    (saveDocument session).run report =
      match session.document report.files with
      | .ok document =>
        if document = "" then (.ok (), report)
        else
          match report.files.write session.outputPath (Utf8.encode document.toList) with
          | .ok files => (.ok (), report.saved session.bundle.size session.outputPath files)
          | .error error => (.error (.access .document session.outputPath error), report)
      | .error failure => (.error failure, report) := by
  simp only [saveDocument, Job.run_bind, Job.run_get, Job.run_liftExcept, Session.save_eq]
  cases session.document report.files with
  | error failure => rfl
  | ok document =>
    by_cases hempty : document = ""
    · simp [Except.bind, hempty]
    · cases hwrite : report.files.write session.outputPath (Utf8.encode document.toList) <;>
        simp [Except.bind, hempty, hwrite, Report.saved]

/-! ## All ways of exporting -/

variable {stdout copy : Bool} {failure : Failure} {document : String} {session report}

theorem run_exportDocument_of_isEmpty (h : session.bundle.isEmpty) :
    (exportDocument stdout copy session).run report =
      (.ok (), { report with remark := some "Nothing staged" }) := by
  rw [exportDocument, if_pos h]
  rfl

/-- If the document cannot be rendered, no way of exporting does anything. -/
theorem run_exportDocument_of_document_eq_error (hstaged : ¬ session.bundle.isEmpty)
    (h : session.document report.files = .error failure) :
    (exportDocument stdout copy session).run report = (.error failure, report) := by
  rw [exportDocument, if_neg hstaged]
  split
  · rw [run_printDocument, h]
  split
  · rw [run_copyDocument, h]
  · rw [run_saveDocument, h]

/-- If it is reported that a document was saved, it was that of the session. -/
theorem exists_document_of_exportDocument_eq_saved {size : Nat} {path : Path} {written : FileSystem}
    (h : (exportDocument false false session).run report =
      (.ok (), report.saved size path written)) :
    ∃ document, session.document report.files = .ok document ∧ document ≠ "" ∧
      report.files.write session.outputPath (Utf8.encode document.toList) = .ok written ∧
      ∀ next : Report, next.saved session.bundle.size session.outputPath written =
        next.saved size path written := by
  have hprinted := report.saved_output_ne size path written
  by_cases hstaged : session.bundle.isEmpty
  · rw [run_exportDocument_of_isEmpty hstaged] at h
    exact absurd (congrArg (fun result => result.2.output) h).symm hprinted
  rw [exportDocument, if_neg hstaged] at h
  change (saveDocument session).run report = _ at h
  rw [run_saveDocument] at h
  cases hdocument : session.document report.files with
  | error failure => rw [hdocument] at h; cases h
  | ok document =>
    rw [hdocument] at h
    dsimp only at h
    by_cases hblank : document = ""
    · rw [if_pos hblank] at h
      exact absurd (congrArg (fun result => result.2.output) h).symm hprinted
    rw [if_neg hblank] at h
    cases hwrite : report.files.write session.outputPath (Utf8.encode document.toList) with
    | error error => rw [hwrite] at h; cases h
    | ok files =>
      rw [hwrite] at h
      have hreport : report.saved session.bundle.size session.outputPath files =
          report.saved size path written := congrArg Prod.snd h
      obtain rfl : files = written := congrArg Report.files hreport
      refine ⟨document, rfl, hblank, hwrite, fun next => ?_⟩
      have houtput := String.append_right_inj _ |>.mp (congrArg Report.output hreport)
      rw [Report.saved, Report.saved, houtput]

/-- Exporting prints, copies or saves one document, that of the session. -/
theorem exports_exportDocument :
    Exports session.options session.outputPath session.bundle report fun stdout copy =>
      (exportDocument stdout copy session).run report where
  of_isEmpty hempty _ _ := run_exportDocument_of_isEmpty hempty
  of_render_eq_error failure hrender stdout copy := by
    refine run_exportDocument_of_document_eq_error (fun hempty => ?_) hrender
    rw [DocumentOptions.render, if_pos hempty] at hrender
    cases hrender
  printed document hrender hdocument copy := by
    have hstaged := Session.not_isEmpty_of_document_ne hrender hdocument
    have h : session.document report.files = .ok document := hrender
    simp [exportDocument, hstaged, run_printDocument, h]
  copied document hrender hdocument := by
    have hstaged := Session.not_isEmpty_of_document_ne hrender hdocument
    have h : session.document report.files = .ok document := hrender
    simp [exportDocument, hstaged, run_copyDocument, h, hdocument]
  saved document hrender hdocument written hwrite := by
    have hstaged := Session.not_isEmpty_of_document_ne hrender hdocument
    have h : session.document report.files = .ok document := hrender
    refine ⟨?_, FileSystem.read_of_write_eq_ok hwrite⟩
    simp [exportDocument, hstaged, run_saveDocument, h, hdocument, hwrite]
  of_write_eq_error document hrender hdocument error hwrite := by
    have hstaged := Session.not_isEmpty_of_document_ne hrender hdocument
    have h : session.document report.files = .ok document := hrender
    simp [exportDocument, hstaged, run_saveDocument, h, hdocument, hwrite]

end Export

end RedactedBundle
