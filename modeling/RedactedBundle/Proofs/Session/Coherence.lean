import RedactedBundle.Proofs.Redaction.EditScript
import RedactedBundle.Proofs.Session.Run

/-!
# What a session shows stays in step with what it hides

The text that is shown, the hidden names and the outline are separate fields of a session, which
its operations set one by one. Through a whole run, with operations that succeed or fail and with
files changed from outside in between, the text that is shown is the source of the open file under
the names hidden now, and the outline is that of the source. A file that was opened just now is
shown as it was read.

## Main definitions

- `OpenFile.InStep`: an open file shows its source under some hidden names
- `Session.Coherent`: the open file of a session, if any, is in step with it

## Main statements

- `Workplace.coherent_after`: a run keeps a session coherent
- `Workplace.inStep_after`: any run from the start of a session leads to one that shows what it
  ought to, and so does a file that is opened next
-/

namespace RedactedBundle

/-- An open file of a listed folder shows its source under some hidden names. -/
structure OpenFile.InStep (file : OpenFile) (listing : Listing) (placeholders : Placeholders)
    (hidden : Hidden) : Prop where
  shown_eq : file.shown = file.source.redact placeholders hidden
  outline_eq : file.outline = file.source.outline
  exists_listed : ∃ entry ∈ listing.files, entry.name = file.name

/-- Redacting the source of an open file that is in step does not fail but gives what is shown. -/
theorem OpenFile.InStep.redact?_eq {file : OpenFile} {listing : Listing}
    {placeholders : Placeholders} {hidden : Hidden}
    (h : file.InStep listing placeholders hidden) (hsource : file.source.WellFormed) :
    file.source.redact? placeholders hidden = some file.shown := by
  rw [h.shown_eq]
  exact hsource.redact?_eq_some_redact placeholders hidden

namespace Session

/-- The open file of a session, if any, is in step with its hidden names. -/
def Coherent (session : Session) : Prop :=
  ∀ file, session.current = some file →
    file.InStep session.listing session.placeholders session.hidden

theorem coherent_of_current_eq_none {session : Session} (h : session.current = none) :
    session.Coherent := by
  intro file hfile
  rw [h] at hfile
  cases hfile

/-- A listed file that is opened is in step with nothing hidden. -/
theorem inStep_opened {session : Session} {file : SourceFile} (source : Source)
    (h : file ∈ session.listing.files) :
    (session.opened file source).InStep session.listing session.placeholders Hidden.empty where
  shown_eq := rfl
  outline_eq := rfl
  exists_listed := ⟨file, h, rfl⟩

/-- Showing the open file anew under other hidden names gets it in step with these. -/
theorem Coherent.withHidden {session : Session} (h : session.Coherent) (hidden : Hidden) :
    (session.withHidden hidden).Coherent := by
  intro file hfile
  obtain ⟨old, hold, rfl⟩ := Option.map_eq_some_iff.mp hfile
  have hstep := h old hold
  exact
    { shown_eq := rfl
      outline_eq := hstep.outline_eq
      exists_listed := hstep.exists_listed }

/-- Whatever an operation does to a coherent session leaves it coherent. -/
theorem Coherent.change {fs : FileSystem} {session session' : Session} (h : session.Coherent)
    (hchange : Change fs session session') : session'.Coherent := by
  cases hchange with
  | none => exact h
  | opened listed reads parses =>
    intro file hfile
    cases hfile
    exact inStep_opened _ listed
  | hidden hidden => exact h.withHidden hidden
  -- Neither the snapshots nor the address have a part in what is shown.
  | staged file current shown => exact h
  | url url => exact h

/-- A session starts with no open file and with the comments of its settings. -/
theorem of_startReading_eq_ok [PatternLanguage] {treeOf : String → Except Failure Node}
    {fs : FileSystem} {root : Path} {settings : Settings} {session : Session}
    (h : startReading treeOf fs root settings = .ok session) :
    session.treeOf = treeOf ∧ session.placeholders = settings.placeholders ∧
      session.current = none := by
  have hstart := isStart_of_startReading_eq_ok h
  exact ⟨hstart.treeOf_eq, hstart.placeholders_eq, hstart.current_eq⟩

end Session

namespace Workplace

/-- A run keeps a session coherent, whichever of its operations fail and however the files change
in between. -/
theorem coherent_after [TemplateEngine] {place : Workplace} (h : place.session.Coherent)
    (events : List Event) :
    (place.after events).session.Coherent := by
  refine after_induction (P := fun now => now.session.Coherent) ?_ h events
  intro now event hnow
  cases event with
  | operation op => exact hnow.change (now.change_run op)
  | outside files clipboard => exact hnow

/-- The operation that opens a file responds with the file that is open then. -/
theorem run_openFile_of_eq_ok [TemplateEngine] {place : Workplace} {name : String}
    {session : Session} (h : place.session.openFile place.files name = .ok session) :
    ∃ file, session.current = some file ∧
      place.run (.openFile name) = ({ place with session }, .ok (.opened file)) := by
  obtain ⟨entry, text, tree, _, _, _, hsession⟩ := Session.openFile_eq_ok_iff.mp h
  refine ⟨place.session.opened entry (Source.ofNode text tree), by rw [hsession], ?_⟩
  rw [run, h]
  simp only [hsession, Session.ifOpen]

/-- If the operation that opens a file succeeds, then so does opening it in the session. -/
theorem exists_openFile_of_run_eq_ok [TemplateEngine] {place : Workplace} {name : String}
    {response : Response} (h : (place.run (.openFile name)).2 = .ok response) :
    ∃ session, place.session.openFile place.files name = .ok session := by
  cases hopen : place.session.openFile place.files name with
  | ok session => exact ⟨session, rfl⟩
  | error failure =>
    rw [run, hopen] at h
    cases h

/-- After any run from the start of a session, an open file shows its source under the names hidden
now, has the outline of that source and is listed. A file can be opened then if it is listed, can be
read, and its text can be read as a tree; nothing is hidden afterwards, and what is shown is the
text just read, or the stand-in for a missing file. -/
theorem inStep_after [PatternLanguage] [TemplateEngine] {treeOf : String → Except Failure Node}
    {fs : FileSystem} {root : Path} {settings : Settings} {session : Session}
    (h : Session.startReading treeOf fs root settings = .ok session) (files : FileSystem)
    (clipboard : Clipboard) (events : List Event) :
    let place := after ⟨session, files, clipboard⟩ events
    (∀ file, place.session.current = some file →
      file.InStep session.listing settings.placeholders place.session.hidden ∧
        (file.source.WellFormed →
          file.source.redact? settings.placeholders place.session.hidden = some file.shown)) ∧
      (∀ name, (∃ response, (place.run (.openFile name)).2 = .ok response) ↔
        ∃ entry text tree, session.listing.find? name = some entry ∧
          Session.ReadsAs place.files entry text ∧ treeOf text = .ok tree) ∧
      ∀ name response, (place.run (.openFile name)).2 = .ok response →
        ∃ file entry text tree, response = .opened file ∧
          (place.run (.openFile name)).1.session.current = some file ∧
          (place.run (.openFile name)).1.session.hidden = Hidden.empty ∧
          session.listing.find? name = some entry ∧
          Session.ReadsAs place.files entry text ∧
          treeOf text = .ok tree ∧ file.source = Source.ofNode text tree ∧
          (file.source.WellFormed → file.shown = text) := by
  intro place
  obtain ⟨htreeOf, hplaceholders, hcurrent⟩ := Session.of_startReading_eq_ok h
  have hfolder : session.SameFolder place.session :=
    sameFolder_after ⟨session, files, clipboard⟩ events
  have hcoherent : place.session.Coherent := by
    refine coherent_after ?_ events
    exact Session.coherent_of_current_eq_none hcurrent
  rw [← hplaceholders, ← htreeOf, ← hfolder.listing_eq, ← hfolder.placeholders_eq,
    ← hfolder.treeOf_eq]
  refine ⟨?_, ?_, ?_⟩
  · intro file hfile
    have hstep := hcoherent file hfile
    exact ⟨hstep, hstep.redact?_eq⟩
  · intro name
    constructor
    · rintro ⟨response, hresponse⟩
      obtain ⟨opened, hopen⟩ := exists_openFile_of_run_eq_ok hresponse
      obtain ⟨entry, text, tree, hfind, hreads, hparses, _⟩ := Session.openFile_eq_ok_iff.mp hopen
      exact ⟨entry, text, tree, hfind, hreads, hparses⟩
    · rintro ⟨entry, text, tree, hfind, hreads, hparses⟩
      have hopen := Session.openFile_eq_ok_iff.mpr ⟨entry, text, tree, hfind, hreads, hparses, rfl⟩
      obtain ⟨file, _, hrun⟩ := run_openFile_of_eq_ok hopen
      exact ⟨.opened file, by rw [hrun]⟩
  · intro name response hresponse
    obtain ⟨opened, hopen⟩ := exists_openFile_of_run_eq_ok hresponse
    obtain ⟨file, hfile, hrun⟩ := run_openFile_of_eq_ok hopen
    obtain ⟨entry, text, tree, hfind, hreads, hparses, rfl⟩ := Session.openFile_eq_ok_iff.mp hopen
    rw [hrun] at hresponse ⊢
    cases hresponse
    cases hfile
    refine ⟨_, entry, text, tree, rfl, rfl, rfl, hfind, hreads, hparses, rfl, fun hsource => ?_⟩
    have hredact := hsource.redact?_eq_some_redact place.session.placeholders Hidden.empty
    rw [hsource.redact?_empty] at hredact
    exact (Option.some.inj hredact).symm

/-- A session over a folder that is missing. -/
def sampleSession : Session :=
  { treeOf := fun text => .ok (Node.ofText text)
    listing := .missing (.ofString "/p") "FakeFile.cs"
    outputFile := Settings.unset.project.outputFile
    placeholders := .standard
    options := Settings.unset.documentOptions
    current := none
    hidden := Hidden.empty
    bundle := Bundle.empty
    url := none }

/-- Files with a folder in which there is one source file. -/
def sampleFiles : FileSystem :=
  { entries :=
      [([Utf8.encode "p".toList], .folder),
        ([Utf8.encode "p".toList, Utf8.encode "FakeFile.cs".toList],
          .file (Utf8.encode "class A \x7b void F() \x7b \x7d \x7d".toList) false)]
    working := [] }

/-- The folder is made while the session runs; its file is opened and a method of it is hidden. -/
def sampleEvents : List Event :=
  [.outside sampleFiles default, .operation (.openFile "FakeFile.cs"),
    .operation (.setMethod "F" true)]

/-- A file that came to be only during the run is shown redacted, and as it is once it is opened
anew. -/
theorem inStep_after_sampleEvents :
    let place := after ⟨sampleSession, ⟨[], []⟩, default⟩ sampleEvents
    Session.startReading sampleSession.treeOf ⟨[], []⟩ (.ofString "/p") Settings.unset =
        .ok sampleSession ∧
      (∃ file, place.session.current = some file ∧
        file.shown = "class A \x7b void F() \x7b /* logic hidden */ \x7d \x7d" ∧
        file.InStep sampleSession.listing .standard place.session.hidden) ∧
      ∃ file, (place.run (.openFile "FakeFile.cs")).1.session.current = some file ∧
        (place.run (.openFile "FakeFile.cs")).1.session.hidden = Hidden.empty ∧
        file.shown = "class A \x7b void F() \x7b \x7d \x7d" := by
  intro place
  have hstart : Session.startReading sampleSession.treeOf ⟨[], []⟩ (.ofString "/p") Settings.unset =
      .ok sampleSession := rfl
  obtain ⟨hstep, _, hopen⟩ := inStep_after hstart ⟨[], []⟩ default sampleEvents
  refine ⟨hstart, ?_, ?_⟩
  · have hshown : place.session.current.map OpenFile.shown =
        some "class A \x7b void F() \x7b /* logic hidden */ \x7d \x7d" := by decide +kernel
    obtain ⟨file, hfile, hshown⟩ := Option.map_eq_some_iff.mp hshown
    exact ⟨file, hfile, hshown, (hstep file hfile).1⟩
  · have hsucceeds : (place.run (.openFile "FakeFile.cs")).2.isOk = true := by decide +kernel
    have hshown : (place.run (.openFile "FakeFile.cs")).1.session.current.map OpenFile.shown =
        some "class A \x7b void F() \x7b \x7d \x7d" := by decide +kernel
    cases hresponse : (place.run (.openFile "FakeFile.cs")).2 with
    | error failure =>
      rw [hresponse] at hsucceeds
      cases hsucceeds
    | ok response =>
      obtain ⟨file, _, _, _, _, hfile, hhidden, _⟩ := hopen "FakeFile.cs" response hresponse
      rw [hfile] at hshown
      exact ⟨file, hfile, hhidden, Option.some.inj hshown⟩

end Workplace

end RedactedBundle
