import RedactedBundle.Proofs.Bundle
import RedactedBundle.Proofs.Files.Write
import RedactedBundle.Proofs.Session.Run

/-!
# What operations reach

Most of what is done in a session changes only what is shown. What outlasts it is what is staged,
the remembered address, the files and the clipboard, and for each of these there is one operation
that changes it. A clipboard of the system may run programs over the files.

## Main definitions

- `Workplace.Effect`: what an operation changes of these
- `Workplace.Stages`, `Workplace.Saves`, `Workplace.Copies`: the changes that three of them make

## Main statements

- `Workplace.effect_run`: each operation has one of these effects
- `Workplace.Effect.bundle`, `Workplace.Effect.files`, `Workplace.Effect.clipboard`,
  `Workplace.Effect.url`: which operation changes what
-/

namespace RedactedBundle

namespace Session

variable [TemplateEngine] {session : Session} {fs : FileSystem}

theorem save_eq (session : Session) (fs : FileSystem) :
    session.save fs = (session.document fs).bind fun document =>
      if document = "" then .ok none
      else
        match fs.write session.outputPath (Utf8.encode document.toList) with
        | .ok files => .ok (some files)
        | .error error => .error (.access .document session.outputPath error) := rfl

theorem copy_eq (session : Session) (fs : FileSystem) (clipboard : Clipboard) :
    session.copy fs clipboard = (session.document fs).map fun document =>
      if document = "" then ⟨.nothingStaged, clipboard, fs⟩
      else
        let (files, taken) := clipboard.offer fs document
        ⟨if taken then .copied else .unavailable, clipboard.record document, files⟩ := rfl

/-- Without anything staged there is nothing in the document. -/
theorem not_isEmpty_of_document_ne {document : String}
    (h : session.document fs = .ok document) (hdocument : document ≠ "") :
    ¬ session.bundle.isEmpty := by
  intro hempty
  rw [Session.document, DocumentOptions.render, if_pos hempty] at h
  exact hdocument (Except.ok.inj h).symm

end Session

/-- A clipboard that keeps or refuses each text leaves the files alone. -/
theorem Clipboard.exists_sink_of_offer_ne {clipboard : Clipboard} {fs : FileSystem}
    {text : String} (h : (clipboard.offer fs text).1 ≠ fs) :
    ∃ sink, clipboard.kind = .system sink := by
  rw [offer] at h
  cases hkind : clipboard.kind with
  | memory =>
    rw [hkind] at h
    exact absurd rfl h
  | refusing =>
    rw [hkind] at h
    exact absurd rfl h
  | system sink => exact ⟨sink, rfl⟩

namespace Workplace

variable [TemplateEngine]

/-- What an operation changes besides what is shown and hidden. -/
inductive Effect (place : Workplace) : Operation → Workplace → Prop where
  | none {op : Operation} {session : Session}
    (bundle : session.bundle = place.session.bundle) (url : session.url = place.session.url) :
    Effect place op { place with session }
  | staged {file : OpenFile} (current : place.session.current = some file)
    (shown : file.shown ≠ "") :
    Effect place .stage { place with
      session := { place.session with
        bundle := place.session.bundle.stage ⟨file.name, file.shown⟩ } }
  | saved {document : String} {files : FileSystem}
    (renders : place.session.document place.files = .ok document) (given : document ≠ "")
    (writes : place.files.write place.session.outputPath (Utf8.encode document.toList) =
      .ok files) :
    Effect place .save { place with files }
  | copied {document : String} (renders : place.session.document place.files = .ok document)
    (given : document ≠ "") :
    Effect place .copy { place with
      files := (place.clipboard.offer place.files document).1
      clipboard := place.clipboard.record document }
  | urlSet (url : String) :
    Effect place (.setUrl url) { place with session := place.session.setUrl url }

theorem effect_save (place : Workplace) : place.Effect .save (place.run .save).1 := by
  rw [run, Session.save_eq]
  cases hdocument : place.session.document place.files with
  | error failure => exact .none rfl rfl
  | ok document =>
    by_cases hempty : document = ""
    · simp only [Except.bind, if_pos hempty]
      exact .none rfl rfl
    · simp only [Except.bind, if_neg hempty]
      cases hwrite : place.files.write place.session.outputPath (Utf8.encode document.toList) with
      | error error => exact .none rfl rfl
      | ok files => exact .saved hdocument hempty hwrite

theorem effect_copy (place : Workplace) : place.Effect .copy (place.run .copy).1 := by
  rw [run, Session.copy_eq]
  cases hdocument : place.session.document place.files with
  | error failure => exact .none rfl rfl
  | ok document =>
    by_cases hempty : document = ""
    · simp only [Except.map, if_pos hempty]
      exact .none rfl rfl
    · simp only [Except.map, if_neg hempty]
      exact .copied hdocument hempty

/-- No operation has an effect but its own. -/
theorem effect_run (place : Workplace) (op : Operation) : place.Effect op (place.run op).1 := by
  cases op with
  | openFile name =>
    rw [run]
    cases hopen : place.session.openFile place.files name with
    | error failure => exact .none rfl rfl
    | ok session =>
      obtain ⟨_, _, _, _, _, _, rfl⟩ := Session.openFile_eq_ok_iff.mp hopen
      exact .none rfl rfl
  | setClass name hide => exact .none rfl rfl
  | setMethod name hide => exact .none rfl rfl
  | toggle row => cases row <;> exact .none rfl rfl
  | stage =>
    rw [run]
    cases hstage : place.session.stage with
    | error failure => exact .none rfl rfl
    | ok session =>
      obtain ⟨file, hcurrent, hshown, rfl⟩ := Session.stage_eq_ok_iff.mp hstage
      exact .staged hcurrent hshown
  | document => exact .none rfl rfl
  | save => exact place.effect_save
  | copy => exact place.effect_copy
  | setUrl url => exact .urlSet url

/-! ## Which operation changes what -/

/-- What is shown of a file is staged. -/
structure Stages (place : Workplace) (file : OpenFile) (next : Workplace) : Prop where
  current : place.session.current = some file
  shown : file.shown ≠ ""
  bundle : place.session.bundle.Overwrites next.session.bundle ⟨file.name, file.shown⟩

/-- A document of staged snapshots is written where the session saves, and nowhere else. -/
structure Saves (place : Workplace) (document : String) (next : Workplace) : Prop where
  staged : ¬ place.session.bundle.isEmpty
  renders : place.session.document place.files = .ok document
  writes : place.files.write place.session.outputPath (Utf8.encode document.toList) =
    .ok next.files
  elsewhere : ∃ target, place.files.resolve place.session.outputPath = .ok target ∧
    next.files.working = place.files.working ∧
    ∀ location, location ≠ target.location →
      next.files.entryAt? location = place.files.entryAt? location

/-- A document of staged snapshots is handed to the clipboard, with what that does to the files. -/
structure Copies (place : Workplace) (document : String) (next : Workplace) : Prop where
  staged : ¬ place.session.bundle.isEmpty
  renders : place.session.document place.files = .ok document
  clipboard : next.clipboard = place.clipboard.record document
  files : next.files = (place.clipboard.offer place.files document).1

variable {place next : Workplace} {op : Operation}

theorem Effect.bundle (h : place.Effect op next) :
    next.session.bundle = place.session.bundle ∨ op = .stage ∧ ∃ file, place.Stages file next := by
  cases h with
  | none bundle url => exact .inl bundle
  | staged current shown =>
    exact .inr ⟨rfl, _, current, shown, Bundle.overwrites_stage _ _⟩
  | saved renders given writes => exact .inl rfl
  | copied renders given => exact .inl rfl
  | urlSet url => exact .inl rfl

theorem Effect.files (h : place.Effect op next) :
    next.files = place.files ∨ (op = .save ∧ ∃ document, place.Saves document next) ∨
      op = .copy ∧ (∃ document, place.Copies document next) ∧
        ∃ sink, place.clipboard.kind = .system sink := by
  cases h with
  | none bundle url => exact .inl rfl
  | staged current shown => exact .inl rfl
  | saved renders given writes =>
    have hstaged := Session.not_isEmpty_of_document_ne renders given
    have helsewhere := FileSystem.exists_target_of_write_eq_ok writes
    exact .inr (.inl ⟨rfl, _, hstaged, renders, writes, helsewhere⟩)
  | @copied document renders given =>
    have hstaged := Session.not_isEmpty_of_document_ne renders given
    by_cases hoffer : (place.clipboard.offer place.files document).1 = place.files
    · exact .inl hoffer
    · exact .inr (.inr ⟨rfl, ⟨document, hstaged, renders, rfl, rfl⟩,
        Clipboard.exists_sink_of_offer_ne hoffer⟩)
  | urlSet url => exact .inl rfl

theorem Effect.clipboard (h : place.Effect op next) :
    next.clipboard = place.clipboard ∨ op = .copy ∧ ∃ document, place.Copies document next := by
  cases h with
  | none bundle url => exact .inl rfl
  | staged current shown => exact .inl rfl
  | saved renders given writes => exact .inl rfl
  | copied renders given =>
    have hstaged := Session.not_isEmpty_of_document_ne renders given
    exact .inr ⟨rfl, _, hstaged, renders, rfl, rfl⟩
  | urlSet url => exact .inl rfl

theorem Effect.url (h : place.Effect op next) :
    next.session.url = place.session.url ∨
      ∃ url, op = .setUrl url ∧ next.session.url = some url := by
  cases h with
  | none bundle url => exact .inl url
  | staged current shown => exact .inl rfl
  | saved renders given writes => exact .inl rfl
  | copied renders given => exact .inl rfl
  | urlSet url => exact .inr ⟨url, rfl, rfl⟩

end Workplace

end RedactedBundle
