import RedactedBundle.Session.Operation

/-!
# Runs of a session

At a workplace operations are carried out one after the other, and between any two of them the
files and the clipboard may be changed from outside. Whatever happens, a session changes in one
of five ways only, and never in the folder it lists.

## Main definitions

- `Event`, `Workplace.step`, `Workplace.after`: what happens at a workplace, and what comes of it
- `Session.Change`: the ways in which one operation can change a session
- `Session.IsStart`: sessions in which nothing was done yet
- `Session.SameFolder`: sessions over the same listed folder
- `Session.ShowsAlike`: such sessions that show the same

## Main statements

- `Workplace.change_run`: an operation changes the session in one of these ways
- `Workplace.sameFolder_after`: the folder stays the same through a whole run
-/

namespace RedactedBundle

/-- What happens at a workplace. -/
inductive Event where
  | operation (op : Operation)
  /-- The files and the clipboard are changed from outside, in any way. -/
  | outside (files : FileSystem) (clipboard : Clipboard)
  deriving Inhabited

namespace Workplace

variable [TemplateEngine]

/-- The workplace after one event, whether an operation succeeds or fails. -/
def step (place : Workplace) : Event → Workplace
  | .operation op => (place.run op).1
  | .outside files clipboard => { place with files, clipboard }

/-- The workplace after some events, one after the other. -/
def after (place : Workplace) (events : List Event) : Workplace := events.foldl step place

/-- A condition that every event keeps holds after any events. -/
theorem after_induction {P : Workplace → Prop}
    (hstep : ∀ place event, P place → P (place.step event)) {place : Workplace} (h : P place)
    (events : List Event) : P (place.after events) := by
  induction events generalizing place with
  | nil => exact h
  | cons event rest ih => exact ih (hstep place event h)

end Workplace

namespace Session

/-- The text of a listed file in a file system, or the stand-in for one that is missing. -/
inductive ReadsAs (fs : FileSystem) (file : SourceFile) : String → Prop where
  | content {bytes : List UInt8} (isFile : fs.isFile file.path)
      (read : fs.read file.path = .ok bytes) : ReadsAs fs file (decodeSource bytes)
  | missing (isFile : ¬ fs.isFile file.path) : ReadsAs fs file missingSource

theorem readListed_eq_ok_iff {fs : FileSystem} {file : SourceFile} {text : String} :
    readListed fs file = .ok text ↔ ReadsAs fs file text := by
  rw [readListed]
  by_cases hfile : fs.isFile file.path
  · rw [if_pos hfile, FileSystem.readSource]
    cases hread : fs.read file.path with
    | ok bytes =>
      constructor
      · intro h
        cases h
        exact .content hfile hread
      · intro h
        cases h with
        | content _ hread' => rw [Except.ok.inj (hread.symm.trans hread')]
        | missing hmissing => exact absurd hfile hmissing
    | error error =>
      constructor
      · intro h
        cases h
      · intro h
        cases h with
        | content _ hread' => cases hread.symm.trans hread'
        | missing hmissing => exact absurd hfile hmissing
  · rw [if_neg hfile]
    constructor
    · intro h
      cases h
      exact .missing hfile
    · intro h
      cases h with
      | content hfile' => exact absurd hfile' hfile
      | missing => rfl

/-- A sequence of two computations succeeds if the first one does and the second one with its
value. -/
theorem bind_eq_ok_iff {α β : Type} {first : Except Failure α} {next : α → Except Failure β}
    {result : β} :
    first >>= next = .ok result ↔ ∃ value, first = .ok value ∧ next value = .ok result := by
  cases first with
  | error failure =>
    constructor
    · intro h
      cases h
    · rintro ⟨value, h, -⟩
      cases h
  | ok value =>
    constructor
    · intro h
      exact ⟨value, rfl, h⟩
    · rintro ⟨value, h, hnext⟩
      cases h
      exact hnext

/-- A file is opened by finding it in the listing, reading its text and reading that as a tree. -/
theorem openFile_eq_ok_iff {session session' : Session} {fs : FileSystem} {name : String} :
    session.openFile fs name = .ok session' ↔
      ∃ file text tree, session.listing.find? name = some file ∧ ReadsAs fs file text ∧
        session.treeOf text = .ok tree ∧
        session' = { session with
          current := some (session.opened file (Source.ofNode text tree))
          hidden := Hidden.empty } := by
  rw [openFile]
  cases hfind : session.listing.find? name with
  | none => simp
  | some file =>
    constructor
    · intro h
      obtain ⟨text, htext, h⟩ := bind_eq_ok_iff.mp h
      obtain ⟨tree, htree, h⟩ := bind_eq_ok_iff.mp h
      cases h
      exact ⟨file, text, tree, rfl, readListed_eq_ok_iff.mp htext, htree, rfl⟩
    · rintro ⟨file', text, tree, hfile, htext, htree, rfl⟩
      cases hfile
      exact bind_eq_ok_iff.mpr
        ⟨text, readListed_eq_ok_iff.mpr htext, bind_eq_ok_iff.mpr ⟨tree, htree, rfl⟩⟩

/-- What is shown of an open file is staged, unless it is empty. -/
theorem stage_eq_ok_iff {session session' : Session} :
    session.stage = .ok session' ↔
      ∃ file, session.current = some file ∧ file.shown ≠ "" ∧
        session' = { session with bundle := session.bundle.stage ⟨file.name, file.shown⟩ } := by
  rw [stage]
  cases hcurrent : session.current with
  | none => simp
  | some file =>
    by_cases hshown : file.shown = ""
    · simp [hshown]
    · simp only [if_neg hshown]
      constructor
      · intro h
        cases h
        exact ⟨file, rfl, hshown, rfl⟩
      · rintro ⟨other, hother, _, rfl⟩
        cases hother
        rfl

/-- What an operation can do to a session over some files. -/
inductive Change (fs : FileSystem) (session : Session) : Session → Prop where
  | none : Change fs session session
  | opened {file : SourceFile} {text : String} {tree : Node} (listed : file ∈ session.listing.files)
      (reads : ReadsAs fs file text) (parses : session.treeOf text = .ok tree) :
      Change fs session { session with
        current := some (session.opened file (Source.ofNode text tree))
        hidden := Hidden.empty }
  | hidden (hidden : Hidden) : Change fs session (session.withHidden hidden)
  | staged (file : OpenFile) (current : session.current = some file) (shown : file.shown ≠ "") :
      Change fs session { session with bundle := session.bundle.stage ⟨file.name, file.shown⟩ }
  | url (url : String) : Change fs session (session.setUrl url)

theorem change_openFile {session session' : Session} {fs : FileSystem} {name : String}
    (h : session.openFile fs name = .ok session') : Change fs session session' := by
  obtain ⟨file, text, tree, hfind, hreads, hparses, rfl⟩ := openFile_eq_ok_iff.mp h
  exact .opened (List.mem_of_find?_eq_some hfind) hreads hparses

theorem change_toggle (fs : FileSystem) (session : Session) (row : OutlineRow) :
    Change fs session (session.toggle row) := by
  cases row <;> exact .hidden _

theorem change_stage {session session' : Session} (fs : FileSystem)
    (h : session.stage = .ok session') : Change fs session session' := by
  obtain ⟨file, hcurrent, hshown, rfl⟩ := stage_eq_ok_iff.mp h
  exact .staged file hcurrent hshown

end Session

/-- An operation changes the session in one of the ways that `Session.Change` lists, be it that it
succeeds or that it fails. -/
theorem Workplace.change_run [TemplateEngine] (place : Workplace) (op : Operation) :
    Session.Change place.files place.session (place.run op).1.session := by
  cases op with
  | openFile name =>
    rw [run]
    cases h : place.session.openFile place.files name with
    | ok session => exact Session.change_openFile h
    | error failure => exact .none
  | setClass name hide => exact .hidden _
  | setMethod name hide => exact .hidden _
  | toggle row => exact Session.change_toggle _ _ row
  | stage =>
    rw [run]
    cases h : place.session.stage with
    | ok session => exact Session.change_stage _ h
    | error failure => exact .none
  | document => exact .none
  | save =>
    rw [run]
    -- The document goes to the files; the session has no part in it.
    cases h : place.session.save place.files with
    | ok saved => cases saved <;> exact .none
    | error failure => exact .none
  | copy =>
    rw [run]
    cases h : place.session.copy place.files place.clipboard with
    | ok copying => exact .none
    | error failure => exact .none
  | setUrl url => exact .url url

namespace Session

/-- A session over a folder in which nothing was done yet. -/
structure IsStart [PatternLanguage] (treeOf : String → Except Failure Node) (fs : FileSystem)
    (root : Path) (settings : Settings) (session : Session) : Prop where
  scan_eq : Listing.scan fs root settings.project.patterns settings.project.placeholderFile =
    .ok session.listing
  treeOf_eq : session.treeOf = treeOf
  placeholders_eq : session.placeholders = settings.placeholders
  options_eq : session.options = settings.documentOptions
  current_eq : session.current = none
  hidden_eq : session.hidden = Hidden.empty
  bundle_eq : session.bundle = Bundle.empty

theorem isStart_of_startReading_eq_ok [PatternLanguage] {treeOf : String → Except Failure Node}
    {fs : FileSystem} {root : Path} {settings : Settings} {session : Session}
    (h : startReading treeOf fs root settings = .ok session) :
    IsStart treeOf fs root settings session := by
  rw [startReading] at h
  split at h
  · cases h
  · next hscan => cases h; exact ⟨hscan, rfl, rfl, rfl, rfl, rfl, rfl⟩

/-- Two sessions over the same listed folder, which read, redact and render alike. -/
structure SameFolder (session session' : Session) : Prop where
  treeOf_eq : session'.treeOf = session.treeOf
  listing_eq : session'.listing = session.listing
  outputFile_eq : session'.outputFile = session.outputFile
  placeholders_eq : session'.placeholders = session.placeholders
  options_eq : session'.options = session.options

theorem SameFolder.refl (session : Session) : session.SameFolder session := ⟨rfl, rfl, rfl, rfl, rfl⟩

theorem SameFolder.trans {first second third : Session} (h : first.SameFolder second)
    (h' : second.SameFolder third) : first.SameFolder third where
  treeOf_eq := h'.treeOf_eq.trans h.treeOf_eq
  listing_eq := h'.listing_eq.trans h.listing_eq
  outputFile_eq := h'.outputFile_eq.trans h.outputFile_eq
  placeholders_eq := h'.placeholders_eq.trans h.placeholders_eq
  options_eq := h'.options_eq.trans h.options_eq

theorem Change.sameFolder {fs : FileSystem} {session session' : Session}
    (h : Change fs session session') : session.SameFolder session' := by
  cases h <;> exact ⟨rfl, rfl, rfl, rfl, rfl⟩

end Session

/-- No run of a session leaves its folder or looks at it again. -/
theorem Workplace.sameFolder_after [TemplateEngine] (place : Workplace) (events : List Event) :
    place.session.SameFolder (place.after events).session := by
  refine after_induction (P := fun now => place.session.SameFolder now.session) ?_ (.refl _) events
  intro now event h
  cases event with
  | operation op => exact h.trans (now.change_run op).sameFolder
  | outside files clipboard => exact h

namespace Session

/-- Two sessions over the same folder with the same open file and the same names hidden in it. -/
structure ShowsAlike (session session' : Session) : Prop extends session.SameFolder session' where
  current_eq : session'.current = session.current
  hidden_eq : session'.hidden = session.hidden

theorem ShowsAlike.refl (session : Session) : session.ShowsAlike session :=
  ⟨.refl session, rfl, rfl⟩

theorem showsAlike_stage {session session' : Session} (h : session.stage = .ok session') :
    session.ShowsAlike session' := by
  obtain ⟨file, _, _, rfl⟩ := stage_eq_ok_iff.mp h
  exact ⟨⟨rfl, rfl, rfl, rfl, rfl⟩, rfl, rfl⟩

@[simp] theorem isSome_current_toggle (session : Session) (row : OutlineRow) :
    (session.toggle row).current.isSome = session.current.isSome := by
  cases row <;> simp [toggle, setClass, setMethod, withHidden]

end Session

/-- The operations that stage, save and copy leave what is shown as it is. -/
theorem Workplace.showsAlike_run [TemplateEngine] (place : Workplace) {op : Operation}
    (h : op = .stage ∨ op = .save ∨ op = .copy) :
    place.session.ShowsAlike (place.run op).1.session := by
  rcases h with rfl | rfl | rfl
  · rw [run]
    cases hstage : place.session.stage with
    | ok session => exact Session.showsAlike_stage hstage
    | error failure => exact .refl _
  · rw [run]
    cases place.session.save place.files with
    | ok saved => cases saved <;> exact .refl _
    | error failure => exact .refl _
  · rw [run]
    cases place.session.copy place.files place.clipboard <;> exact .refl _

end RedactedBundle
