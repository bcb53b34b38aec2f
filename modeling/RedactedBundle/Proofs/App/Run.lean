import RedactedBundle.App.Press
import RedactedBundle.Proofs.Session.Coherence

/-!
# Runs of the interactive view

Keys are pressed one after the other, the address of the project is set and other folders are
opened, and in between the files and the clipboard may be changed from outside. Whatever happens,
what the view shows changes in one of a few ways only; all else that a key can do concerns the
focus, the scrolling, the prompt, the last line and what is staged.

## Main definitions

- `App.Event`, `App.step`, `App.after`: what happens to the view, and what comes of it
- `App.Toggles`: the keys that hide what a row of the outline stands for, or show it again
- `App.SameContent`: states of the view with the same panels over the same open file
- `App.Change`: the ways in which one event can change the content of the view

## Main statements

- `App.change_act`, `App.change_step`: a key and any other event change the view in one of these
  ways
-/

namespace RedactedBundle

namespace App

/-- What happens to the view. -/
inductive Event where
  | key (key : Key)
  | setUrl (url : String)
  | openFolder (root : Path)
  /-- The files and the clipboard are changed from outside, in any way. -/
  | outside (files : FileSystem) (clipboard : Clipboard)
  deriving Inhabited

section Events

variable [PatternLanguage] [TomlReader] [TemplateEngine]

/-- The view after one event. A folder that cannot be opened leaves it as it was. -/
def step (app : App) : Event → App
  | .key key => app.press key
  | .setUrl url => app.setUrl url
  | .openFolder root =>
    match app.openFolder root with
    | .ok app => app
    | .error _ => app
  | .outside files clipboard => { app with place := { app.place with files, clipboard } }

/-- The view after some events, one after the other. -/
def after (app : App) (events : List Event) : App := events.foldl step app

/-- A condition that every event keeps holds after any events. -/
theorem after_induction {P : App → Prop} (hstep : ∀ app event, P app → P (app.step event))
    {app : App} (h : P app) (events : List Event) : P (app.after events) := by
  induction events generalizing app with
  | nil => exact h
  | cons event rest ih => exact ih (hstep app event h)

end Events

/-- The event toggles the chosen row of the outline, if there is one. -/
def Toggles (app : App) : Event → Prop
  | .key key =>
    ¬ app.prompt.isOpen ∧ ¬ key.control ∧ app.focus = .outline ∧
      (key.code = .char ' ' ∨ key.code = .enter)
  | _ => False

/-- Two states of the view with the same panels over sessions that show the same. They may differ
in the focus, the prompt and the last line, and the second one may have been scrolled, but not down
beyond the last line of the preview. -/
structure SameContent (app app' : App) : Prop where
  host_eq : app'.host = app.host
  settings_eq : app'.settings = app.settings
  previewTheme_eq : app'.previewTheme = app.previewTheme
  session : app.session.ShowsAlike app'.session
  preview_eq : app'.preview = app.preview
  scroll_le : app'.scroll ≤ app.scroll ∨ app'.scroll ≤ app.lastLine
  files_eq : app'.files = app.files
  outline_eq : app'.outline = app.outline

/-- The files, the clipboard and what is around the panels have no part in the content. -/
theorem sameContent_dress (app : App) (files : FileSystem) (clipboard : Clipboard)
    (prompt : Prompt) (status : Option Status) (focus : Focus) (quit : Bool) :
    app.SameContent
      { app with
        place := { app.place with files, clipboard }
        prompt, status, focus, quit } :=
  ⟨rfl, rfl, rfl, .refl app.session, rfl, .inl (Nat.le_refl _), rfl, rfl⟩

theorem sameContent_scroll {app : App} {scroll : Nat}
    (h : scroll ≤ app.scroll ∨ scroll ≤ app.lastLine) : app.SameContent { app with scroll } :=
  ⟨rfl, rfl, rfl, .refl app.session, rfl, h, rfl, rfl⟩

/-- The view over its session with a row toggled. -/
def toggling (app : App) (row : OutlineRow) : App :=
  { app with place := { app.place with session := app.session.toggle row } }

/-- The view with a file opened in its session, whose preview is still to be made. -/
def opening (app : App) (session : Session) (file : OpenFile) : App :=
  { app with
    place := { app.place with session }
    outline := .ofList file.outline
    scroll := 0 }

/-- What one event can do to the content of the view. A row is toggled only if this is what the
event is for. -/
inductive Change [PatternLanguage] (toggles : Prop) : App → App → Prop where
  | none (app : App) : Change toggles app app
  | fileChosen {app : App} (names : Picker String)
      (move : names = app.files.names.next ∨ names = app.files.names.previous) :
      Change toggles app { app with files := { app.files with names } }
  | rowChosen {app : App} (outline : Picker OutlineRow)
      (move : outline = app.outline.next ∨ outline = app.outline.previous) :
      Change toggles app { app with outline }
  | opened {app : App} {name : String} {session : Session} {file : OpenFile}
      (opens : app.session.openFile app.place.files name = .ok session)
      (current : session.current = some file) :
      Change toggles app (app.opening session file).refreshed
  | toggled {app : App} {row : OutlineRow} (meant : toggles)
      (chosen : app.outline.chosen? = some row) (current : app.session.current ≠ Option.none) :
      Change toggles app (app.toggling row).refreshed
  /-- Without an open file the names of a row are hidden all the same, and nothing is shown anew. -/
  | toggledUnseen {app : App} {row : OutlineRow} (meant : toggles)
      (chosen : app.outline.chosen? = some row) (current : app.session.current = Option.none) :
      Change toggles app (app.toggling row)
  | folder {app : App} {root : Path} {settings : Settings} {session : Session}
      (starts : Session.startReading app.session.treeOf app.place.files root settings =
        .ok session)
      (url : Option String) :
      Change toggles app (app.withSession settings { session with url })
  /-- What does not concern the content may change before a change of the content. -/
  | before {app next app' : App} (same : app.SameContent next)
      (change : Change toggles next app') : Change toggles app app'
  /-- What does not concern the content may change behind a change of the content. -/
  | behind {app next app' : App} (change : Change toggles app next)
      (same : next.SameContent app') : Change toggles app app'

variable {toggles : Prop}

theorem SameContent.change [PatternLanguage] {app app' : App} (h : app.SameContent app') :
    app.Change toggles app' :=
  .behind (.none app) h

section Actions

variable (app : App)

theorem sameContent_report (level : StatusLevel) (text : String) :
    app.SameContent (app.report level text) :=
  app.sameContent_dress _ _ _ _ _ _

theorem sameContent_setUrl (url : String) : app.SameContent (app.setUrl url) :=
  ⟨rfl, rfl, rfl, ⟨⟨rfl, rfl, rfl, rfl, rfl⟩, rfl, rfl⟩, rfl, .inl (Nat.le_refl _), rfl, rfl⟩

section Operations

variable [TemplateEngine]

theorem operate_of_ok {op : Operation} {place : Workplace} {response : Response}
    (h : app.place.run op = (place, .ok response)) (next : App → Response → App) :
    app.operate op next = done (next { app with place } response) := by
  rw [operate, h]

theorem operate_of_error {op : Operation} {place : Workplace} {failure : Failure}
    (h : app.place.run op = (place, .error failure)) (next : App → Response → App) :
    app.operate op next = ({ app with place }, some failure) := by
  rw [operate, h]

/-- Toggling a row succeeds if a file is open. -/
theorem operate_toggle_of_open (row : OutlineRow) (h : app.session.current ≠ Option.none)
    (next : App → Response → App) :
    ∃ response, app.operate (.toggle row) next = done (next (app.toggling row) response) := by
  have hopen : (app.session.toggle row).current.isSome := by
    rw [Session.isSome_current_toggle]
    exact Option.isSome_iff_ne_none.mpr h
  obtain ⟨file, hfile⟩ := Option.isSome_iff_exists.mp hopen
  refine ⟨.toggled ((app.session.toggle row).isHidden row), app.operate_of_ok ?_ next⟩
  change ((app.toggling row).place, (app.session.toggle row).ifOpen _) = _
  rw [Session.ifOpen, hfile]
  rfl

/-- Toggling a row fails without an open file, but its name counts as hidden or shown. -/
theorem operate_toggle_of_not_open (row : OutlineRow) (h : app.session.current = Option.none)
    (next : App → Response → App) :
    app.operate (.toggle row) next = (app.toggling row, some .noOpenFile) := by
  have hnone : (app.session.toggle row).current = Option.none := by
    rw [← Option.not_isSome_iff_eq_none, Session.isSome_current_toggle, h]
    simp
  apply app.operate_of_error
  change ((app.toggling row).place, (app.session.toggle row).ifOpen _) = _
  rw [Session.ifOpen, hnone]
  rfl

variable [PatternLanguage]

/-- An operation that stages, saves or copies keeps the content, if what follows it does. -/
theorem change_operate {op : Operation} (hop : op = .stage ∨ op = .save ∨ op = .copy)
    {next : App → Response → App}
    (hnext : ∀ (app : App) (response : Response), app.SameContent (next app response)) :
    app.Change toggles (app.operate op next).1 := by
  have hplace : app.SameContent { app with place := (app.place.run op).1 } :=
    ⟨rfl, rfl, rfl, app.place.showsAlike_run hop, rfl, .inl (Nat.le_refl _), rfl, rfl⟩
  rw [operate]
  split
  · next place response hrun =>
    rw [hrun] at hplace
    exact .behind hplace.change (hnext _ _)
  · next place failure hrun =>
    rw [hrun] at hplace
    exact hplace.change

theorem change_openChosen : app.Change toggles app.openChosen.1 := by
  rw [openChosen]
  cases app.files.names.chosen? with
  | none =>
    exact (app.sameContent_dress _ _ _ _ _ _).change
  | some name =>
    cases hopen : app.place.session.openFile app.place.files name with
    | error failure =>
      have hrun : app.place.run (.openFile name) = (app.place, .error failure) := by
        rw [Workplace.run, hopen]
      simp only [app.operate_of_error hrun]
      exact .none app
    | ok session =>
      obtain ⟨file, hcurrent, hrun⟩ := Workplace.run_openFile_of_eq_ok hopen
      simp only [app.operate_of_ok hrun]
      apply Change.behind (.opened hopen hcurrent)
      exact sameContent_dress _ _ _ _ _ _ _

theorem change_toggleChosen (h : toggles) : app.Change toggles app.toggleChosen.1 := by
  rw [toggleChosen]
  cases hchosen : app.outline.chosen? with
  | none => exact .none app
  | some row =>
    by_cases hcurrent : app.session.current = Option.none
    · simp only [app.operate_toggle_of_not_open row hcurrent]
      exact .toggledUnseen h hchosen hcurrent
    · obtain ⟨response, hoperate⟩ :=
        app.operate_toggle_of_open row hcurrent fun app _ => app.refreshed
      simp only [hoperate]
      exact .toggled h hchosen hcurrent

end Operations

section Prompt

variable [PatternLanguage] [TomlReader]

/-- Another folder that can be opened takes the place of the one that is shown. -/
theorem change_openFolder {app app' : App} {root : Path} (h : app.openFolder root = .ok app') :
    app.Change toggles app' := by
  obtain ⟨settings, _, h⟩ := Session.bind_eq_ok_iff.mp h
  cases hstart : Session.startReading app.session.treeOf app.place.files root settings with
  | error failure =>
    rw [hstart] at h
    cases h
  | ok session =>
    rw [hstart] at h
    cases h
    exact .behind (.folder hstart app.session.url) (sameContent_report _ _ _)

theorem change_answer (kind : PromptKind) (input : String) :
    app.Change toggles (app.answer kind input).1 := by
  cases kind with
  | folder =>
    simp only [answer]
    split
    · next app' hopen =>
      obtain ⟨_, _, hopen⟩ := Session.bind_eq_ok_iff.mp hopen
      exact change_openFolder hopen
    · exact .none app
  | url =>
    simp only [answer]
    split
    · exact .none app
    · exact .behind (app.sameContent_setUrl _).change (sameContent_report _ _ _)

theorem change_actInPrompt (key : Key) : app.Change toggles (app.actInPrompt key).1 := by
  have hprompt (prompt : Prompt) : app.SameContent { app with prompt } :=
    app.sameContent_dress _ _ _ _ _ _
  rw [actInPrompt]
  split
  · exact (hprompt _).change
  · -- The prompt is closed before its text is used.
    split
    · exact .before (hprompt _) (change_answer _ _ _)
    · exact (hprompt _).change
  · exact (hprompt _).change
  · split
    · exact .none app
    · exact (hprompt _).change
  · exact .none app

end Prompt

variable [PatternLanguage]

/-- Scrolling keeps the content. -/
theorem change_actInPreview (code : KeyCode) : app.Change toggles (app.actInPreview code).1 := by
  apply SameContent.change
  have hdown (lines : Nat) : app.SameContent (app.scrollDown lines) :=
    sameContent_scroll (.inr (Nat.min_le_right _ _))
  have hup (lines : Nat) : app.SameContent (app.scrollUp lines) :=
    sameContent_scroll (.inl (Nat.sub_le _ _))
  unfold actInPreview
  split
  · exact hdown 1
  · exact hdown 1
  · exact hup 1
  · exact hup 1
  · exact hdown 20
  · exact hup 20
  · exact sameContent_scroll (.inl (Nat.zero_le _))
  · exact app.sameContent_dress _ _ _ _ _ _

variable [TemplateEngine]

theorem change_actInFiles (code : KeyCode) : app.Change toggles (app.actInFiles code).1 := by
  unfold actInFiles
  split
  · exact .fileChosen _ (.inl rfl)
  · exact .fileChosen _ (.inl rfl)
  · exact .fileChosen _ (.inr rfl)
  · exact .fileChosen _ (.inr rfl)
  · exact app.change_openChosen
  · exact app.change_openChosen
  · exact app.change_openChosen
  · exact .none app

theorem change_actInOutline {code : KeyCode}
    (h : code = .char ' ' ∨ code = .enter → toggles) :
    app.Change toggles (app.actInOutline code).1 := by
  unfold actInOutline
  split
  · exact .rowChosen _ (.inl rfl)
  · exact .rowChosen _ (.inl rfl)
  · exact .rowChosen _ (.inr rfl)
  · exact .rowChosen _ (.inr rfl)
  · exact app.change_toggleChosen (h (.inl rfl))
  · exact app.change_toggleChosen (h (.inr rfl))
  · exact (app.sameContent_dress _ _ _ _ _ _).change
  · exact (app.sameContent_dress _ _ _ _ _ _).change
  · exact .none app

theorem change_actInPanel {code : KeyCode}
    (h : app.focus = .outline ∧ (code = .char ' ' ∨ code = .enter) → toggles) :
    app.Change toggles (app.actInPanel code).1 := by
  rw [actInPanel]
  split
  · exact app.change_actInFiles code
  · next hfocus => exact app.change_actInOutline fun hcode => h ⟨hfocus, hcode⟩
  · exact app.change_actInPreview code

theorem change_stageShown : app.Change toggles app.stageShown.1 := by
  apply change_operate app (.inl rfl)
  intro app response
  exact sameContent_report _ _ _

theorem change_saveDocument : app.Change toggles app.saveDocument.1 := by
  apply change_operate app (.inr (.inl rfl))
  intro app response
  split <;> exact sameContent_report _ _ _

theorem change_copyDocument : app.Change toggles app.copyDocument.1 := by
  apply change_operate app (.inr (.inr rfl))
  intro app response
  split
  · exact sameContent_report _ _ _
  · exact sameContent_report _ _ _
  · exact app.sameContent_dress _ _ _ _ _ _

theorem change_actPlain {code : KeyCode}
    (h : app.focus = .outline ∧ (code = .char ' ' ∨ code = .enter) → toggles) :
    app.Change toggles (app.actPlain code).1 := by
  unfold actPlain
  split
  case h_5 => exact app.change_stageShown
  case h_6 => exact app.change_saveDocument
  case h_7 => exact app.change_copyDocument
  case h_10 => exact app.change_actInPanel h
  all_goals
    apply SameContent.change
    exact app.sameContent_dress _ _ _ _ _ _

variable [TomlReader]

/-- A key changes the content in one of the ways that `App.Change` lists, be it that its action
succeeds or that it fails. -/
theorem change_act (key : Key) : app.Change (app.Toggles (.key key)) (app.act key).1 := by
  rw [act]
  split
  · exact app.change_actInPrompt key
  · next hprompt =>
    split
    · apply SameContent.change
      unfold actWithControl
      split <;> exact app.sameContent_dress _ _ _ _ _ _
    · next hcontrol => exact app.change_actPlain fun h => ⟨hprompt, hcontrol, h⟩

/-- Pressing a key adds nothing to its action but the last line. -/
theorem press_eq (key : Key) :
    app.press key = { (app.act key).1 with
      status := ((app.act key).2.map fun failure => ⟨.error, failure.message⟩).or
        (app.act key).1.status } := by
  rw [press]
  cases app.act key with
  | mk next failure => cases failure <;> rfl

theorem change_press (key : Key) : app.Change (app.Toggles (.key key)) (app.press key) := by
  rw [press_eq]
  apply Change.behind (app.change_act key)
  exact sameContent_dress _ _ _ _ _ _ _

/-- So does any other event. -/
theorem change_step (event : Event) : app.Change (app.Toggles event) (app.step event) := by
  cases event with
  | key key => exact app.change_press key
  | setUrl url => exact (app.sameContent_setUrl url).change
  | openFolder root =>
    rw [step]
    split
    · next app' hopen => exact change_openFolder hopen
    · exact .none app
  | outside files clipboard =>
    apply SameContent.change
    exact app.sameContent_dress _ _ _ _ _ _

end Actions

end App

end RedactedBundle
