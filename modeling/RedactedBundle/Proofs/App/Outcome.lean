import RedactedBundle.Proofs.App.Run

/-!
# What a key comes to

The same characters are commands, names of actions in a panel, and text of a prompt. Which of these
a key is depends on the prompt, on control and on the focus. Whatever it is, a key comes to one of a
few things: it carries out one operation of the session, it answers a prompt, it leaves the view, or
it does nothing that goes beyond the panels.

## Main definitions

- `App.Performs`: the operation that a key carries out
- `App.Submits`: the key submits what was asked for
- `App.Quits`: the key leaves the view
- `App.Outcome`: what the action of a key comes to

## Main statements

- `App.outcome_act`: the action of every key comes to one of these
-/

namespace RedactedBundle.App

/-- A key is pressed without control while no prompt is open. -/
structure IsPlain (app : App) (key : Key) : Prop where
  prompt : ¬ app.prompt.isOpen
  control : ¬ key.control

/-- The operation of the session that a key carries out. -/
inductive Performs (app : App) (key : Key) : Operation → Prop where
  | stage (plain : app.IsPlain key) (code : key.code = .char 'a') : Performs app key .stage
  | save (plain : app.IsPlain key) (code : key.code = .char 's') : Performs app key .save
  | copy (plain : app.IsPlain key) (code : key.code = .char 'y') : Performs app key .copy
  | openFile {name : String} (plain : app.IsPlain key) (focus : app.focus = .files)
    (code : key.code = .char 'l' ∨ key.code = .enter ∨ key.code = .right)
    (chosen : app.files.names.chosen? = some name) : Performs app key (.openFile name)
  | toggle {row : OutlineRow} (plain : app.IsPlain key) (focus : app.focus = .outline)
    (code : key.code = .char ' ' ∨ key.code = .enter)
    (chosen : app.outline.chosen? = some row) : Performs app key (.toggle row)

theorem Performs.isPlain {app : App} {key : Key} {op : Operation} (h : app.Performs key op) :
    app.IsPlain key := by
  cases h <;> assumption

/-- What was put into the prompt, without blanks around it. -/
def trimmedInput (app : App) : String := String.ofList (Text.trim app.prompt.input.toList)

/-- The folder that was asked for; nothing stands for the one that relative paths start from. -/
def askedFolder (app : App) : Except Failure Path :=
  if app.trimmedInput = "" then app.place.files.workingFolder else .ok (.ofString app.trimmedInput)

/-- The key submits what was put into a prompt for something. -/
structure Submits (app : App) (key : Key) (kind : PromptKind) : Prop where
  kind : app.prompt.kind = some kind
  code : key.code = .enter

/-- The key leaves the view. -/
structure Quits (app : App) (key : Key) : Prop where
  prompt : ¬ app.prompt.isOpen
  code : if key.control then key.code = .char 'c' ∨ key.code = .char 'q'
    else key.code = .char 'q' ∨ key.code = .escape

/-- What the action of a key comes to. -/
inductive Outcome [PatternLanguage] [TomlReader] [TemplateEngine] (app : App) (key : Key) :
    Acted → Prop where
  | idle {next : App} (place : next.place = app.place) (quit : next.quit = app.quit) :
    Outcome app key (next, none)
  | quits (quits : app.Quits key) : Outcome app key ({ app with quit := true }, none)
  | performed {op : Operation} {response : Response} {next : App} (performs : app.Performs key op)
    (succeeds : (app.place.run op).2 = .ok response) (place : next.place = (app.place.run op).1)
    (quit : next.quit = app.quit) : Outcome app key (next, none)
  | failed {op : Operation} {failure : Failure} (performs : app.Performs key op)
    (fails : (app.place.run op).2 = .error failure) :
    Outcome app key ({ app with place := (app.place.run op).1 }, some failure)
  | folderOpened {next : App} (submits : app.Submits key .folder)
    (opens : app.askedFolder.bind { app with prompt := .closed }.openFolder = .ok next) :
    Outcome app key (next, none)
  | folderRefused {failure : Failure} (submits : app.Submits key .folder)
    (refused : app.askedFolder.bind app.openFolder = .error failure) :
    Outcome app key ({ app with prompt := .closed }, some failure)
  | urlRecorded {next : App} (submits : app.Submits key .url) (given : app.trimmedInput ≠ "")
    (place : next.place = { app.place with session := app.session.setUrl app.trimmedInput })
    (quit : next.quit = app.quit) : Outcome app key (next, none)

variable {app : App} {key : Key}

/-! ## Single keys -/

theorem submitted_of_isPlain (h : app.IsPlain key) : app.prompt.submitted = app.prompt :=
  if_neg h.prompt

theorem Submits.isOpen {kind : PromptKind} (h : app.Submits key kind) : app.prompt.isOpen := by
  rw [Prompt.isOpen, h.kind]
  rfl

theorem submitted_of_submits {kind : PromptKind} (h : app.Submits key kind) :
    app.prompt.submitted = .closed :=
  if_pos h.isOpen

section Act

variable [PatternLanguage] [TomlReader] [TemplateEngine]

theorem act_of_isPlain (h : app.IsPlain key) : app.act key = app.actPlain key.code := by
  rw [act, if_neg h.prompt, if_neg h.control]

/-- A prompt is closed before its text is used. -/
theorem act_of_submits {kind : PromptKind} (h : app.Submits key kind) :
    app.act key = { app with prompt := .closed }.answer kind app.prompt.input := by
  rw [act, if_pos h.isOpen, actInPrompt, h.code, submitted_of_submits h, Prompt.submit?, h.kind]
  rfl

theorem act_of_quits (h : app.Quits key) : app.act key = done { app with quit := true } := by
  have hcode := h.code
  rw [act, if_neg h.prompt]
  by_cases hcontrol : key.control
  · rw [if_pos hcontrol] at hcode ⊢
    rcases hcode with hcode | hcode <;> rw [hcode] <;> rfl
  · rw [if_neg hcontrol] at hcode ⊢
    rcases hcode with hcode | hcode <;> rw [hcode] <;> rfl

end Act

/-! ## Opening a folder -/

section Folder

variable [PatternLanguage] [TomlReader]

/-- A folder that is opened has a session of its own, which keeps the address of the last one. -/
theorem place_of_openFolder_eq_ok {root : Path} {next : App} (h : app.openFolder root = .ok next) :
    ∃ settings session,
      Session.startReading app.session.treeOf app.place.files root settings = .ok session ∧
      next.place = { app.place with session := { session with url := app.session.url } } ∧
      next.quit = app.quit := by
  obtain ⟨settings, -, h⟩ := Session.bind_eq_ok_iff.mp h
  cases hstart : Session.startReading app.session.treeOf app.place.files root settings with
  | error failure =>
    rw [hstart] at h
    cases h
  | ok session =>
    rw [hstart] at h
    cases h
    exact ⟨settings, session, hstart, rfl, rfl⟩

/-- A folder is refused if its settings cannot be loaded or if it cannot be listed. -/
theorem openFolder_eq_error_iff {root : Path} {failure : Failure} :
    app.openFolder root = .error failure ↔
      Settings.load app.place.files app.host.environment root app.host.config = .error failure ∨
      ∃ settings,
        Settings.load app.place.files app.host.environment root app.host.config = .ok settings ∧
        Session.startReading app.session.treeOf app.place.files root settings =
          .error failure := by
  rw [openFolder]
  cases Settings.load app.place.files app.host.environment root app.host.config with
  | error other => simp [Except.bind]
  | ok settings =>
    cases hstart : Session.startReading app.session.treeOf app.place.files root settings with
    | error other => simp [Except.bind, Except.map, hstart]
    | ok session => simp [Except.bind, Except.map, hstart]

/-- What is refused does not depend on the prompt. -/
theorem bind_openFolder_eq_error_iff_of_prompt {asked : Except Failure Path} {failure : Failure}
    (prompt : Prompt) :
    asked.bind { app with prompt }.openFolder = .error failure ↔
      asked.bind app.openFolder = .error failure := by
  cases asked with
  | error other => rfl
  | ok root =>
    change { app with prompt }.openFolder root = _ ↔ app.openFolder root = _
    rw [openFolder_eq_error_iff, openFolder_eq_error_iff]
    rfl

theorem answer_folder_of_ok {next : App}
    (h : app.askedFolder.bind { app with prompt := .closed }.openFolder = .ok next) :
    { app with prompt := .closed }.answer .folder app.prompt.input = done next := by
  simp only [answer]
  split
  · next opened hopen =>
    cases hopen.symm.trans h
    rfl
  · next failure hopen => cases hopen.symm.trans h

theorem answer_folder_of_error {failure : Failure}
    (h : app.askedFolder.bind app.openFolder = .error failure) :
    { app with prompt := .closed }.answer .folder app.prompt.input =
      ({ app with prompt := .closed }, some failure) := by
  have hrefused := (bind_openFolder_eq_error_iff_of_prompt .closed).mpr h
  simp only [answer]
  split
  · next opened hopen => cases hopen.symm.trans hrefused
  · next other hopen =>
    cases hopen.symm.trans hrefused
    rfl

end Folder

/-! ## Keys in an open prompt -/

variable [PatternLanguage] [TomlReader] [TemplateEngine]

/-- The answer to a prompt, which is closed before the answer is used. -/
theorem outcome_answer {kind : PromptKind} (submits : app.Submits key kind) :
    app.Outcome key ({ app with prompt := .closed }.answer kind app.prompt.input) := by
  cases kind with
  | folder =>
    cases hopen : app.askedFolder.bind { app with prompt := .closed }.openFolder with
    | ok next =>
      rw [answer_folder_of_ok hopen]
      exact .folderOpened submits hopen
    | error failure =>
      have hrefused := (bind_openFolder_eq_error_iff_of_prompt .closed).mp hopen
      rw [answer_folder_of_error hrefused]
      exact .folderRefused submits hrefused
  | url =>
    rw [answer]
    split
    · exact .idle rfl rfl
    · next hgiven => exact .urlRecorded submits hgiven rfl rfl

theorem outcome_actInPrompt (hprompt : app.prompt.isOpen) :
    app.Outcome key (app.actInPrompt key) := by
  rw [actInPrompt]
  split
  · exact .idle rfl rfl
  · next hcode =>
    obtain ⟨kind, hkind⟩ := Option.isSome_iff_exists.mp hprompt
    have submits : app.Submits key kind := ⟨hkind, hcode⟩
    rw [submitted_of_submits submits, Prompt.submit?, hkind]
    exact outcome_answer submits
  · exact .idle rfl rfl
  · split
    · exact .idle rfl rfl
    · exact .idle rfl rfl
  · exact .idle rfl rfl

/-! ## Keys without a prompt -/

/-- A key that carries out an operation, of which nothing but the panels is told. -/
theorem outcome_operate {op : Operation} (performs : app.Performs key op)
    {next : App → Response → App}
    (hplace : ∀ (app : App) (response : Response), (next app response).place = app.place)
    (hquit : ∀ (app : App) (response : Response), (next app response).quit = app.quit) :
    app.Outcome key (app.operate op next) := by
  rw [operate]
  split
  · next place response hrun =>
    refine .performed performs (by rw [hrun]) ?_ (hquit _ _)
    rw [hplace, hrun]
  · next place failure hrun =>
    have hplace : place = (app.place.run op).1 := by rw [hrun]
    subst hplace
    exact .failed performs (by rw [hrun])

theorem outcome_openChosen (plain : app.IsPlain key) (focus : app.focus = .files)
    (code : key.code = .char 'l' ∨ key.code = .enter ∨ key.code = .right) :
    app.Outcome key app.openChosen := by
  rw [openChosen]
  split
  · exact .idle rfl rfl
  · next name hchosen =>
    apply outcome_operate (.openFile plain focus code hchosen)
    · intro app response
      split <;> rfl
    · intro app response
      split <;> rfl

theorem outcome_toggleChosen (plain : app.IsPlain key) (focus : app.focus = .outline)
    (code : key.code = .char ' ' ∨ key.code = .enter) : app.Outcome key app.toggleChosen := by
  rw [toggleChosen]
  split
  · exact .idle rfl rfl
  · next row hchosen =>
    exact outcome_operate (.toggle plain focus code hchosen) (fun _ _ => rfl) fun _ _ => rfl

theorem outcome_saveDocument (plain : app.IsPlain key) (code : key.code = .char 's') :
    app.Outcome key app.saveDocument := by
  apply outcome_operate (.save plain code)
  · intro app response
    split <;> rfl
  · intro app response
    split <;> rfl

theorem outcome_copyDocument (plain : app.IsPlain key) (code : key.code = .char 'y') :
    app.Outcome key app.copyDocument := by
  apply outcome_operate (.copy plain code)
  · intro app response
    split <;> rfl
  · intro app response
    split <;> rfl

theorem outcome_actInPanel (plain : app.IsPlain key) :
    app.Outcome key (app.actInPanel key.code) := by
  rw [actInPanel]
  split
  · next focus =>
    unfold actInFiles
    split
    case h_5 code => exact outcome_openChosen plain focus (.inl code)
    case h_6 code => exact outcome_openChosen plain focus (.inr (.inl code))
    case h_7 code => exact outcome_openChosen plain focus (.inr (.inr code))
    all_goals exact .idle rfl rfl
  · next focus =>
    unfold actInOutline
    split
    case h_5 code => exact outcome_toggleChosen plain focus (.inl code)
    case h_6 code => exact outcome_toggleChosen plain focus (.inr code)
    all_goals exact .idle rfl rfl
  · unfold actInPreview
    split <;> exact .idle rfl rfl

/-- The action of every key comes to one of the things that `App.Outcome` lists. -/
theorem outcome_act (app : App) (key : Key) : app.Outcome key (app.act key) := by
  rw [act]
  split
  · next prompt => exact outcome_actInPrompt prompt
  next prompt =>
  split
  · next control =>
    unfold actWithControl
    split
    · next code => exact .quits ⟨prompt, by rw [if_pos control]; exact .inl code⟩
    · next code => exact .quits ⟨prompt, by rw [if_pos control]; exact .inr code⟩
    · exact .idle rfl rfl
  · next control =>
    have plain : app.IsPlain key := ⟨prompt, control⟩
    unfold actPlain
    split
    case h_1 code => exact .quits ⟨prompt, by rw [if_neg control]; exact .inl code⟩
    case h_2 code => exact .quits ⟨prompt, by rw [if_neg control]; exact .inr code⟩
    case h_5 code =>
      exact outcome_operate (.stage plain code) (fun _ _ => rfl) fun _ _ => rfl
    case h_6 code => exact outcome_saveDocument plain code
    case h_7 code => exact outcome_copyDocument plain code
    case h_10 => exact outcome_actInPanel plain
    all_goals exact .idle rfl rfl

end RedactedBundle.App
