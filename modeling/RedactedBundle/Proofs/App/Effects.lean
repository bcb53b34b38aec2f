import RedactedBundle.Proofs.App.Coherence
import RedactedBundle.Proofs.App.Outcome
import RedactedBundle.Proofs.Session.Effects

/-!
# What keys reach

The letters that stage, save, copy and leave are also letters of paths and addresses that are typed
into a prompt. Each of the things that outlast the panels is changed by one kind of key only, in one
state of the view: the staged snapshots, the files, the clipboard, the address of the project, and
whether the view is to be left.

## Main definitions

- `App.Effect`: what a key does besides what is seen in the panels
- `App.Confined`: what a key may change, and when
- `App.recordedUrls`: the addresses that a run records

## Main statements

- `App.effect_press`: each key has one of these effects
- `App.url_after`, `App.quit_after`: the address after a run, and when the view is to be left
- `App.confined_press`: the effects of every key are confined
-/

namespace RedactedBundle

namespace App

/-- What a key does besides what is seen in the panels. -/
inductive Effect [PatternLanguage] [TomlReader] [TemplateEngine] (app : App) (key : Key)
    (next : App) : Prop where
  | none (place : next.place = app.place)
  | performed {op : Operation} (performs : app.Performs key op)
    (effect : app.place.Effect op next.place)
  | folderOpened (submits : app.Submits key .folder)
    (opens : app.askedFolder.bind { app with prompt := .closed }.openFolder = .ok next)
  | urlRecorded (submits : app.Submits key .url) (given : app.trimmedInput ≠ "")
    (place : next.place = { app.place with session := app.session.setUrl app.trimmedInput })

/-- The key is a letter, pressed without control while no prompt is open. -/
structure IsLetter (app : App) (key : Key) (letter : Char) : Prop extends app.IsPlain key where
  code : key.code = .char letter

/-- The key opens the folder that was asked for, with nothing staged. -/
structure OpensFolder [PatternLanguage] [TomlReader] (app : App) (key : Key) (next : App) :
    Prop where
  submits : app.Submits key .folder
  opens : app.askedFolder.bind { app with prompt := .closed }.openFolder = .ok next
  bundle : next.session.bundle = Bundle.empty

/-- The key records the address that was asked for. -/
structure RecordsUrl (app : App) (key : Key) (next : App) : Prop where
  submits : app.Submits key .url
  given : app.trimmedInput ≠ ""
  url : next.session.url = some app.trimmedInput

/-- What a key may change, and when. The files are changed by saving only, unless the clipboard
hands texts on, to programs that are free to change them. -/
structure Confined [PatternLanguage] [TomlReader] [TemplateEngine] (app : App) (key : Key)
    (next : App) : Prop where
  prompt : app.prompt.isOpen → key.code ≠ .enter → ∃ prompt, next = { app with prompt }
  bundle : next.session.bundle = app.session.bundle ∨
    (app.IsLetter key 'a' ∧ ∃ file, app.place.Stages file next.place) ∨ app.OpensFolder key next
  files : next.place.files = app.place.files ∨
    (app.IsLetter key 's' ∧ ∃ document, app.place.Saves document next.place) ∨
    app.IsLetter key 'y' ∧ (∃ document, app.place.Copies document next.place) ∧
      ∃ sink, app.place.clipboard.kind = .system sink
  clipboard : next.place.clipboard = app.place.clipboard ∨
    app.IsLetter key 'y' ∧ ∃ document, app.place.Copies document next.place
  url : next.session.url = app.session.url ∨ app.RecordsUrl key next
  quit : next.quit ↔ app.quit ∨ app.Quits key

variable {app next : App} {key : Key}

/-! ## One key -/

theorem Performs.isLetter_of_stage (h : app.Performs key .stage) : app.IsLetter key 'a' := by
  cases h with
  | stage plain code => exact ⟨plain, code⟩

theorem Performs.isLetter_of_save (h : app.Performs key .save) : app.IsLetter key 's' := by
  cases h with
  | save plain code => exact ⟨plain, code⟩

theorem Performs.isLetter_of_copy (h : app.Performs key .copy) : app.IsLetter key 'y' := by
  cases h with
  | copy plain code => exact ⟨plain, code⟩

section Folder

variable [PatternLanguage] [TomlReader]

/-- A folder that is opened starts with nothing staged. -/
theorem bundle_of_openFolder_eq_ok {root : Path} (h : app.openFolder root = .ok next) :
    next.session.bundle = Bundle.empty := by
  obtain ⟨settings, session, hstart, hplace, -⟩ := place_of_openFolder_eq_ok h
  have hbundle : next.session.bundle = session.bundle := congrArg (·.session.bundle) hplace
  rw [hbundle, (Session.isStart_of_startReading_eq_ok hstart).bundle_eq]

theorem url_of_openFolder_eq_ok {root : Path} (h : app.openFolder root = .ok next) :
    next.session.url = app.session.url := by
  obtain ⟨settings, session, -, hplace, -⟩ := place_of_openFolder_eq_ok h
  exact congrArg (·.session.url) hplace

theorem files_of_openFolder_eq_ok {root : Path} (h : app.openFolder root = .ok next) :
    next.place.files = app.place.files ∧ next.place.clipboard = app.place.clipboard := by
  obtain ⟨settings, session, -, hplace, -⟩ := place_of_openFolder_eq_ok h
  rw [hplace]
  exact ⟨rfl, rfl⟩

end Folder

section Keys

variable [PatternLanguage] [TomlReader] [TemplateEngine]

theorem place_press (app : App) (key : Key) :
    (app.press key).place = (app.act key).1.place := by
  rw [press_eq]

/-- Each key has one of these effects. -/
theorem effect_press (app : App) (key : Key) : app.Effect key (app.press key) := by
  have hplace := app.place_press key
  have hperformed {op : Operation} (performs : app.Performs key op)
      (h : (app.press key).place = (app.place.run op).1) : app.Effect key (app.press key) := by
    apply Effect.performed performs
    rw [h]
    exact app.place.effect_run op
  have houtcome := app.outcome_act key
  generalize hacted : app.act key = acted at hplace houtcome
  cases houtcome with
  | idle place quit => exact .none (hplace.trans place)
  | quits quits => exact .none hplace
  | performed performs succeeds place quit => exact hperformed performs (hplace.trans place)
  | failed performs fails => exact hperformed performs hplace
  | folderOpened submits opens =>
    refine .folderOpened submits ?_
    rw [press, hacted]
    exact opens
  | folderRefused submits refused => exact .none hplace
  | urlRecorded submits given place quit => exact .urlRecorded submits given (hplace.trans place)

theorem Effect.bundle (h : app.Effect key next) :
    next.session.bundle = app.session.bundle ∨
      (app.IsLetter key 'a' ∧ ∃ file, app.place.Stages file next.place) ∨
      app.OpensFolder key next := by
  cases h with
  | none place => exact .inl (congrArg (·.session.bundle) place)
  | performed performs effect =>
    rcases effect.bundle with hsame | ⟨rfl, hstages⟩
    · exact .inl hsame
    · exact .inr (.inl ⟨performs.isLetter_of_stage, hstages⟩)
  | folderOpened submits opens =>
    obtain ⟨root, -, hopen⟩ := Session.bind_eq_ok_iff.mp opens
    exact .inr (.inr ⟨submits, opens, bundle_of_openFolder_eq_ok hopen⟩)
  | urlRecorded submits given place => exact .inl (congrArg (·.session.bundle) place)

theorem Effect.files (h : app.Effect key next) :
    next.place.files = app.place.files ∨
      (app.IsLetter key 's' ∧ ∃ document, app.place.Saves document next.place) ∨
      app.IsLetter key 'y' ∧ (∃ document, app.place.Copies document next.place) ∧
        ∃ sink, app.place.clipboard.kind = .system sink := by
  cases h with
  | none place =>
    left
    rw [place]
  | performed performs effect =>
    rcases effect.files with hsame | ⟨rfl, hsaves⟩ | ⟨rfl, hcopies⟩
    · exact .inl hsame
    · exact .inr (.inl ⟨performs.isLetter_of_save, hsaves⟩)
    · exact .inr (.inr ⟨performs.isLetter_of_copy, hcopies⟩)
  | folderOpened submits opens =>
    obtain ⟨root, -, hopen⟩ := Session.bind_eq_ok_iff.mp opens
    exact .inl (files_of_openFolder_eq_ok hopen).1
  | urlRecorded submits given place =>
    left
    rw [place]

theorem Effect.clipboard (h : app.Effect key next) :
    next.place.clipboard = app.place.clipboard ∨
      app.IsLetter key 'y' ∧ ∃ document, app.place.Copies document next.place := by
  cases h with
  | none place =>
    left
    rw [place]
  | performed performs effect =>
    rcases effect.clipboard with hsame | ⟨rfl, hcopies⟩
    · exact .inl hsame
    · exact .inr ⟨performs.isLetter_of_copy, hcopies⟩
  | folderOpened submits opens =>
    obtain ⟨root, -, hopen⟩ := Session.bind_eq_ok_iff.mp opens
    exact .inl (files_of_openFolder_eq_ok hopen).2
  | urlRecorded submits given place =>
    left
    rw [place]

theorem Effect.url (h : app.Effect key next) :
    next.session.url = app.session.url ∨ app.RecordsUrl key next := by
  cases h with
  | none place => exact .inl (congrArg (·.session.url) place)
  | performed performs effect =>
    rcases effect.url with hsame | ⟨url, rfl, -⟩
    · exact .inl hsame
    · -- No key sets an address other than by the prompt for it.
      cases performs
  | folderOpened submits opens =>
    obtain ⟨root, -, hopen⟩ := Session.bind_eq_ok_iff.mp opens
    have hurl := url_of_openFolder_eq_ok hopen
    exact .inl hurl
  | urlRecorded submits given place =>
    exact .inr ⟨submits, given, congrArg (·.session.url) place⟩

/-- In an open prompt every key but the one that submits is about the prompt. -/
theorem press_of_isOpen (hprompt : app.prompt.isOpen) (hcode : key.code ≠ .enter) :
    ∃ prompt, app.press key = { app with prompt } := by
  have hact : ∃ prompt, app.act key = done { app with prompt } := by
    rw [act, if_pos hprompt, actInPrompt]
    split
    · exact ⟨_, rfl⟩
    · next henter => exact absurd henter hcode
    · exact ⟨_, rfl⟩
    · split
      · exact ⟨app.prompt, rfl⟩
      · exact ⟨_, rfl⟩
    · exact ⟨app.prompt, rfl⟩
  obtain ⟨prompt, hact⟩ := hact
  refine ⟨prompt, ?_⟩
  rw [press, hact]
  rfl

/-- The view is to be left after a key that leaves it, and if it was before. -/
theorem quit_press_iff (app : App) (key : Key) :
    (app.press key).quit ↔ app.quit ∨ app.Quits key := by
  rw [press_eq]
  by_cases hquits : app.Quits key
  · rw [act_of_quits hquits]
    exact ⟨fun _ => .inr hquits, fun _ => rfl⟩
  have houtcome := app.outcome_act key
  generalize app.act key = acted at houtcome
  have hkept : acted.1.quit = app.quit := by
    cases houtcome with
    | idle place quit => exact quit
    | quits quits => exact absurd quits hquits
    | performed performs succeeds place quit => exact quit
    | failed performs fails => rfl
    | folderOpened submits opens =>
      obtain ⟨root, -, hopen⟩ := Session.bind_eq_ok_iff.mp opens
      obtain ⟨_, _, _, _, hquit⟩ := place_of_openFolder_eq_ok hopen
      exact hquit
    | folderRefused submits refused => rfl
    | urlRecorded submits given place quit => exact quit
  rw [hkept]
  exact ⟨.inl, fun h => h.resolve_right hquits⟩

/-! ## Runs -/

/-- The address of the project that an event records. -/
def recordedUrl? (app : App) : Event → Option String
  | .setUrl url => some url
  | .key key =>
    if app.prompt.kind = some .url ∧ key.code = .enter ∧ app.trimmedInput ≠ "" then
      some app.trimmedInput
    else none
  | .openFolder _ | .outside _ _ => none

/-- The addresses that a run records. -/
def recordedUrls (app : App) : List Event → List String
  | [] => []
  | event :: rest => (app.recordedUrl? event).toList ++ (app.step event).recordedUrls rest

theorem url_press_of_submits (h : app.Submits key .url) (given : app.trimmedInput ≠ "") :
    (app.press key).session.url = some app.trimmedInput := by
  have hanswer : { app with prompt := .closed }.answer .url app.prompt.input =
      done (({ app with prompt := .closed }.setUrl app.trimmedInput).report .info
        "GitHub URL recorded; only local folders can be opened") := if_neg given
  rw [press, act_of_submits h, hanswer]
  rfl

/-- An event records an address or keeps the one that was recorded before. -/
theorem url_step (app : App) (event : Event) :
    (app.step event).session.url = (app.recordedUrl? event).or app.session.url := by
  cases event with
  | setUrl url => rfl
  | outside files clipboard => rfl
  | openFolder root =>
    rw [step]
    split
    · next opened hopen => exact url_of_openFolder_eq_ok hopen
    · rfl
  | key key =>
    rw [recordedUrl?]
    split
    · next hrecords =>
      obtain ⟨hkind, hcode, hgiven⟩ := hrecords
      exact url_press_of_submits ⟨hkind, hcode⟩ hgiven
    · next hnot =>
      rcases (app.effect_press key).url with hurl | ⟨submits, given, -⟩
      · exact hurl
      · exact absurd ⟨submits.kind, submits.code, given⟩ hnot

/-- The address after a run is the one that was recorded last, whatever folders were opened. -/
theorem url_after (app : App) (events : List Event) :
    (app.after events).session.url = (app.recordedUrls events).getLast?.or app.session.url := by
  induction events generalizing app with
  | nil => rfl
  | cons event rest ih =>
    change ((app.step event).after rest).session.url = _
    rw [ih, url_step, recordedUrls, List.getLast?_append, Option.or_assoc]
    cases app.recordedUrl? event <;> rfl

/-- Only keys can end the view, and nothing takes that back. -/
theorem quit_step (app : App) (event : Event) :
    (app.step event).quit ↔ app.quit ∨ ∃ key, event = .key key ∧ app.Quits key := by
  cases event with
  | key key =>
    rw [step, quit_press_iff]
    simp
  | setUrl url => simp [step, setUrl]
  | outside files clipboard => simp [step]
  | openFolder root =>
    have hquit : (app.step (.openFolder root)).quit = app.quit := by
      rw [step]
      split
      · next opened hopen =>
        obtain ⟨_, _, _, _, hquit⟩ := place_of_openFolder_eq_ok hopen
        exact hquit
      · rfl
    simp [hquit]

/-- The view is to be left after a run if it was before or if a key of the run left it. -/
theorem quit_after (app : App) (events : List Event) :
    (app.after events).quit ↔ app.quit ∨
      ∃ before key rest, events = before ++ .key key :: rest ∧ (app.after before).Quits key := by
  induction events generalizing app with
  | nil =>
    constructor
    · exact .inl
    · rintro (hquit | ⟨before, key, rest, hevents, -⟩)
      · exact hquit
      · simp at hevents
  | cons event rest ih =>
    change ((app.step event).after rest).quit ↔ _
    rw [ih, quit_step]
    constructor
    · rintro ((hquit | ⟨key, rfl, hquits⟩) | ⟨before, key, later, rfl, hquits⟩)
      · exact .inl hquit
      · exact .inr ⟨[], key, rest, rfl, hquits⟩
      · exact .inr ⟨event :: before, key, later, rfl, hquits⟩
    · rintro (hquit | ⟨before, key, later, hevents, hquits⟩)
      · exact .inl (.inl hquit)
      · cases before with
        | nil =>
          obtain ⟨rfl, rfl⟩ := List.cons.inj hevents
          exact .inl (.inr ⟨key, rfl, hquits⟩)
        | cons first before =>
          obtain ⟨rfl, rfl⟩ := List.cons.inj hevents
          exact .inr ⟨before, key, later, rfl, hquits⟩

/-- A key changes nothing but what it is for, in the state of the view that it is for. In particular
keys other than the one that submits a prompt change only the prompt while it is open. The address
of the project stays the same when folders are opened: after a run it is the one that was recorded
last. Once the view is to be left, nothing takes that back. -/
theorem confined_press (app : App) (key : Key) (events : List Event) :
    app.Confined key (app.press key) ∧
      (∀ root opened, app.openFolder root = .ok opened →
        opened.session.url = app.session.url) ∧
      (app.after events).session.url =
        (app.recordedUrls events).getLast?.or app.session.url ∧
      ((app.after events).quit ↔ app.quit ∨
        ∃ before key rest, events = before ++ .key key :: rest ∧
          (app.after before).Quits key) := by
  refine ⟨?_, fun root opened => url_of_openFolder_eq_ok, app.url_after events,
    app.quit_after events⟩
  have heffect := app.effect_press key
  exact
    { prompt := press_of_isOpen
      bundle := heffect.bundle
      files := heffect.files
      clipboard := heffect.clipboard
      url := heffect.url
      quit := app.quit_press_iff key }

end Keys

/-- A letter is typed into the prompt for the address, which is submitted then. -/
def typingKeys : List Event := [.key (.plain (.char 'q')), .key (.plain .enter)]

/-- With the file open, the letter for staging stages it. In the prompt the letter for leaving
becomes a part of the address. -/
theorem confined_press_typingKeys :
    let shown := sampleApp.after sampleKeys
    let asking := shown.press (.plain (.char 'g'))
    (∃ file, shown.place.Stages file (shown.press (.plain (.char 'a'))).place) ∧
      (∃ prompt, asking.press (.plain (.char 'q')) = { asking with prompt }) ∧
      (asking.after typingKeys).session.url = some "https://example.orgq" ∧
      (asking.after typingKeys).quit = false := by
  intro shown asking
  obtain ⟨hconfined, -⟩ := confined_press shown (.plain (.char 'a')) []
  obtain ⟨htyped, -, hurl, -⟩ := confined_press asking (.plain (.char 'q')) typingKeys
  refine ⟨?_, htyped.prompt (by decide +kernel) (by decide), ?_, by decide +kernel⟩
  · have hbefore : shown.session.bundle.names = [] := by decide +kernel
    have hafter : (shown.press (.plain (.char 'a'))).session.bundle.names = ["FakeFile.cs"] := by
      decide +kernel
    rcases hconfined.bundle with hsame | ⟨-, hstages⟩ | hopens
    · rw [hsame, hbefore] at hafter
      cases hafter
    · exact hstages
    · cases hopens.submits.code
  · have hrecorded : asking.recordedUrls typingKeys = ["https://example.orgq"] := by
      decide +kernel
    rw [hurl, hrecorded]
    rfl

end App

end RedactedBundle
