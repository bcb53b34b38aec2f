import RedactedBundle.Proofs.App.Run

/-!
# The panels of the view agree with its session

The file list, the outline and the preview are copies of what a session holds, which the actions of
the view renew one by one, and some actions fail on the way or replace the whole session. Through a
whole run the copies stay those of the session, the chosen rows exist, and only names with a row in
the outline are hidden.

## Main definitions

- `Session.HidesRowsOf`: all hidden names are those of some rows
- `App.Coherent`: the panels agree with the session

## Main statements

- `App.Coherent.change`: a change of the content keeps the view coherent
- `App.coherent_after_events`: any run from the start of the view leads to one that is coherent, and
  in which toggling the chosen row does not fail
-/

namespace RedactedBundle

namespace Session

/-- Every hidden class has a row among the given ones, and so has every hidden method. -/
structure HidesRowsOf (session : Session) (rows : List OutlineRow) : Prop where
  classes : ∀ name ∈ session.hidden.classes, ∃ kind depth, .class name kind depth ∈ rows
  methods : ∀ name ∈ session.hidden.methods, ∃ returnType owner,
    .method name returnType owner ∈ rows

theorem hidesRowsOf_of_hidden_eq_empty {session : Session} (h : session.hidden = Hidden.empty)
    (rows : List OutlineRow) : session.HidesRowsOf rows := by
  constructor
  · intro name hname
    rw [h] at hname
    exact absurd hname NameSet.not_mem_empty
  · intro name hname
    rw [h] at hname
    exact absurd hname NameSet.not_mem_empty

/-- Toggling one of the rows hides no name without a row. -/
theorem HidesRowsOf.toggle {session : Session} {rows : List OutlineRow}
    (h : session.HidesRowsOf rows) {row : OutlineRow} (hrow : row ∈ rows) :
    (session.toggle row).HidesRowsOf rows := by
  cases row with
  | «class» name kind depth =>
    constructor
    · intro other hother
      change other ∈ (session.hidden.setClass name _).classes at hother
      by_cases heq : other = name
      · subst heq
        exact ⟨kind, depth, hrow⟩
      · rw [Hidden.mem_classes_setClass, if_neg heq] at hother
        exact h.classes other hother
    · intro other hother
      exact h.methods other hother
  | method name returnType owner =>
    constructor
    · intro other hother
      exact h.classes other hother
    · intro other hother
      change other ∈ (session.hidden.setMethod name _).methods at hother
      by_cases heq : other = name
      · subst heq
        exact ⟨returnType, owner, hrow⟩
      · rw [Hidden.mem_methods_setMethod, if_neg heq] at hother
        exact h.methods other hother

theorem Coherent.showsAlike {session session' : Session} (h : session.Coherent)
    (halike : session.ShowsAlike session') : session'.Coherent := by
  intro file hfile
  rw [halike.listing_eq, halike.placeholders_eq, halike.hidden_eq]
  exact h file (halike.current_eq ▸ hfile)

theorem Coherent.toggle {session : Session} (h : session.Coherent) (row : OutlineRow) :
    (session.toggle row).Coherent := by
  cases row <;> exact h.withHidden _

/-- A toggled row leaves a file open that is open, with its outline. -/
theorem exists_current_toggle {session : Session} {file : OpenFile}
    (h : session.current = some file) (row : OutlineRow) :
    ∃ file', (session.toggle row).current = some file' ∧ file'.outline = file.outline := by
  cases row <;> simp [Session.toggle, setClass, setMethod, withHidden, h]

end Session

namespace App

/-- The preview of an open file: what is shown of it, in the theme of the settings, with a note if
anything is hidden. -/
def previewOf (app : App) (file : OpenFile) : Preview :=
  .ofText app.host.segmenter app.settings.theme file.name file.shown (!app.session.hidden.isEmpty)

/-- The panels show what the session holds. -/
structure Coherent (app : App) : Prop where
  session : app.session.Coherent
  theme_eq : app.previewTheme = app.settings.theme
  names_eq : app.files.names.items = app.session.listing.files.map SourceFile.name
  names_inRange : app.files.names.InRange
  outline_inRange : app.outline.InRange
  of_not_open : app.session.current = none →
    app.outline.items = [] ∧ app.preview = none ∧ app.session.hidden = Hidden.empty
  of_open : ∀ file, app.session.current = some file →
    app.outline.items = file.outline ∧ app.preview = some (app.previewOf file)
  hidesRows : app.session.HidesRowsOf app.outline.items

theorem Coherent.sameContent {app app' : App} (h : app.Coherent) (same : app.SameContent app') :
    app'.Coherent where
  session := h.session.showsAlike same.session
  theme_eq := by rw [same.previewTheme_eq, same.settings_eq, h.theme_eq]
  names_eq := by rw [same.files_eq, same.session.listing_eq, h.names_eq]
  names_inRange := by
    rw [same.files_eq]
    exact h.names_inRange
  outline_inRange := by
    rw [same.outline_eq]
    exact h.outline_inRange
  of_not_open := by
    rw [same.session.current_eq, same.outline_eq, same.preview_eq, same.session.hidden_eq]
    exact h.of_not_open
  of_open := by
    intro file hfile
    rw [same.session.current_eq] at hfile
    rw [previewOf, same.host_eq, same.settings_eq, same.session.hidden_eq, same.outline_eq,
      same.preview_eq]
    exact h.of_open file hfile
  hidesRows := by
    have hrows := h.hidesRows
    constructor
    · rw [same.session.hidden_eq, same.outline_eq]
      exact hrows.classes
    · rw [same.session.hidden_eq, same.outline_eq]
      exact hrows.methods

/-- A view that has just gone to the session of a folder, with nothing open, is coherent. -/
theorem coherent_of_fresh {app : App} (hcurrent : app.session.current = none)
    (hhidden : app.session.hidden = Hidden.empty) (htheme : app.previewTheme = app.settings.theme)
    (hfiles : app.files = .ofListing app.session.listing) (houtline : app.outline = .ofList [])
    (hpreview : app.preview = none) : app.Coherent where
  session := Session.coherent_of_current_eq_none hcurrent
  theme_eq := htheme
  names_eq := by rw [hfiles]; rfl
  names_inRange := by rw [hfiles]; exact Picker.inRange_ofList _
  outline_inRange := by rw [houtline]; exact Picker.inRange_ofList _
  of_not_open := fun _ => ⟨by rw [houtline]; rfl, hpreview, hhidden⟩
  of_open := by
    intro file hfile
    rw [hcurrent] at hfile
    cases hfile
  hidesRows := Session.hidesRowsOf_of_hidden_eq_empty hhidden _

theorem preview_refreshed {app : App} (h : app.previewTheme = app.settings.theme) :
    app.refreshed.preview = app.session.current.map app.refreshed.previewOf := by
  simp only [refreshed, h]
  rfl

/-- Making the preview anew for an open file makes the view coherent if nothing else is missing. -/
theorem coherent_refreshed {app : App} (hsession : app.session.Coherent)
    (htheme : app.previewTheme = app.settings.theme)
    (hnames : app.files.names.items = app.session.listing.files.map SourceFile.name)
    (hnamesIn : app.files.names.InRange) (houtlineIn : app.outline.InRange) {file : OpenFile}
    (hcurrent : app.session.current = some file) (houtline : app.outline.items = file.outline)
    (hrows : app.session.HidesRowsOf app.outline.items) : app.refreshed.Coherent where
  session := hsession
  theme_eq := htheme
  names_eq := hnames
  names_inRange := hnamesIn
  outline_inRange := houtlineIn
  of_not_open := by
    intro hnone
    cases hcurrent.symm.trans hnone
  of_open := by
    intro other hother
    cases hcurrent.symm.trans hother
    refine ⟨houtline, ?_⟩
    rw [preview_refreshed htheme, hcurrent]
    rfl
  hidesRows := hrows

/-- A file that is opened is shown in all panels, with nothing hidden. -/
theorem Coherent.opened {app : App} (h : app.Coherent) {name : String} {session : Session}
    {file : OpenFile} (opens : app.session.openFile app.place.files name = .ok session)
    (hcurrent : session.current = some file) :
    (app.opening session file).refreshed.Coherent := by
  have hchange := Session.change_openFile opens
  obtain ⟨_, _, _, _, _, _, hsession⟩ := Session.openFile_eq_ok_iff.mp opens
  have hhidden : session.hidden = Hidden.empty := by rw [hsession]
  refine coherent_refreshed (h.session.change hchange) h.theme_eq ?_ h.names_inRange
    (Picker.inRange_ofList _) hcurrent rfl (Session.hidesRowsOf_of_hidden_eq_empty hhidden _)
  change app.files.names.items = session.listing.files.map SourceFile.name
  rw [h.names_eq, hchange.sameFolder.listing_eq]

/-- Toggling the chosen row of the outline is seen in the preview. -/
theorem Coherent.toggled {app : App} (h : app.Coherent) {row : OutlineRow}
    (hchosen : app.outline.chosen? = some row) (hcurrent : app.session.current ≠ none) :
    (app.toggling row).refreshed.Coherent := by
  have hrow : row ∈ app.outline.items := List.mem_of_getElem? hchosen
  obtain ⟨file, hfile⟩ := Option.ne_none_iff_exists'.mp hcurrent
  obtain ⟨file', hfile', houtline⟩ := Session.exists_current_toggle hfile row
  refine coherent_refreshed (h.session.toggle row) h.theme_eq ?_ h.names_inRange h.outline_inRange
    hfile' ?_ (h.hidesRows.toggle hrow)
  · exact h.names_eq.trans (by cases row <;> rfl)
  · exact (h.of_open file hfile).1.trans houtline.symm

/-- Which row of the outline is chosen has no part in the agreement. -/
theorem Coherent.withOutline {app : App} (h : app.Coherent) {outline : Picker OutlineRow}
    (hitems : outline.items = app.outline.items) (hrange : outline.InRange) :
    { app with outline }.Coherent where
  session := h.session
  theme_eq := h.theme_eq
  names_eq := h.names_eq
  names_inRange := h.names_inRange
  outline_inRange := hrange
  of_not_open := by
    simp only [hitems]
    exact h.of_not_open
  of_open := by
    simp only [hitems]
    exact h.of_open
  hidesRows := by
    simp only [hitems]
    exact h.hidesRows

/-- No row can be chosen in a coherent view without an open file. -/
theorem Coherent.chosen?_eq_none {app : App} (h : app.Coherent)
    (hcurrent : app.session.current = none) : app.outline.chosen? = none := by
  rw [Picker.chosen?, (h.of_not_open hcurrent).1]
  rfl

/-- Every change of the content keeps the view coherent. -/
theorem Coherent.change [PatternLanguage] {toggles : Prop} {app app' : App} (h : app.Coherent)
    (hchange : app.Change toggles app') : app'.Coherent := by
  induction hchange with
  | none app => exact h
  | fileChosen names move =>
    rcases move with rfl | rfl
    · exact
        { h with
          names_eq := (Picker.items_next _).trans h.names_eq
          names_inRange := h.names_inRange.next }
    · exact
        { h with
          names_eq := (Picker.items_previous _).trans h.names_eq
          names_inRange := h.names_inRange.previous }
  | rowChosen outline move =>
    rcases move with rfl | rfl
    · exact h.withOutline (Picker.items_next _) h.outline_inRange.next
    · exact h.withOutline (Picker.items_previous _) h.outline_inRange.previous
  | opened opens current => exact h.opened opens current
  | toggled meant chosen current => exact h.toggled chosen current
  | toggledUnseen meant chosen current =>
    -- Without an open file the outline is empty.
    rw [h.chosen?_eq_none current] at chosen
    cases chosen
  | folder starts url =>
    have hstart := Session.isStart_of_startReading_eq_ok starts
    exact coherent_of_fresh hstart.current_eq hstart.hidden_eq rfl rfl rfl rfl
  | before same change ih => exact ih (h.sameContent same)
  | behind change same ih => exact (ih h).sameContent same

theorem Coherent.step [PatternLanguage] [TomlReader] [TemplateEngine] {app : App} (h : app.Coherent)
    (event : Event) : (app.step event).Coherent :=
  h.change (app.change_step event)

theorem Coherent.after [PatternLanguage] [TomlReader] [TemplateEngine] {app : App}
    (h : app.Coherent) (events : List Event) :
    (app.after events).Coherent :=
  after_induction (fun _ event hnow => hnow.step event) h events

/-- The view is coherent at its start. -/
theorem coherent_of_startReading_eq_ok [PatternLanguage] {treeOf : String → Except Failure Node}
    {host : Host} {fs : FileSystem} {clipboard : Clipboard} {root : Path} {settings : Settings}
    {app : App} (h : startReading treeOf host fs clipboard root settings = .ok app) :
    app.Coherent := by
  rw [startReading] at h
  cases hsession : Session.startReading treeOf fs root settings with
  | error failure =>
    rw [hsession] at h
    cases h
  | ok session =>
    rw [hsession] at h
    cases h
    have hstart := Session.isStart_of_startReading_eq_ok hsession
    exact coherent_of_fresh hstart.current_eq hstart.hidden_eq rfl rfl rfl rfl

/-- Toggling the chosen row of a coherent view does not fail. -/
theorem Coherent.toggleChosen_succeeds [TemplateEngine] {app : App} (h : app.Coherent) :
    app.toggleChosen.2 = none := by
  rw [toggleChosen]
  cases hchosen : app.outline.chosen? with
  | none => rfl
  | some row =>
    have hcurrent : app.session.current ≠ none := by
      intro hnone
      rw [h.chosen?_eq_none hnone] at hchosen
      cases hchosen
    obtain ⟨response, hoperate⟩ :=
      app.operate_toggle_of_open row hcurrent fun app _ => app.refreshed
    simp only [hoperate]
    rfl

/-- After any events from the start of the view, its panels agree with its session: the file list
holds the names of the listing, chosen positions exist, the outline and the preview are those of the
open file, or empty without one, and only names with a row are hidden. So the chosen row can be
toggled. -/
theorem coherent_after_events [PatternLanguage] [TomlReader] [TemplateEngine]
    {treeOf : String → Except Failure Node} {host : Host} {fs : FileSystem} {clipboard : Clipboard}
    {root : Path} {settings : Settings} {app : App}
    (h : startReading treeOf host fs clipboard root settings = .ok app) (events : List Event) :
    (app.after events).Coherent ∧ (app.after events).toggleChosen.2 = none := by
  have hafter := (coherent_of_startReading_eq_ok h).after events
  exact ⟨hafter, hafter.toggleChosen_succeeds⟩

/-- The view of a folder that is missing. -/
def sampleApp : App :=
  { host := ⟨⟨none, none, none⟩, .whole, none⟩
    settings := Settings.unset
    place := ⟨Workplace.sampleSession, ⟨[], []⟩, default⟩
    previewTheme := Settings.unset.theme
    preview := none
    scroll := 0
    files := .ofListing Workplace.sampleSession.listing
    outline := .ofList []
    prompt := .closed
    status := none
    focus := .files
    quit := false }

/-- The folder is made while the view is open; its file is opened and its method is hidden. -/
def sampleKeys : List Event :=
  [.setUrl "https://example.org", .outside Workplace.sampleFiles default, .key (.plain .enter),
    .key (.plain .down), .key (.plain (.char ' '))]

/-- The hidden method is a row of the outline, which can be shown again. -/
theorem coherent_after_events_sampleKeys :
    startReading Workplace.sampleSession.treeOf sampleApp.host ⟨[], []⟩ default (.ofString "/p")
        Settings.unset = .ok sampleApp ∧
      (sampleApp.after sampleKeys).session.hidden.methods.names = ["F"] ∧
      (sampleApp.after sampleKeys).outline.items =
        [.class "A" .plain 0, .method "F" "void" "A"] ∧
      (sampleApp.after sampleKeys).Coherent ∧
      (sampleApp.after sampleKeys).toggleChosen.2 = none := by
  have hstart : startReading Workplace.sampleSession.treeOf sampleApp.host ⟨[], []⟩ default
      (.ofString "/p") Settings.unset = .ok sampleApp := rfl
  obtain ⟨hcoherent, htoggle⟩ := coherent_after_events hstart sampleKeys
  exact ⟨hstart, by decide +kernel, by decide +kernel, hcoherent, htoggle⟩

end App

end RedactedBundle
