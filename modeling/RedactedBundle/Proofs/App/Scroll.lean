import RedactedBundle.Proofs.App.Coherence
import RedactedBundle.Proofs.Preview

/-!
# How far the preview is scrolled

Scrolling down stops at the last line of the preview, and what opens a file or a folder goes back to
the first line. Toggling a row makes the preview anew and leaves the scrolling as it is, although
the new preview may have fewer lines. So the preview is scrolled past its last line only by toggling
a row.

## Main definitions

- `App.lineCount`: the number of lines of the preview
- `App.InText`: the last line of the preview is not scrolled past

## Main statements

- `App.InText.change`: an event that toggles no row does not scroll past the last line
- `App.forall_inText_iff`: when a run never scrolls past the last line
- `App.not_inText_collapsingKeys`: a run that does
-/

namespace RedactedBundle

namespace App

/-- The number of lines of the preview; none if there is no preview. -/
def lineCount (app : App) : Nat := (app.preview.map Preview.lineCount).getD 0

/-- Not all lines of the preview are scrolled past, and nothing is without any. -/
def InText (app : App) : Prop := app.scroll ≤ app.lineCount - 1

instance (app : App) : (event : Event) → Decidable (app.Toggles event)
  | .key key =>
    inferInstanceAs (Decidable (¬ app.prompt.isOpen ∧ ¬ key.control ∧ app.focus = .outline ∧
      (key.code = .char ' ' ∨ key.code = .enter)))
  | .setUrl _ | .openFolder _ | .outside _ _ => inferInstanceAs (Decidable False)

variable {app app' : App} {toggles : Prop} {event : Event}

theorem lastLine_le (app : App) : app.lastLine ≤ app.lineCount - 1 := Nat.min_le_left _ _

/-- The preview has the lines of the text that is shown. -/
theorem Coherent.lineCount_eq (h : app.Coherent) :
    app.lineCount = (Text.lines app.session.shown.toList).length := by
  rw [lineCount, Session.shown]
  cases hcurrent : app.session.current with
  | none =>
    rw [(h.of_not_open hcurrent).2.1]
    rfl
  | some file =>
    rw [(h.of_open file hcurrent).2]
    exact Preview.lineCount_ofText _ _ _ _ _

/-! ## One event -/

theorem InText.sameContent (h : app.InText) (same : app.SameContent app') : app'.InText := by
  have hcount : app'.lineCount = app.lineCount := by rw [lineCount, lineCount, same.preview_eq]
  have hlast := app.lastLine_le
  have hscroll := same.scroll_le
  rw [InText] at h ⊢
  omega

/-- An event that toggles no row does not scroll past the last line. -/
theorem InText.change [PatternLanguage] (h : app.InText) (hchange : app.Change toggles app')
    (hnot : ¬ toggles) :
    app'.InText := by
  induction hchange with
  | none app => exact h
  | fileChosen names move => exact h
  | rowChosen outline move => exact h
  | opened opens current => exact Nat.zero_le _
  | toggled meant chosen current => exact absurd meant hnot
  | toggledUnseen meant chosen current => exact absurd meant hnot
  | folder starts url => exact Nat.zero_le _
  | before same change ih => exact ih (h.sameContent same)
  | behind change same ih => exact (ih h).sameContent same

/-- Without a preview nothing is scrolled past, whatever an event does. -/
theorem scroll_eq_zero_of_change [PatternLanguage] (h : app.preview = none → app.scroll = 0)
    (hchange : app.Change toggles app') : app'.preview = none → app'.scroll = 0 := by
  have hsame {app app' : App} (h : app.preview = none → app.scroll = 0)
      (same : app.SameContent app') : app'.preview = none → app'.scroll = 0 := by
    intro hnone
    rw [same.preview_eq] at hnone
    have hlast : app.lastLine = 0 := by rw [lastLine, hnone]; rfl
    have hscroll := h hnone
    have hbound := same.scroll_le
    omega
  induction hchange with
  | none app => exact h
  | fileChosen names move => exact h
  | rowChosen outline move => exact h
  | opened opens current => exact fun _ => rfl
  | @toggled app row meant chosen current =>
    -- A preview is made of the file that is open.
    intro hnone
    have hclosed : (app.session.toggle row).current = none := Option.map_eq_none_iff.mp hnone
    rw [← Option.not_isSome_iff_eq_none, Session.isSome_current_toggle] at hclosed
    exact absurd (Option.isSome_iff_ne_none.mpr current) hclosed
  | toggledUnseen meant chosen current => exact h
  | folder starts url => exact fun _ => rfl
  | before same change ih => exact ih (hsame h same)
  | behind change same ih => exact hsame (ih h) same

theorem scroll_toggleChosen [TemplateEngine] (app : App) :
    app.toggleChosen.1.scroll = app.scroll := by
  rw [toggleChosen]
  cases app.outline.chosen? with
  | none => rfl
  | some row =>
    by_cases hcurrent : app.session.current = none
    · simp only [app.operate_toggle_of_not_open row hcurrent]
      rfl
    · obtain ⟨response, hoperate⟩ :=
        app.operate_toggle_of_open row hcurrent fun app _ => app.refreshed
      simp only [hoperate]
      rfl

section Events

variable [PatternLanguage] [TomlReader] [TemplateEngine]

theorem act_of_toggles {key : Key} (h : app.Toggles (.key key)) :
    app.act key = app.toggleChosen := by
  obtain ⟨hprompt, hcontrol, hfocus, hcode⟩ := h
  have hpanel : app.actPlain key.code = app.actInPanel key.code := by
    rcases hcode with hcode | hcode <;> rw [hcode] <;> rfl
  have houtline : app.actInOutline key.code = app.toggleChosen := by
    rcases hcode with hcode | hcode <;> rw [hcode] <;> rfl
  rw [act, if_neg hprompt, if_neg hcontrol, hpanel, actInPanel, hfocus]
  exact houtline

/-- Toggling a row leaves the scrolling as it is. -/
theorem scroll_step_of_toggles (h : app.Toggles event) : (app.step event).scroll = app.scroll := by
  cases event with
  | key key => rw [step, press_eq, act_of_toggles h, scroll_toggleChosen]
  | setUrl url => cases h
  | openFolder root => cases h
  | outside files clipboard => cases h

/-! ## Runs -/

theorem after_take_succ (app : App) {events : List Event} {n : Nat} (hn : n < events.length) :
    app.after (events.take (n + 1)) = (app.after (events.take n)).step events[n] := by
  rw [List.take_succ_eq_append_getElem hn, after, List.foldl_append]
  rfl

/-- The last line of the preview, which has the lines of the text that is shown, is not scrolled
past during a run exactly if no toggled row makes the preview end before what is scrolled past.
Without a preview nothing is scrolled past. -/
theorem forall_inText_iff {treeOf : String → Except Failure Node} {host : Host} {fs : FileSystem}
    {clipboard : Clipboard} {root : Path} {settings : Settings}
    (h : startReading treeOf host fs clipboard root settings = .ok app) (events : List Event) :
    (app.after events).lineCount =
        (Text.lines (app.after events).session.shown.toList).length ∧
      ((app.after events).preview = none → (app.after events).scroll = 0) ∧
      ((∀ n, (app.after (events.take n)).InText) ↔
        ∀ n (hn : n < events.length), (app.after (events.take n)).Toggles events[n] →
          (app.after (events.take n)).scroll ≤
            ((app.after (events.take n)).step events[n]).lineCount - 1) := by
  have hcoherent := coherent_of_startReading_eq_ok h
  have hscroll : app.scroll = 0 := by
    rw [startReading] at h
    cases hsession : Session.startReading treeOf fs root settings with
    | error failure => rw [hsession] at h; cases h
    | ok session => rw [hsession] at h; cases h; rfl
  refine ⟨(hcoherent.after events).lineCount_eq, ?_, ?_⟩
  · exact after_induction (P := fun now => now.preview = none → now.scroll = 0)
      (fun now event hnow => scroll_eq_zero_of_change hnow (now.change_step event))
      (fun _ => hscroll) events
  constructor
  · intro hall n hn htoggles
    have hnext := hall (n + 1)
    rwa [after_take_succ app hn, InText, scroll_step_of_toggles htoggles] at hnext
  · intro htoggled n
    induction n with
    | zero => exact Nat.le_trans (Nat.le_of_eq hscroll) (Nat.zero_le _)
    | succ n ih =>
      by_cases hn : n < events.length
      · rw [after_take_succ app hn]
        by_cases htoggles : (app.after (events.take n)).Toggles events[n]
        · rw [InText, scroll_step_of_toggles htoggles]
          exact htoggled n hn htoggles
        · exact ih.change (change_step _ _) htoggles
      · rwa [List.take_of_length_le (by omega), ← List.take_of_length_le (Nat.not_lt.mp hn)]

end Events

/-! ## A class of several lines -/

/-- A text of nine lines. -/
def tallText : String :=
  "class A\n\x7b\n    void F()\n    \x7b\n" ++
    "        x();\n        y();\n        z();\n    \x7d\n\x7d\n"

/-- A folder with a source file of that text. -/
def tallFiles : FileSystem :=
  { entries :=
      [([Utf8.encode "p".toList], .folder),
        ([Utf8.encode "p".toList, Utf8.encode "FakeFile.cs".toList],
          .file (Utf8.encode tallText.toList) false)]
    working := [] }

/-- The file is opened and scrolled down by two lines, and its method is hidden. -/
def hidingKeys : List Event :=
  [.outside tallFiles default, .key (.plain .enter), .key (.plain .tab), .key (.plain .down),
    .key (.plain .down), .key (.plain .backTab), .key (.plain .down), .key (.plain (.char ' '))]

/-- With the method hidden, the file has more lines than were scrolled past. -/
theorem forall_inText_iff_hidingKeys :
    startReading Workplace.sampleSession.treeOf sampleApp.host ⟨[], []⟩ default (.ofString "/p")
        Settings.unset = .ok sampleApp ∧
      (sampleApp.after hidingKeys).scroll = 2 ∧
      (sampleApp.after hidingKeys).session.hidden.methods.names = ["F"] ∧
      ∀ n, (sampleApp.after (hidingKeys.take n)).InText := by
  have hstart : startReading Workplace.sampleSession.treeOf sampleApp.host ⟨[], []⟩ default
      (.ofString "/p") Settings.unset = .ok sampleApp := rfl
  refine ⟨hstart, by decide +kernel, by decide +kernel, ?_⟩
  exact (forall_inText_iff hstart hidingKeys).2.2.mpr (by decide +kernel)

/-- The file is opened and scrolled down to its last line, and its class is hidden. -/
def collapsingKeys : List Event :=
  [.outside tallFiles default, .key (.plain .enter), .key (.plain .tab), .key (.plain .pageDown),
    .key (.plain .backTab), .key (.plain (.char ' '))]

/-- With the class hidden, the file has fewer lines than were scrolled past. -/
theorem not_inText_collapsingKeys :
    startReading Workplace.sampleSession.treeOf sampleApp.host ⟨[], []⟩ default (.ofString "/p")
        Settings.unset = .ok sampleApp ∧
      (sampleApp.after collapsingKeys).session.shown =
        "class A\n\x7b\n    /* whole class collapsed */\n\x7d\n" ∧
      (sampleApp.after collapsingKeys).scroll = 8 ∧
      (sampleApp.after collapsingKeys).lineCount = 4 ∧
      ¬ (sampleApp.after collapsingKeys).InText := by
  have hstart : startReading Workplace.sampleSession.treeOf sampleApp.host ⟨[], []⟩ default
      (.ofString "/p") Settings.unset = .ok sampleApp := rfl
  have hshown : (sampleApp.after collapsingKeys).session.shown =
      "class A\n\x7b\n    /* whole class collapsed */\n\x7d\n" := by decide +kernel
  have hscroll : (sampleApp.after collapsingKeys).scroll = 8 := by decide +kernel
  have hcount : (sampleApp.after collapsingKeys).lineCount = 4 := by
    rw [((coherent_of_startReading_eq_ok hstart).after collapsingKeys).lineCount_eq, hshown]
    decide
  refine ⟨hstart, hshown, hscroll, hcount, ?_⟩
  rw [InText, hscroll, hcount]
  decide

end App

end RedactedBundle
