import RedactedBundle.Proofs.App.Scroll
import RedactedBundle.Proofs.App.Outcome
import RedactedBundle.Proofs.Session.Failures

/-!
# Keys that fail

Opening a folder sets all panels anew, and opening a file several of them. An action that fails
comes to none of this: all that it changes is the last line, and the prompt if it was submitted.

## Main statements

- `App.act_fails_iff`: when the action of a key fails
- `App.act_of_fails`: what it leaves behind then
- `App.press_of_fails`: what is seen of it in any reachable state of the view
-/

namespace RedactedBundle.App

section Keys

variable [TemplateEngine] {app : App} {key : Key} {op : Operation} {failure : Failure}

/-- The chosen row can be toggled in a coherent view, since a file is open then. -/
theorem Coherent.toggle_succeeds (h : app.Coherent) {row : OutlineRow}
    (hchosen : app.outline.chosen? = some row) :
    (app.place.run (.toggle row)).2 ≠ .error failure := by
  intro hfails
  have hclosed : (app.session.toggle row).current = none :=
    Session.current_eq_none_of_ifOpen hfails
  rw [← Option.not_isSome_iff_eq_none, Session.isSome_current_toggle,
    Option.not_isSome_iff_eq_none] at hclosed
  rw [h.chosen?_eq_none hclosed] at hchosen
  cases hchosen

/-- An operation of a key that fails leaves the session as it was. -/
theorem Coherent.run_of_performs (h : app.Coherent) (performs : app.Performs key op)
    (fails : (app.place.run op).2 = .error failure) : (app.place.run op).1 = app.place := by
  cases performs with
  | toggle plain focus code chosen => exact absurd fails (h.toggle_succeeds chosen)
  | _ => exact Workplace.run_eq_self_of_error (fun _ => rfl) fails

variable [PatternLanguage] [TomlReader]

/-- A key that is for an operation carries it out. -/
theorem act_of_performs (h : app.Performs key op) :
    ∃ next, app.act key = app.operate op next := by
  cases h with
  | stage plain code =>
    have hact : app.act key = app.stageShown := by rw [act_of_isPlain plain, code]; rfl
    exact ⟨_, hact⟩
  | save plain code =>
    have hact : app.act key = app.saveDocument := by rw [act_of_isPlain plain, code]; rfl
    exact ⟨_, hact⟩
  | copy plain code =>
    have hact : app.act key = app.copyDocument := by rw [act_of_isPlain plain, code]; rfl
    exact ⟨_, hact⟩
  | openFile plain focus code chosen =>
    have hpanel : app.actPlain key.code = app.actInPanel key.code := by
      rcases code with code | code | code <;> rw [code] <;> rfl
    have hfiles : app.actInFiles key.code = app.openChosen := by
      rcases code with code | code | code <;> rw [code] <;> rfl
    have hact : app.act key = app.openChosen := by
      rw [act_of_isPlain plain, hpanel, actInPanel, focus]
      exact hfiles
    rw [hact, openChosen, chosen]
    exact ⟨_, rfl⟩
  | toggle plain focus code chosen =>
    rw [act_of_toggles ⟨plain.prompt, plain.control, focus, code⟩, toggleChosen, chosen]
    exact ⟨_, rfl⟩

/-- The action of a key fails exactly if the operation fails that it carries out, or if the folder
that was asked for is refused or cannot be told. -/
theorem act_fails_iff :
    (app.act key).2 = some failure ↔
      (∃ op, app.Performs key op ∧ (app.place.run op).2 = .error failure) ∨
        app.Submits key .folder ∧ app.askedFolder.bind app.openFolder = .error failure := by
  constructor
  · intro hfails
    have houtcome := app.outcome_act key
    generalize app.act key = acted at hfails houtcome
    cases houtcome with
    | failed performs fails =>
      cases hfails
      exact .inl ⟨_, performs, fails⟩
    | folderRefused submits refused =>
      cases hfails
      exact .inr ⟨submits, refused⟩
    | _ => cases hfails
  · rintro (⟨op, performs, fails⟩ | ⟨submits, refused⟩)
    · obtain ⟨next, hact⟩ := act_of_performs performs
      rw [hact, app.operate_of_error (Prod.ext rfl fails)]
    · rw [act_of_submits submits, answer_folder_of_error refused]

/-- An action that fails in a coherent view has closed the prompt that was submitted, if any, and
has done nothing else. -/
theorem Coherent.act_of_fails (h : app.Coherent) (hfails : (app.act key).2 = some failure) :
    app.act key = ({ app with prompt := app.prompt.submitted }, some failure) ∧
      (app.prompt.isOpen → key.code = .enter) := by
  have houtcome := app.outcome_act key
  generalize app.act key = acted at hfails houtcome ⊢
  cases houtcome with
  | idle place quit => cases hfails
  | quits quits => cases hfails
  | performed performs succeeds place quit => cases hfails
  | failed performs fails =>
    cases hfails
    have hplain := performs.isPlain
    rw [submitted_of_isPlain hplain, h.run_of_performs performs fails]
    exact ⟨rfl, fun hopen => absurd hopen hplain.prompt⟩
  | folderOpened submits opens => cases hfails
  | folderRefused submits refused =>
    cases hfails
    rw [submitted_of_submits submits]
    exact ⟨rfl, fun _ => submits.code⟩
  | urlRecorded submits given place quit => cases hfails

/-- The reason of a failure is told in the last line. -/
theorem press_of_act_eq_some {next : App} (h : app.act key = (next, some failure)) :
    app.press key = next.report .error failure.message := by
  rw [press, h]

/-- After any events from the start of the view, a key fails exactly if the operation fails that it
carries out, or if the folder that was asked for is refused or cannot be told. All else stays as it
was then: the reason is told in the last line, and the prompt is closed if it was submitted. A
folder that is refused otherwise changes nothing at all. -/
theorem press_of_fails {treeOf : String → Except Failure Node} {host : Host} {fs : FileSystem}
    {clipboard : Clipboard} {root : Path} {settings : Settings}
    (h : startReading treeOf host fs clipboard root settings = .ok app) (events : List Event)
    (key : Key) :
    let now := app.after events
    (∀ failure, (now.act key).2 = some failure ↔
        (∃ op, now.Performs key op ∧ (now.place.run op).2 = .error failure) ∨
          now.Submits key .folder ∧ now.askedFolder.bind now.openFolder = .error failure) ∧
      (∀ failure, (now.act key).2 = some failure →
        now.press key =
            { now with
              prompt := now.prompt.submitted
              status := some ⟨.error, failure.message⟩ } ∧
          (now.prompt.isOpen → key.code = .enter)) ∧
      ∀ root failure, now.openFolder root = .error failure → now.step (.openFolder root) = now := by
  intro now
  have hcoherent : now.Coherent := (coherent_of_startReading_eq_ok h).after events
  refine ⟨fun failure => act_fails_iff, ?_, ?_⟩
  · intro failure hfails
    obtain ⟨hact, hprompt⟩ := hcoherent.act_of_fails hfails
    exact ⟨press_of_act_eq_some hact, hprompt⟩
  · intro root failure hrefused
    rw [step, hrefused]

end Keys

/-- The folder of the sample, in which nobody may read the file. -/
def lockedFiles : FileSystem :=
  { entries :=
      [([Utf8.encode "p".toList], .folder),
        ([Utf8.encode "p".toList, Utf8.encode "FakeFile.cs".toList], .locked 11)]
    working := [] }

/-- The file is opened and its method is hidden, and then the file is locked and asked for again. -/
def lockingKeys : List Event :=
  sampleKeys ++ [.outside lockedFiles default, .key (.plain (.char 'h'))]

/-- The file cannot be opened again, but it is still shown with its method hidden. -/
theorem press_of_fails_lockingKeys :
    startReading Workplace.sampleSession.treeOf sampleApp.host ⟨[], []⟩ default (.ofString "/p")
        Settings.unset = .ok sampleApp ∧
      ((sampleApp.after lockingKeys).act (.plain .enter)).2 =
        some (.access .source (.ofString "/p/FakeFile.cs") .denied) ∧
      (sampleApp.after lockingKeys).session.hidden.methods.names = ["F"] ∧
      (sampleApp.after lockingKeys).press (.plain .enter) =
        { sampleApp.after lockingKeys with
          status := some ⟨.error, "failed to read /p/FakeFile.cs: Permission denied (os error 13)"⟩ } := by
  have hstart : startReading Workplace.sampleSession.treeOf sampleApp.host ⟨[], []⟩ default
      (.ofString "/p") Settings.unset = .ok sampleApp := rfl
  have hfails : ((sampleApp.after lockingKeys).act (.plain .enter)).2 =
      some (.access .source (.ofString "/p/FakeFile.cs") .denied) := by decide +kernel
  have hprompt : (sampleApp.after lockingKeys).prompt.submitted =
      (sampleApp.after lockingKeys).prompt := by decide +kernel
  have hmessage : (Failure.access .source (.ofString "/p/FakeFile.cs") .denied).message =
      "failed to read /p/FakeFile.cs: Permission denied (os error 13)" := by decide +kernel
  obtain ⟨-, hpress, -⟩ := press_of_fails hstart lockingKeys (.plain .enter)
  refine ⟨hstart, hfails, by decide +kernel, ?_⟩
  rw [(hpress _ hfails).1, hprompt, hmessage]

end RedactedBundle.App
