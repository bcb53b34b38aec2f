import RedactedBundle.App.Basic
import RedactedBundle.App.Key
import RedactedBundle.Text.Blank

/-!
# Pressing keys

What the keys do. An action that fails tells so in the last line.

## Main definitions

- `App.act`: the action of a key
- `App.press`: pressing a key
-/

namespace RedactedBundle.App

variable [PatternLanguage] [TomlReader] [TemplateEngine]

/-- The state after an action, and the reason if it failed. -/
abbrev Acted := App × Option Failure

/-- An action that cannot fail. -/
def done (app : App) : Acted := (app, none)

/-- Carries out an operation of the session; if it succeeds, `next` goes on with its response. -/
def operate (app : App) (operation : Operation) (next : App → Response → App) : Acted :=
  match app.place.run operation with
  | (place, .ok response) => done (next { app with place } response)
  -- Names that were to be hidden stay hidden even if the operation fails.
  | (place, .error failure) => ({ app with place }, some failure)

/-- Shows a file that was opened. -/
def showOpened (app : App) (file : OpenFile) : App :=
  { app with outline := .ofList file.outline, scroll := 0 }.refreshed

/-- Opens the chosen file, and goes on to its outline. -/
def openChosen (app : App) : Acted :=
  match app.files.names.chosen? with
  | none => done { app with focus := .outline }
  | some name =>
    app.operate (.openFile name) fun app response =>
      match response with
      | .opened file => { app.showOpened file with focus := .outline }
      | _ => app

/-- Hides what the chosen row of the outline stands for, or shows it again. -/
def toggleChosen (app : App) : Acted :=
  match app.outline.chosen? with
  | none => done app
  | some row => app.operate (.toggle row) fun app _ => app.refreshed

/-- Stages what is shown. -/
def stageShown (app : App) : Acted :=
  app.operate .stage fun app _ => app.report .info app.stagedText

/-- Saves the document. -/
def saveDocument (app : App) : Acted :=
  app.operate .save fun app response =>
    match response with
    | .saved (some _) => app.report .success "Saved to file"
    | _ => app.report .info "Nothing staged"

/-- Copies the document. A clipboard that refuses it is passed over in silence. -/
def copyDocument (app : App) : Acted :=
  app.operate .copy fun app response =>
    match response with
    | .copied .copied => app.report .success "Copied to clipboard"
    | .copied .nothingStaged => app.report .info "Nothing staged"
    | _ => app

/-- The number of lines of the preview that can be scrolled past: all but the last, up to a limit
of the terminal. -/
def lastLine (app : App) : Nat :=
  min ((app.preview.map Preview.lineCount).getD 0 - 1) 0xFFFF

/-- Scrolls down by some lines. -/
def scrollDown (app : App) (lines : Nat) : App :=
  { app with scroll := min (app.scroll + lines) app.lastLine }

/-- Scrolls up by some lines. -/
def scrollUp (app : App) (lines : Nat) : App := { app with scroll := app.scroll - lines }

/-- Uses a text that was asked for. -/
def answer (app : App) (kind : PromptKind) (input : String) : Acted :=
  let input := String.ofList (Text.trim input.toList)
  match kind with
  | .folder =>
    let root := if input = "" then app.place.files.workingFolder else .ok (.ofString input)
    match root.bind app.openFolder with
    | .ok app => done app
    | .error failure => (app, some failure)
  | .url =>
    if input = "" then done app
    else
      done ((app.setUrl input).report .info
        "GitHub URL recorded; only local folders can be opened")

/-- The action of a key in an open prompt. -/
def actInPrompt (app : App) (key : Key) : Acted :=
  match key.code with
  | .escape => done { app with prompt := .closed }
  | .enter =>
    let after := { app with prompt := app.prompt.submitted }
    match app.prompt.submit? with
    | some (kind, input) => after.answer kind input
    | none => done after
  | .backspace => done { app with prompt := app.prompt.dropLast }
  | .char c =>
    if key.control || key.alt then done app else done { app with prompt := app.prompt.push c }
  | _ => done app

/-- The action of a key in the panel of the files. -/
def actInFiles (app : App) : KeyCode → Acted
  | .char 'j' | .down => done { app with files.names := app.files.names.next }
  | .char 'k' | .up => done { app with files.names := app.files.names.previous }
  | .char 'l' | .enter | .right => app.openChosen
  | _ => done app

/-- The action of a key in the panel of the outline. -/
def actInOutline (app : App) : KeyCode → Acted
  | .char 'j' | .down => done { app with outline := app.outline.next }
  | .char 'k' | .up => done { app with outline := app.outline.previous }
  | .char ' ' | .enter => app.toggleChosen
  | .char 'h' | .left => done { app with focus := .files }
  | _ => done app

/-- The action of a key in the panel of the preview. -/
def actInPreview (app : App) : KeyCode → Acted
  | .char 'j' | .down => done (app.scrollDown 1)
  | .char 'k' | .up => done (app.scrollUp 1)
  | .pageDown => done (app.scrollDown 20)
  | .pageUp => done (app.scrollUp 20)
  | .home => done { app with scroll := 0 }
  | _ => done app

/-- The action of a key in the panel that has the focus. -/
def actInPanel (app : App) (code : KeyCode) : Acted :=
  match app.focus with
  | .files => app.actInFiles code
  | .outline => app.actInOutline code
  | .preview => app.actInPreview code

/-- The action of a key that is held down with control: leaving, or nothing. -/
def actWithControl (app : App) : KeyCode → Acted
  | .char 'c' | .char 'q' => done { app with quit := true }
  | _ => done app

/-- The action of a key without control while no prompt is open. -/
def actPlain (app : App) : KeyCode → Acted
  | .char 'q' | .escape => done { app with quit := true }
  | .tab => done { app with focus := app.focus.next }
  | .backTab => done { app with focus := app.focus.previous }
  | .char 'a' => app.stageShown
  | .char 's' => app.saveDocument
  | .char 'y' => app.copyDocument
  | .char 'o' => done { app with prompt := .ask .folder app.session.listing.root.display }
  | .char 'g' => done { app with prompt := .ask .url (app.session.url.getD "") }
  | code => app.actInPanel code

/-- The action of a key. -/
def act (app : App) (key : Key) : Acted :=
  if app.prompt.isOpen then app.actInPrompt key
  else if key.control then app.actWithControl key.code
  else app.actPlain key.code

/-- Presses a key. The reason of a failure is told in the last line. -/
def press (app : App) (key : Key) : App :=
  match app.act key with
  | (app, none) => app
  | (app, some failure) => app.report .error failure.message

end RedactedBundle.App
