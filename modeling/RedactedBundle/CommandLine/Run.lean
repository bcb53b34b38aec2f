import RedactedBundle.CommandLine.Basic
import RedactedBundle.Session.Basic
import RedactedBundle.Source.OutlineText

/-!
# Running commands

What the commands print and write. A command works step by step: it prints, writes and copies as
it goes, and what it did before a step that fails stays done.

## Main definitions

- `Surroundings`: what a command works on
- `Report`, `Job`: what a command has printed and written so far, and the steps of a command
- `redactFile`, `stageFolder`: what the commands read
- `Request.perform`, `Request.run`: running a command
-/

namespace RedactedBundle

/-- What a command works on. -/
structure Surroundings where
  environment : Environment
  files : FileSystem
  clipboard : Clipboard
  deriving Inhabited

/-- What a command has printed so far, and the files and the clipboard as it leaves them. -/
structure Report where
  output : String
  /-- A remark that is no part of the output. -/
  remark : Option String
  files : FileSystem
  clipboard : Clipboard
  deriving Inhabited

/-- The report of a command that only printed. -/
def Surroundings.printed (around : Surroundings) (output : String) : Report :=
  ⟨output, none, around.files, around.clipboard⟩

/-- Steps of a command, which go on from a report. A step that fails ends the command, with the
report as the steps before have left it. -/
abbrev Job (α : Type) := ExceptT Failure (StateM Report) α

namespace Job

/-- Prints a text behind what was printed before. -/
def print (text : String) : Job Unit :=
  modify fun report => { report with output := report.output ++ text }

/-- Remarks on something beside the output. -/
def remark (text : String) : Job Unit :=
  modify fun report => { report with remark := some text }

end Job

variable [PatternLanguage] [TomlReader] [TemplateEngine]

section Reading

variable (treeOf : String → Except Failure Node) (fs : FileSystem)

/-- The source in a file. -/
def readFile (file : Path) : Except Failure Source :=
  match fs.readSource file with
  | .ok text => (treeOf text).map (Source.ofNode text)
  | .error error => .error (.access .source file error)

/-- The folder that a file's settings come from. -/
def settingsFolder (file : Path) : Path :=
  match file.parent? with
  | some folder => if folder.isEmpty then .ofString "." else folder
  | none => .ofString "."

/-- A source as the command for redaction prints it. -/
def redactFile (environment : Environment) (config : Option Path) (file : Path)
    (classes methods : List String) : Except Failure String :=
  (Settings.load fs environment (settingsFolder file) config).bind fun settings =>
    (readFile treeOf fs file).map fun source =>
      source.redact settings.placeholders (Hidden.ofLists classes methods)

/-- Opens a file of a session and hides names in it, one after the other. -/
def openHiding (classes methods : List String) (session : Session) (name : String) :
    Except Failure Session :=
  (session.openFile fs name).bind fun session =>
    (classes.foldlM Session.hideClass session).bind (methods.foldlM Session.hideMethod)

/-- Stages a file of a session with names hidden in it, unless nothing of it is shown. -/
def stageHiding (classes methods : List String) (session : Session) (name : String) :
    Except Failure Session :=
  (openHiding fs classes methods session name).bind fun session =>
    if session.shown = "" then .ok session else session.stage

/-- Stages files of a session one after the other. -/
def stageAll (classes methods : List String) : List String → Session → Except Failure Session
  | [], session => .ok session
  | name :: rest, session =>
    (stageHiding fs classes methods session name).bind (stageAll classes methods rest)

/-- The names of the files that are asked for: all listed ones if none are named. -/
def Session.chosenNames (session : Session) (files : List String) : List String :=
  if files.isEmpty then session.listing.files.map SourceFile.name else files

/-- A folder's session with the named files staged, or all its files if none are named. -/
def stageFolder (environment : Environment) (config : Option Path) (folder : Path)
    (files classes methods : List String) : Except Failure Session :=
  (Settings.load fs environment folder config).bind fun settings =>
    (Session.startReading treeOf fs folder settings).bind fun session =>
      stageAll fs classes methods (session.chosenNames files) session

end Reading

/-- Prints the document of a session. -/
def printDocument (session : Session) : Job Unit := do
  let report ← get
  Job.print (← liftExcept (session.document report.files))

/-- Hands the document of a session to the clipboard. -/
def copyDocument (session : Session) : Job Unit := do
  let report ← get
  let copying ← liftExcept (session.copy report.files report.clipboard)
  set { report with files := copying.files, clipboard := copying.clipboard }
  match copying.outcome with
  | .copied => Job.print "Copied to clipboard\n"
  | .nothingStaged => Job.remark "clipboard unavailable"
  | .unavailable => Job.remark "clipboard unavailable"

/-- Saves the document of a session, and tells where. -/
def saveDocument (session : Session) : Job Unit := do
  let report ← get
  match ← liftExcept (session.save report.files) with
  | some files =>
    set { report with files }
    Job.print ("Saved " ++ toString session.bundle.size ++ " files to " ++
      session.outputPath.display ++ "\n")
  | none => pure ()

/-- Prints, copies or saves the document of a session. -/
def exportDocument (stdout copy : Bool) (session : Session) : Job Unit :=
  if session.bundle.isEmpty then Job.remark "Nothing staged"
  else if stdout then printDocument session
  else if copy then copyDocument session
  else saveDocument session

/-- The steps of a command that reads texts into trees in a given way, with a settings file named
on the command line or without. -/
def Request.perform (treeOf : String → Except Failure Node) (environment : Environment)
    (config : Option Path) : Request → Job Unit
  | .outline file json => do
    let source ← liftExcept (readFile treeOf (← get).files file)
    Job.print (if json then outlineJson source.outline else outlineText source.outline)
  | .redact file classes methods => do
    Job.print
      (← liftExcept (redactFile treeOf (← get).files environment config file classes methods))
  | .bundle folder files classes methods stdout copy => do
    let session ← liftExcept
      (stageFolder treeOf (← get).files environment config folder files classes methods)
    exportDocument stdout copy session
  | .completions _ => pure ()

/-- Runs a command from its start to its end: the report of one that succeeds, or why it failed. -/
def Request.run (around : Surroundings) (config : Option Path) (request : Request) :
    Except Failure Report :=
  let job := request.perform (fun text => .ok (Node.ofText text)) around.environment config
  match job.run (around.printed "") with
  | (.ok (), report) => .ok report
  | (.error failure, _) => .error failure

end RedactedBundle
