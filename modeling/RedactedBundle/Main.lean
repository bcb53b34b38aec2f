import RedactedBundle.App.Draw
import RedactedBundle.App.Press
import RedactedBundle.CommandLine.Run

/-!
# The program

Reads the files that a command line is about, runs it over them, and writes what changed. The
interactive view is drawn as text, and each line that is read is typed into it as keys.

## Main definitions

- `main`: the program
-/

namespace RedactedBundle.Program

/-- The location that a path leads to, where two dots lead to the folder above. -/
def locate (fs : FileSystem) (path : Path) : Location :=
  path.steps.foldl
    (fun place name =>
      if name = [] || name = [FileName.dot] then place
      else if name = [FileName.dot, FileName.dot] then place.dropLast
      else place ++ [name])
    (if path.isAbsolute then [] else fs.working)

/-- Puts the bytes of a file, if it can be read, at the location of its path. -/
def loadFile (path : Path) (fs : FileSystem) : IO FileSystem := do
  try
    let bytes ← IO.FS.readBinFile path.display
    let place := locate fs path
    return (fs.withFolders place.dropLast).put place (.file bytes.toList false)
  catch _ => return fs

/-- Puts a folder, if it can be read, and the files in it at the location of its path. -/
def loadFolder (path : Path) (fs : FileSystem) : IO FileSystem := do
  try
    let here ← IO.currentDir
    let entries ← (here / path.display).readDir
    let mut fs := fs.withFolders (locate fs path)
    for entry in entries do
      if (← entry.path.symlinkMetadata).type == .file then
        fs ← loadFile (path.join (.ofString entry.fileName)) fs
    return fs
  catch _ => return fs

/-- Puts the settings files for a folder, and the template that they name, into a file system. -/
def loadSettings (environment : Environment) (named : Option Path) (folder : Path)
    (fs : FileSystem) : IO FileSystem := do
  let mut fs := fs
  for path in (Settings.userFile? environment).toList ++ [Settings.folderFile folder] ++
      named.toList do
    fs ← loadFile path fs
  match Settings.load fs environment folder named with
  | .ok settings => loadFile (.ofString settings.template) fs
  | .error _ => return fs

/-- Puts all that a folder's session needs into a file system. -/
def loadSession (environment : Environment) (named : Option Path) (folder : Path)
    (fs : FileSystem) : IO FileSystem := do
  loadSettings environment named folder (← loadFolder folder fs)

/-- Writes the files that differ. -/
def writeChanges (before after : FileSystem) : IO Unit := do
  for (place, entry) in after.entries do
    match entry with
    | .file bytes _ =>
      if before.entryAt? place ≠ some entry then
        let path : Path := ⟨place.flatMap fun name => FileName.slash :: name⟩
        IO.FS.writeBinFile path.display (ByteArray.mk bytes.toArray)
    | _ => pure ()

/-- The environment of the program. -/
def readEnvironment : IO Environment := do
  let userFolder ← match ← IO.getEnv "XDG_CONFIG_HOME" with
    | some folder => pure (some (Path.ofString folder))
    | none =>
      pure ((← IO.getEnv "HOME").map fun home => (Path.ofString home).join (.ofString ".config"))
  return {
    userFolder
    outputFile := ← IO.getEnv "CAPSULE_OUTPUT_FILE"
    theme := ← IO.getEnv "CAPSULE_THEME" }

/-- The file system with nothing but the working folder. -/
def workingFiles : IO FileSystem := do
  let here ← IO.currentDir
  let path := Path.ofString (toString here)
  return .emptyAt path.steps

/-- Puts what a command is about into a file system. -/
def loadRequest (environment : Environment) (named : Option Path) (fs : FileSystem) :
    Request → IO FileSystem
  | .outline file _ => loadFile file fs
  | .redact file _ _ => do
    loadSettings environment named (settingsFolder file) (← loadFile file fs)
  | .bundle folder _ _ _ _ _ => loadSession environment named folder fs
  | .completions _ => return fs

/-- Runs a command. -/
def runRequest (environment : Environment) (named : Option Path) (request : Request) :
    IO UInt32 := do
  let fs ← loadRequest environment named (← workingFiles) request
  match request.run ⟨environment, fs, ⟨.refusing, []⟩⟩ named with
  | .ok report =>
    writeChanges fs report.files
    IO.print report.output
    if let some remark := report.remark then IO.eprintln remark
    return 0
  | .error failure =>
    IO.eprintln ("Error: " ++ failure.message)
    return 1

/-- The keys of a line that is typed; an empty line is the enter key. -/
def keysOf (line : String) : List Key :=
  match line.toList.filter (· ≠ '\n') with
  | [] => [.plain .enter]
  | cs => cs.map fun c => .plain (if c = '\t' then .tab else .char c)

/-- Prints the rows of a screen. -/
def printScreen (screen : Screen) : IO Unit := do
  for row in screen.rowsOfCells do
    IO.println (String.ofList (row.flatMap Cell.symbol))

/-- The view over the files of a folder as they are now. -/
def reload (app : App) (folder : Path) : IO App := do
  return app.withFiles (← loadSession app.host.environment app.host.config folder (← workingFiles))

/-- The folder that a key opens. -/
def folderToOpen? (app : App) (key : Key) : Option Path :=
  if key.code = .enter && app.prompt.kind = some .folder then
    let input := String.ofList (Text.trim app.prompt.input.toList)
    if input = "" then app.place.files.workingFolder.toOption else some (.ofString input)
  else none

/-- Presses a key over the files as they are now, and writes those that it changes. -/
def press (app : App) (key : Key) : IO App := do
  let app ← reload app ((folderToOpen? app key).getD app.session.listing.root)
  let next := app.press key
  writeChanges app.place.files next.place.files
  return next

/-- Draws the view and types lines into it until it is left or no line is left. -/
partial def interact (app : App) : IO Unit := do
  printScreen (app.draw 120 30)
  let line ← (← IO.getStdin).getLine
  if line.isEmpty then return
  let next ← (keysOf line).foldlM press app
  if next.quit then return
  interact next

/-- Opens the interactive view. -/
def runView (environment : Environment) (line : CommandLine) : IO UInt32 := do
  let fs ← workingFiles
  let fs ← match line.folder.or fs.workingFolder.toOption with
    | some root => loadSession environment line.config root fs
    | none => pure fs
  match App.launch ⟨environment, .whole, line.config⟩ fs ⟨.refusing, []⟩ line.folder
      line.githubUrl with
  | .ok app =>
    interact app
    return 0
  | .error failure =>
    IO.eprintln ("Error: " ++ failure.message)
    return 1

/-- The wording of a command line that was not understood. -/
def usageText : UsageError → String
  | .unknownArgument => "error: unexpected argument"
  | .invalidValue => "error: invalid value"
  | .missingArgument => "error: a required argument is missing"
  | .argumentConflict => "error: an argument cannot be used here"
  | .tooManyValues => "error: unexpected value"
  | .invalidCommand => "error: unrecognized subcommand"
  | .helpRequest => "usage: capsule [FOLDER] | outline | redact | bundle | completions"
  | .versionRequest => "capsule 0.1.0"

end RedactedBundle.Program

open RedactedBundle Program in
/-- Reads the command line and does what it asks for. -/
def main (args : List String) : IO UInt32 := do
  match CommandLine.ofArgs args with
  | .error .helpRequest =>
    IO.println (usageText .helpRequest)
    return 0
  | .error .versionRequest =>
    IO.println (usageText .versionRequest)
    return 0
  | .error error =>
    IO.eprintln (usageText error)
    return 2
  | .ok line =>
    let environment ← readEnvironment
    match line.request with
    | some request => runRequest environment line.config request
    | none => runView environment line
