import RedactedBundle.Files.Listing
import RedactedBundle.Toml.Reader

/-!
# Failures

Why an action of the program failed, with the wording shown to the user.

## Main definitions

- `Failure`: the causes of failure
- `Failure.message`: their wording
-/

namespace RedactedBundle

/-- What a place in the file system was looked up for. -/
inductive Purpose where
  | settings
  | source
  | document
  | template
  /-- The folder that relative paths start from. -/
  | workingFolder
  deriving Repr, DecidableEq, Inhabited

/-- The wording of a file access that failed, up to the path. -/
def Purpose.wording : Purpose → String
  | .settings => "failed to read config file: "
  | .source => "failed to read "
  | .document => "failed to write export output to "
  | .template => "failed to load template from path "
  | .workingFolder => "unable to determine working directory"

/-- Why an action failed. -/
inductive Failure where
  | noOpenFile
  | emptyDisplay
  | unknownFile (name : String)
  /-- A file could not be read or written, or the working folder could not be found. -/
  | access (purpose : Purpose) (path : Path) (error : AccessError)
  /-- The text of a settings file is not valid; the fault is known if a line cannot be read. -/
  | settings (path : Path) (fault : Option Toml.Fault)
  /-- A folder could not be listed because of one of the patterns. -/
  | listing (fault : PatternFault)
  | invalidTemplate (name : String)
  | templateFailed (name : String)
  | templateNotFound (name : String)
  deriving Repr, DecidableEq, Inhabited

/-- The wording of a failure, from the outermost cause to the innermost. -/
def Failure.message : Failure → String
  | .noOpenFile => "no file is open"
  | .emptyDisplay => "the displayed text is empty"
  | .unknownFile name => "file '" ++ name ++ "' is not part of the project"
  | .access purpose path error => purpose.wording ++ path.display ++ ": " ++ error.message
  | .settings path fault =>
    "invalid config file: " ++ path.display ++ ": failed to parse TOML config" ++
      ((fault.map fun fault => ": " ++ fault.report).getD "")
  | .listing fault => "failed to scan project folder: " ++ fault.message
  | .invalidTemplate name => "invalid template '" ++ name ++ "'"
  | .templateFailed name => "failed to render template '" ++ name ++ "'"
  | .templateNotFound name => "template '" ++ name ++ "' not found (built-in or filesystem)"

/-- The path of the folder that relative paths start from, for an action that needs it. When it
cannot be found, there is no path to tell. -/
def FileSystem.workingFolder (fs : FileSystem) : Except Failure Path :=
  match fs.workingPath with
  | .ok path => .ok path
  | .error error => .error (.access .workingFolder ⟨[]⟩ error)

end RedactedBundle
