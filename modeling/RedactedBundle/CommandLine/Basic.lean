import RedactedBundle.CommandLine.Matches
import RedactedBundle.Files.Path

/-!
# Command lines

A command line read as what it asks for.

## Main definitions

- `Request`, `CommandLine`: what a command line asks for
- `CommandLine.ofArgs`: reading the words of a command line
-/

namespace RedactedBundle

/-- What a command is asked to do. -/
inductive Request where
  /-- List the classes and methods of a file. -/
  | outline (file : Path) (json : Bool)
  /-- Print a file with some names hidden. -/
  | redact (file : Path) (classes methods : List String)
  /-- Export the document of some files of a folder, or of all if none are named. -/
  | bundle (folder : Path) (files classes methods : List String) (stdout copy : Bool)
  /-- Print completions for a shell. -/
  | completions (shell : Shell)
  deriving Repr, DecidableEq, Inhabited

/-- What a command line asks for; without a request the folder is opened in the interactive
view. -/
structure CommandLine where
  folder : Option Path
  githubUrl : Option String
  config : Option Path
  request : Option Request
  deriving Repr, DecidableEq, Inhabited

namespace CommandLine

/-- The value of an argument as a path. -/
def path? (found : Matches) (argument : Argument) : Option Path :=
  (found.get? argument).map Path.ofString

/-- What the arguments of a command ask for. -/
def request? (command : Command) (found : Matches) : Option Request :=
  match command with
  | .root => none
  | .outline => (path? found .file).map fun file => .outline file (found.has .json)
  | .redact =>
    (path? found .file).map fun file =>
      .redact file (found.getAll .hideClass) (found.getAll .hideMethod)
  | .bundle =>
    (path? found .folder).map fun folder =>
      .bundle folder (found.getAll .onlyFile) (found.getAll .hideClass) (found.getAll .hideMethod)
        (found.has .stdout) (found.has .copy)
  | .completions => ((found.get? .shell).bind Shell.ofName?).map .completions

/-- The command line of the arguments of the root command and of an inner one, whose settings
file wins. -/
def ofMatches (outer : Matches) (inner : Option (Command × Matches)) : CommandLine :=
  { folder := path? outer .folder
    githubUrl := outer.get? .githubUrl
    config := (inner.bind fun (_, found) => path? found .config).or (path? outer .config)
    request := inner.bind fun (command, found) => request? command found }

/-- Reads the words of a command line behind the name of the program. -/
def ofArgs (args : List String) : Except UsageError CommandLine :=
  (Matches.read .root false args {}).bind fun reading =>
    match reading with
    | .ended found => (found.finish .root).map fun outer => ofMatches outer none
    | .command found command rest =>
      (Matches.read command false rest {}).bind fun reading =>
        let innerFound := match reading with
          | .ended found => found
          | .command found _ _ => found
        (innerFound.finish command).bind fun inner =>
          (found.finish .root).map fun outer => ofMatches outer (some (command, inner))

end CommandLine

end RedactedBundle
