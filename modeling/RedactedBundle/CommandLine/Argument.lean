/-!
# Arguments

The arguments that each command of the command line takes.

## Main definitions

- `Argument`: an option, flag or position of the command line
- `Command`: a command, with its arguments
- `UsageError`: why a command line is rejected
-/

namespace RedactedBundle

/-- Why a command line does not lead to a command that can be run. -/
inductive UsageError where
  | unknownArgument
  | invalidValue
  | missingArgument
  | argumentConflict
  | tooManyValues
  | invalidCommand
  /-- Help was asked for. -/
  | helpRequest
  /-- The version was asked for. -/
  | versionRequest
  deriving Repr, DecidableEq, Inhabited

/-- The shells that completions can be generated for. -/
inductive Shell where
  | bash
  | elvish
  | fish
  | powershell
  | zsh
  deriving Repr, DecidableEq, Inhabited

/-- The name of a shell. -/
def Shell.name : Shell → String
  | .bash => "bash"
  | .elvish => "elvish"
  | .fish => "fish"
  | .powershell => "powershell"
  | .zsh => "zsh"

/-- The shell of a name. -/
def Shell.ofName? (name : String) : Option Shell :=
  [.bash, .elvish, .fish, .powershell, .zsh].find? fun shell : Shell => shell.name = name

/-- An option, flag or position of the command line. -/
inductive Argument where
  | folder
  | file
  | shell
  | config
  | githubUrl
  | json
  | hideClass
  | hideMethod
  | onlyFile
  | stdout
  | copy
  | help
  | version
  deriving Repr, DecidableEq, Inhabited

/-- What the value of an argument is. -/
inductive ValueKind where
  | text
  /-- A path, which is not empty. -/
  | path
  | shell
  deriving Repr, DecidableEq, Inhabited

namespace Argument

/-- The word that an argument is given by behind two hyphens; positions have none. -/
def long? : Argument → Option String
  | folder => none
  | file => none
  | shell => none
  | config => some "config"
  | githubUrl => some "github-url"
  | json => some "json"
  | hideClass => some "hide-class"
  | hideMethod => some "hide-method"
  | onlyFile => some "file"
  | stdout => some "stdout"
  | copy => some "copy"
  | help => some "help"
  | version => some "version"

/-- The letter that an argument is given by behind one hyphen. -/
def short? : Argument → Option Char
  | help => some 'h'
  | version => some 'V'
  | _ => none

/-- What the value of an argument is; a flag has none. -/
def value? : Argument → Option ValueKind
  | folder => some .path
  | file => some .path
  | shell => some .shell
  | config => some .path
  | githubUrl => some .text
  | hideClass => some .text
  | hideMethod => some .text
  | onlyFile => some .text
  | json => none
  | stdout => none
  | copy => none
  | help => none
  | version => none

/-- The argument may be given more than once. -/
def repeatable : Argument → Bool
  | hideClass => true
  | hideMethod => true
  | onlyFile => true
  | _ => false

/-- The text is a value of the argument. -/
def accepts (argument : Argument) (text : String) : Bool :=
  match argument.value? with
  | some .text => true
  | some .path => text ≠ ""
  | some .shell => (Shell.ofName? text).isSome
  | none => true

end Argument

/-- The commands; the root command is the one without a name. -/
inductive Command where
  | root
  | outline
  | redact
  | bundle
  | completions
  deriving Repr, DecidableEq, Inhabited

namespace Command

/-- The commands that have a name. -/
def named : List (String × Command) :=
  [("outline", .outline), ("redact", .redact), ("bundle", .bundle), ("completions", .completions)]

/-- The word that asks for the help of a command. -/
def helpWord : String := "help"

/-- The command of a name. -/
def ofName? (name : String) : Option Command :=
  (named.find? fun command => command.1 = name).map Prod.snd

/-- The argument that is given by its position alone. -/
def position : Command → Argument
  | root => .folder
  | outline => .file
  | redact => .file
  | bundle => .folder
  | completions => .shell

/-- The position has to be given. -/
def needsPosition (command : Command) : Bool := command ≠ root

/-- The arguments that are given by a word or letter. -/
def options : Command → List Argument
  | root => [.githubUrl, .config, .help, .version]
  | outline => [.json, .config, .help]
  | redact => [.hideClass, .hideMethod, .config, .help]
  | bundle => [.onlyFile, .hideClass, .hideMethod, .stdout, .copy, .config, .help]
  | completions => [.config, .help]

/-- The argument of a word. -/
def long? (command : Command) (word : String) : Option Argument :=
  command.options.find? fun argument => argument.long? = some word

/-- The argument of a letter. -/
def short? (command : Command) (letter : Char) : Option Argument :=
  command.options.find? fun argument => argument.short? = some letter

/-- The pairs of arguments that exclude each other. -/
def conflicts : Command → List (Argument × Argument)
  | bundle => [(.stdout, .copy)]
  | _ => []

end Command

end RedactedBundle
