import RedactedBundle.CommandLine.Argument
import RedactedBundle.Text.Similarity

/-!
# Matching arguments

The words of a command line matched against the arguments of a command, one after the other. A
value is checked as soon as the next argument comes or the line ends, so of two faults the one
that is met first counts.

## Main definitions

- `Matches`: the arguments found so far
- `Matches.read`: the arguments of a command in a list of words
- `Matches.finish`: what must hold at the end
-/

namespace RedactedBundle

/-- The arguments found so far with their values, in order, flags with an empty one. The last
argument may still be open: it waits for its value, or the value has not been checked. -/
structure Matches where
  closed : List (Argument × String) := []
  openEnd : Option (Argument × Option String) := none
  deriving Repr, DecidableEq, Inhabited

namespace Matches

/-- The argument has been found. -/
def has (found : Matches) (argument : Argument) : Bool := found.closed.any (·.1 = argument)

/-- The first value of an argument. -/
def get? (found : Matches) (argument : Argument) : Option String :=
  (found.closed.find? (·.1 = argument)).map Prod.snd

/-- The values of an argument. -/
def getAll (found : Matches) (argument : Argument) : List String :=
  (found.closed.filter (·.1 = argument)).map Prod.snd

/-- Adds an argument with its value, if it may be given and the value fits. -/
def add (found : Matches) (argument : Argument) (value : String) : Except UsageError Matches :=
  if found.has argument && !argument.repeatable then .error .argumentConflict
  else if !argument.accepts value then .error .invalidValue
  else .ok { found with closed := found.closed ++ [(argument, value)] }

/-- Closes the last argument. -/
def settle (found : Matches) : Except UsageError Matches :=
  match found.openEnd with
  | none => .ok found
  | some (_, none) => .error .invalidValue
  | some (argument, some value) => ({ found with openEnd := none } : Matches).add argument value

/-- The last argument waits for its value. -/
def awaitsValue (found : Matches) : Bool :=
  match found.openEnd with
  | some (_, none) => true
  | _ => false

/-- The argument has been found or is open. -/
def mentions (found : Matches) (argument : Argument) : Bool :=
  found.has argument ||
    match found.openEnd with
    | some (other, _) => other = argument
    | none => false

/-- Takes a flag. -/
def takeFlag (found : Matches) (argument : Argument) : Except UsageError Matches :=
  found.settle.bind fun found =>
    match argument with
    | .help => .error .helpRequest
    | .version => .error .versionRequest
    | argument => found.add argument ""

/-- Takes an option given by its word, perhaps with a value behind an equals sign. -/
def takeLong (found : Matches) (command : Command) (word : String) (attached : Option String) :
    Except UsageError Matches :=
  match command.long? word with
  | none => .error .unknownArgument
  | some argument =>
    match argument.value?, attached with
    | some _, some value => found.settle.bind fun found => found.add argument value
    | some _, none => found.settle.map fun found => { found with openEnd := some (argument, none) }
    | none, some _ => .error .tooManyValues
    | none, none => found.takeFlag argument

/-- Takes an argument given by a letter. -/
def takeShort (found : Matches) (command : Command) (letter : Char) : Except UsageError Matches :=
  match command.short? letter with
  | none => .error .unknownArgument
  | some argument => found.takeFlag argument

/-- Why a word that no position is left for is rejected: one that looks like the name of a
command is taken for a misspelt one. -/
def superfluous (command : Command) (isLiteral : Bool) (word : String) : UsageError :=
  let names := Command.helpWord :: Command.named.map Prod.fst
  if command ≠ .root || (isLiteral && names.contains word) then .unknownArgument
  else if names.any fun name => Text.isSimilar word.toList name.toList then .invalidCommand
  else .unknownArgument

/-- Takes a word by its position. -/
def takePosition (found : Matches) (command : Command) (isLiteral : Bool) (word : String) :
    Except UsageError Matches :=
  if found.mentions command.position then .error (superfluous command isLiteral word)
  else found.settle.map fun found => { found with openEnd := some (command.position, some word) }

/-- What a word of the command line looks like. -/
inductive Shape where
  /-- From here on, words are what they are. -/
  | separator
  | long (word : String) (attached : Option String)
  | short (letter : Char)
  | plain

/-- A word and what stands behind its first equals sign. -/
def cutEquals (cs : List Char) : String × Option String :=
  match cs.span (· ≠ '=') with
  | (word, _ :: value) => (String.ofList word, some (String.ofList value))
  | (word, []) => (String.ofList word, none)

/-- The look of a word. -/
def Shape.of (word : String) : Shape :=
  match word.toList with
  | ['-', '-'] => .separator
  | '-' :: '-' :: rest =>
    let (word, attached) := cutEquals rest
    .long word attached
  | '-' :: letter :: _ => .short letter
  | _ => .plain

/-- What reading words comes to: the end of the line, or the name of a command. -/
inductive Reading where
  | ended (found : Matches)
  | command (found : Matches) (command : Command) (rest : List String)

/-- What the words behind a request for help come to: help, if they name at most one command. -/
def helpFor : List String → UsageError
  | [] => .helpRequest
  | [name] =>
    if name = Command.helpWord || (Command.ofName? name).isSome then .helpRequest
    else .invalidCommand
  | _ => .invalidCommand

/-- Reads the words of a command; in the literal part of the line they are taken by position. -/
def read (command : Command) (isLiteral : Bool) :
    List String → Matches → Except UsageError Reading
  | [], found => .ok (.ended found)
  | word :: rest, found =>
    if isLiteral then (found.takePosition command true word).bind (read command true rest)
    else if command = .root && !found.awaitsValue && word = Command.helpWord then
      .error (helpFor rest)
    else
      match if command = .root && !found.awaitsValue then Command.ofName? word else none with
      | some inner => .ok (.command found inner rest)
      | none =>
        match Shape.of word with
        | .separator => read command true rest found
        | .long word attached => (found.takeLong command word attached).bind (read command false rest)
        | .short letter => (found.takeShort command letter).bind (read command false rest)
        | .plain =>
          match found.openEnd with
          | some (argument, none) =>
            read command false rest { found with openEnd := some (argument, some word) }
          | _ => (found.takePosition command false word).bind (read command false rest)

/-- The matches at the end of a command: the last argument is closed, no two exclude each other,
and none is missing. -/
def finish (found : Matches) (command : Command) : Except UsageError Matches :=
  found.settle.bind fun found =>
    if command.conflicts.any fun (a, b) => found.has a && found.has b then .error .argumentConflict
    else if command.needsPosition && !found.has command.position then .error .missingArgument
    else .ok found

end Matches

end RedactedBundle
