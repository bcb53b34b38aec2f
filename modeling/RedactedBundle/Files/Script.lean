import RedactedBundle.Files.FileSystem
import RedactedBundle.Text.Blank
import RedactedBundle.Text.Search

/-!
# Scripts

Programs of a file system that are small shell scripts. Such a script has a line with its
interpreter and then commands, separated by line feeds or semicolons: it can store how it was
called, store its input, and give up with a status.

## Main definitions

- `Script.Command`: a command of a script
- `Script.ofText?`: the commands of a script
- `Script.Ended`: what a script leaves behind
- `FileSystem.runScript?`: running the script at a path
-/

namespace RedactedBundle

namespace Script

/-- A command of a script; a file that is not named means that the output is dropped. -/
inductive Command where
  /-- Stores the script's name and arguments, separated by spaces, as a line. -/
  | storeCall (file : Path)
  /-- Stores the input, which is empty if it was stored before. -/
  | storeInput (file : Path)
  /-- Ends the script with a status. -/
  | exit (status : Nat)
  /-- A command that does nothing and ends well. -/
  | nothing
  /-- A command that cannot be found. -/
  | unknown
  deriving Repr, DecidableEq, Inhabited

/-- The line that a script starts with. -/
def interpreterLine : String := "#!/bin/sh\n"

/-- The command that writes how the script was called. -/
def callText : String := "echo \"$0 $*\" | /bin/sed 's|.*/||'"

/-- The number that digits spell. -/
def number? (digits : List Char) : Option Nat :=
  if digits.isEmpty || !digits.all Char.isDigit then none
  else some (digits.foldl (fun n d => n * 10 + (d.toNat - 48)) 0)

/-- The command that a text spells. -/
def Command.ofText (cs : List Char) : Command :=
  match Text.splitAt? ['>'] cs with
  | some (left, right) =>
    let file := Path.ofString (String.ofList (Text.trim right))
    let left := Text.trim left
    if left = callText.toList then .storeCall file
    else if left = "/bin/cat".toList then .storeInput file
    else .unknown
  | none =>
    let cs := Text.trim cs
    if cs.isEmpty || cs = [':'] then .nothing
    else if cs.take 4 = "exit".toList then
      match number? (Text.trim (cs.drop 4)) with
      | some n => .exit (n % 256)
      | none => .unknown
    else .unknown

/-- The commands of a text that is a script. -/
def ofText? (cs : List Char) : Option (List Command) :=
  if interpreterLine.toList.isPrefixOf cs then
    let body := cs.drop interpreterLine.length
    some ((body.splitOnP fun c => c = '\n' || c = ';').map Command.ofText)
  else none

/-- What drops all that is written to it. -/
def sink : Path := .ofString "/dev/null"

/-- The file system with bytes stored in a file, and whether that worked. -/
def store (fs : FileSystem) (file : Path) (bytes : List UInt8) : FileSystem × Bool :=
  if file = sink then (fs, true)
  else
    match fs.write file bytes with
    | .ok fs => (fs, true)
    | .error _ => (fs, false)

/-- What a script leaves behind. -/
structure Ended where
  files : FileSystem
  status : Nat
  /-- What was not read of the input. -/
  unread : List UInt8

/-- Runs commands with an input, behind a command with some status. -/
def run (call : List UInt8) : List Command → List UInt8 → Nat → FileSystem → Ended
  | [], input, status, fs => ⟨fs, status, input⟩
  | .storeCall file :: rest, input, _, fs =>
    let (fs, stored) := store fs file call
    run call rest input (if stored then 0 else 2) fs
  | .storeInput file :: rest, input, _, fs =>
    match store fs file input with
    | (fs, true) => run call rest [] 0 fs
    | (fs, false) => run call rest input 2 fs
  | .exit status :: _, input, _, fs => ⟨fs, status, input⟩
  | .nothing :: rest, input, status, fs => run call rest input status fs
  | .unknown :: rest, input, _, fs => run call rest input 127 fs

end Script

/-- Runs the script at a path under a name with arguments and input; `none` if it cannot be
started. -/
def FileSystem.runScript? (fs : FileSystem) (path : Path) (name : String) (args : List String)
    (input : List UInt8) : Option Script.Ended :=
  match fs.at? path with
  | some (.file bytes true) =>
    (Utf8.decode? bytes).bind fun cs => (Script.ofText? cs).map fun commands =>
      let call := Utf8.encode (name ++ " " ++ " ".intercalate args ++ "\n").toList
      Script.run call commands input 0 fs
  | _ => none

end RedactedBundle
