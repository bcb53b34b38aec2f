import RedactedBundle.Files.Script

/-!
# Clipboards

Where copied text goes. A clipboard either takes a text or refuses it. The clipboard of the system
works through a display until that refuses a text, and then through helper programs, of which the
first that takes in the text and ends well takes it.

## Main definitions

- `Sink`: what takes texts outside of the program
- `Clipboard`: a clipboard with the texts it was offered
- `Clipboard.offer`: handing a text to a clipboard
-/

namespace RedactedBundle

/-- What becomes of the files when a text is handed over, and whether it is taken. That may depend
on the texts that were handed over before, the last one first. -/
abbrev Sink := List String → FileSystem → String → FileSystem × Bool

namespace Sink

/-- The helper programs with their arguments, in the order in which they are tried. -/
def helperCommands : List (String × List String) :=
  [("wl-copy", []), ("xclip", ["-selection", "clipboard"]), ("xsel", ["-b", "-i"])]

/-- The number of bytes that can be written to a program that does not read them. -/
def pipeCapacity : Nat := 65536

/-- Tries helper programs up to the first that takes a text; tells whether one did. -/
def tryHelpers (folder : Path) (text : String) :
    List (String × List String) → FileSystem → FileSystem × Bool
  | [], fs => (fs, false)
  | (name, args) :: rest, fs =>
    match fs.runScript? (folder.join (.ofString name)) name args (Utf8.encode text.toList) with
    | some ended =>
      if ended.status = 0 && ended.unread.length ≤ pipeCapacity then (ended.files, true)
      else tryHelpers folder text rest ended.files
    | none => tryHelpers folder text rest fs

/-- A display takes the last of some texts and all texts before it. The last text comes first. -/
def takesAll (takes : List String → Bool) : List String → Bool
  | [] => true
  | text :: earlier => takes (text :: earlier) && takesAll takes earlier

/-- The sink of the system: a display if there is one, which is given up once it has refused a text,
and then the helper programs in a folder. -/
def ofSystem (display : Option (List String → Bool)) (folder : Path) : Sink :=
  fun earlier fs text =>
    if display.any fun takes => takesAll takes (text :: earlier) then (fs, true)
    else tryHelpers folder text helperCommands fs

end Sink

/-- How a clipboard treats what it is offered. -/
inductive ClipboardKind where
  /-- Takes every text. -/
  | memory
  /-- Refuses every text. -/
  | refusing
  /-- Hands each text on. -/
  | system (sink : Sink)
  deriving Inhabited

/-- The clipboard of a system without a display, with the helper programs in a folder. -/
def ClipboardKind.helpers (folder : Path) : ClipboardKind := .system (.ofSystem none folder)

/-- A clipboard with the texts it was offered, the last one first. -/
structure Clipboard where
  kind : ClipboardKind
  offered : List String := []
  deriving Inhabited

namespace Clipboard

/-- The text that a clipboard in memory holds. -/
def contents? (clipboard : Clipboard) : Option String :=
  match clipboard.kind with
  | .memory => clipboard.offered.head?
  | _ => none

/-- The clipboard after a text was handed to it. -/
def record (clipboard : Clipboard) (text : String) : Clipboard :=
  { clipboard with offered := text :: clipboard.offered }

/-- Hands a text to the clipboard: what becomes of the file system, and whether it was taken. -/
def offer (clipboard : Clipboard) (fs : FileSystem) (text : String) : FileSystem × Bool :=
  match clipboard.kind with
  | .memory => (fs, true)
  | .refusing => (fs, false)
  | .system sink => sink clipboard.offered fs text

end Clipboard

end RedactedBundle
