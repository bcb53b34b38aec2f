import RedactedBundle.Text.Utf8

/-!
# Paths

A path is a sequence of bytes; names in it are separated by slashes. Repeated slashes, names
that are a single dot and a slash at the end make no difference to the names of a path, but they
are kept when the path is shown.

## Main definitions

- `Path`: a path as it was written
- `Path.join`, `Path.parent?`, `Path.fileName?`, `Path.extension?`: paths and their parts
- `Path.display`: a path as text
-/

namespace RedactedBundle

/-- The name of a file or folder within its folder, as bytes. -/
abbrev FileName := List UInt8

/-- The bytes of a slash and of a dot. -/
def FileName.slash : UInt8 := 0x2F

@[inherit_doc FileName.slash]
def FileName.dot : UInt8 := 0x2E

/-- The byte of a dash. -/
def FileName.dash : UInt8 := 0x2D

/-- A path as it was written. -/
structure Path where
  bytes : List UInt8
  deriving Repr, DecidableEq, Inhabited

namespace Path

open FileName (slash dot)

/-- The path that a text spells. -/
def ofString (text : String) : Path := ⟨Utf8.encode text.toList⟩

/-- The path as text; bytes that are not valid text are read as U+FFFD. -/
def display (path : Path) : String := String.ofList (Utf8.decodeLossy path.bytes)

def isEmpty (path : Path) : Bool := path.bytes.isEmpty

def isAbsolute (path : Path) : Bool := path.bytes.head? = some slash

/-- The second path taken from the first: an absolute one replaces it, any other is put behind
it with a slash in between unless there is one. -/
def join (path other : Path) : Path :=
  if other.isAbsolute then other
  else if path.isEmpty || path.bytes.getLast? = some slash then ⟨path.bytes ++ other.bytes⟩
  else ⟨path.bytes ++ slash :: other.bytes⟩

/-- Splits bytes at slashes, with the bytes of the current name kept newest first. -/
def splitFrom (current : List UInt8) : List UInt8 → List FileName
  | [] => [current.reverse]
  | b :: rest =>
    if b = slash then current.reverse :: splitFrom [] rest else splitFrom (b :: current) rest

/-- The names along a path, with an empty one for a slash at the end. -/
def steps (path : Path) : List FileName :=
  let names := (splitFrom [] path.bytes).filter (· ≠ [])
  if path.bytes.getLast? = some slash then names ++ [[]] else names

/-- Drops slashes and names that are a single dot from the end of a path, whose bytes are given
last first. A leading slash stays. -/
def trimEnd : List UInt8 → List UInt8
  | [] => []
  | [b] => [b]
  | b :: c :: rest =>
    if b = slash then trimEnd (c :: rest)
    else if b = dot && c = slash then trimEnd (c :: rest)
    else b :: c :: rest

/-- The path is written as a single dash, slashes and dots at the end apart. -/
def isDash (path : Path) : Bool := trimEnd path.bytes.reverse = [FileName.dash]

/-- The bytes of the last name of a path and of what precedes it, last byte first. -/
def cutLast (path : Path) : List UInt8 × List UInt8 :=
  (trimEnd path.bytes.reverse).span (· ≠ slash)

/-- The path without its last name; the root folder and the empty path have none. -/
def parent? (path : Path) : Option Path :=
  match cutLast path with
  | ([], _) => none
  | (_, before) => some ⟨(trimEnd before).reverse⟩

/-- The last name of a path, unless it is one or two dots. -/
def fileName? (path : Path) : Option FileName :=
  match cutLast path with
  | ([], _) => none
  | (name, _) => if name = [dot] || name = [dot, dot] then none else some name.reverse

/-- What follows the last dot in the last name of a path; a dot at the start of the name does not
count. -/
def extension? (path : Path) : Option (List UInt8) :=
  (fileName? path).bind fun name =>
    match name.reverse.span (· ≠ dot) with
    | (ending, _ :: _ :: _) => some ending.reverse
    | _ => none

end Path

end RedactedBundle
