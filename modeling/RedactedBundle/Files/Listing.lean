import RedactedBundle.Files.FileSystem
import RedactedBundle.Files.PatternLanguage

/-!
# Listing a folder

The files standing directly in a folder whose names match one of some patterns, in ascending
order of their names. A folder that is missing is listed with one placeholder.

## Main definitions

- `SourceFile`, `Listing`: the listed files of a folder
- `Listing.scan`: listing a folder
- `FileSystem.readSource`: the text of a listed file
-/

namespace RedactedBundle

/-- A listed file. It is called by its name, read as text. -/
structure SourceFile where
  name : String
  path : Path
  size : Option Nat
  deriving Repr, DecidableEq, Inhabited

/-- The listed files of a folder; `placeholder` tells that the folder is missing. -/
structure Listing where
  root : Path
  files : List SourceFile
  placeholder : Bool
  deriving Repr, DecidableEq, Inhabited

namespace Listing

/-- The first file of a name. -/
def find? (listing : Listing) (name : String) : Option SourceFile :=
  listing.files.find? (·.name = name)

/-- The listing of a folder that is missing. -/
def missing (root : Path) (placeholder : String) : Listing :=
  { root
    files := [⟨placeholder, root.join (.ofString placeholder), none⟩]
    placeholder := true }

/-- The entries that a walk over a folder meets. A folder written as a dash is not walked: the
dash stands for the standard input. -/
def walked (fs : FileSystem) (root : Path) : List (FileName × Entry) :=
  if root.isDash then [] else fs.list root

/-- The listed file for an entry of a folder: a regular file, not reached by a link, whose name
matches a pattern. Its size is found by its path, which cannot always be looked up. -/
def sourceFile? (fs : FileSystem) (root : Path) (isMatch : String → Bool) :
    FileName × Entry → Option SourceFile
  | (bytes, entry) =>
    let name := String.ofList (Utf8.decodeLossy bytes)
    let path := root.join ⟨bytes⟩
    if entry.size?.isSome && isMatch name then some ⟨name, path, fs.size? path⟩ else none

/-- Lists a folder. Patterns are looked at only if the folder exists. -/
def scan [PatternLanguage] (fs : FileSystem) (root : Path) (patterns : List String)
    (placeholder : String) : Except PatternFault Listing :=
  if fs.isFolder root then
    match PatternLanguage.matcher patterns with
    | .ok isMatch =>
      .ok
        { root
          -- Files of one name, which differ in bytes that are not text, keep the folder's order.
          files := ((walked fs root).filterMap (sourceFile? fs root isMatch)).mergeSort
            fun a b => decide (a.name ≤ b.name)
          placeholder := false }
    | .error fault => .error fault
  else .ok (missing root placeholder)

end Listing

/-- The text of a source file: bytes that are not valid text are replaced rather than refused,
and a byte order mark at the start is dropped. -/
def decodeSource (bytes : List UInt8) : String :=
  String.ofList (Utf8.dropMark ((Utf8.decode? bytes).getD (Utf8.decodeLossy bytes)))

/-- The text of the source file that a path leads to. -/
def FileSystem.readSource (fs : FileSystem) (path : Path) : Except AccessError String :=
  match fs.read path with
  | .ok bytes => .ok (decodeSource bytes)
  | .error error => .error error

end RedactedBundle
