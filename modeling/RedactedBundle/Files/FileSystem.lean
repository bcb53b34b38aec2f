import RedactedBundle.Files.Path

/-!
# File systems

The files, folders and links of a file system as values. A location is the list of names from
the root folder down, without links on the way; a path is resolved to a location by following
its names, dots and links one at a time.

## Main definitions

- `FileSystem`: what stands at each location
- `FileSystem.resolve`: the location that a path leads to
- `FileSystem.read`, `FileSystem.write`, `FileSystem.children`: access to files and folders
-/

namespace RedactedBundle

/-- The names from the root folder down. -/
abbrev Location := List FileName

/-- What may be done with a folder. -/
structure FolderRights where
  /-- Its names may be listed. -/
  readable : Bool := true
  /-- A name may be looked up in it. -/
  searchable : Bool := true
  /-- A name may be added to it. -/
  writable : Bool := true
  deriving Repr, DecidableEq, Inhabited

/-- What stands at a location. -/
inductive Entry where
  | file (bytes : List UInt8) (executable : Bool)
  /-- A regular file that may be neither read nor written; of it only the size is known. -/
  | locked (size : Nat)
  | folder (rights : FolderRights := {})
  | link (target : Path)
  deriving Repr, DecidableEq, Inhabited

/-- The number of bytes in a regular file; nothing else has a size. -/
def Entry.size? : Entry → Option Nat
  | .file bytes _ => some bytes.length
  | .locked size => some size
  | .folder _ => none
  | .link _ => none

/-- What may be done with a folder; nothing else has such rights. -/
def Entry.rights? : Entry → Option FolderRights
  | .folder rights => some rights
  | _ => none

/-- Why access to a file failed. -/
inductive AccessError where
  | notFound
  | notAFolder
  | isAFolder
  | denied
  | tooManyLinks
  | nameTooLong
  /-- The path holds a zero byte. -/
  | zeroByte
  /-- The content was to be text and is not. -/
  | notText
  deriving Repr, DecidableEq, Inhabited

/-- The wording of a failed access. -/
def AccessError.message : AccessError → String
  | .notFound => "No such file or directory (os error 2)"
  | .notAFolder => "Not a directory (os error 20)"
  | .isAFolder => "Is a directory (os error 21)"
  | .denied => "Permission denied (os error 13)"
  | .tooManyLinks => "Too many levels of symbolic links (os error 40)"
  | .nameTooLong => "File name too long (os error 36)"
  | .zeroByte => "file name contained an unexpected NUL byte"
  | .notText => "stream did not contain valid UTF-8"

/-- What stands at each location, and the folder that relative paths start from. The root
folder needs no entry; one that it has tells its rights. -/
structure FileSystem where
  entries : List (Location × Entry)
  working : Location
  deriving Repr, Inhabited

namespace FileSystem

/-- What stands at a location. -/
def entryAt? (fs : FileSystem) (location : Location) : Option Entry :=
  let found := (fs.entries.find? (·.1 = location)).map (·.2)
  if location = [] then some (.folder ((found.bind Entry.rights?).getD {})) else found

/-- Puts an entry into the place of the one at the same location, or at the end. -/
def putEntry (location : Location) (entry : Entry) :
    List (Location × Entry) → List (Location × Entry)
  | [] => [(location, entry)]
  | other :: rest =>
    if other.1 = location then (location, entry) :: rest
    else other :: putEntry location entry rest

/-- The file system with an entry put at a location. -/
def put (fs : FileSystem) (location : Location) (entry : Entry) : FileSystem :=
  { fs with entries := putEntry location entry fs.entries }

/-- The file system without a location and all that lies under it. -/
def remove (fs : FileSystem) (location : Location) : FileSystem :=
  { fs with entries := fs.entries.filter fun entry => !location.isPrefixOf entry.1 }

/-- Puts a folder at each location on the way down from a folder along some names, where
nothing stands there yet. -/
def withFoldersFrom (fs : FileSystem) (above : Location) : List FileName → FileSystem
  | [] => fs
  | name :: rest =>
    let place := above ++ [name]
    let fs := if (fs.entryAt? place).isSome then fs else fs.put place .folder
    withFoldersFrom fs place rest

/-- The file system with folders put at a location and at all those above it, where nothing
stands there yet. -/
def withFolders (fs : FileSystem) (location : Location) : FileSystem :=
  fs.withFoldersFrom [] location

/-- The file system that holds one folder, from which relative paths start. -/
def emptyAt (working : Location) : FileSystem := withFolders ⟨[], working⟩ working

/-- The path of the folder that relative paths start from, if it is still there. -/
def workingPath (fs : FileSystem) : Except AccessError Path :=
  if ((fs.entryAt? fs.working).bind Entry.rights?).isNone then .error .notFound
  else if fs.working = [] then .ok ⟨[FileName.slash]⟩
  else .ok ⟨fs.working.flatMap fun name => FileName.slash :: name⟩

/-- The names in a folder with what they stand for. -/
def children (fs : FileSystem) (location : Location) : List (FileName × Entry) :=
  fs.entries.filterMap fun (place, entry) =>
    match place.getLast? with
    | some name => if place.dropLast = location then some (name, entry) else none
    | none => none

/-- Where a path leads to. -/
inductive Target where
  | existing (location : Location) (entry : Entry)
  /-- Nothing stands there, in a folder that exists. -/
  | vacant (location : Location)
  deriving Repr, DecidableEq

/-- How far a walk along names comes. -/
inductive Walk where
  | arrived (target : Target)
  | failed (error : AccessError)
  /-- A link was met: its target, where it starts from, and the names behind it. -/
  | link (base : Location) (target : Path) (rest : List FileName)

/-- Walks along names from a folder up to the first link. -/
def walk (fs : FileSystem) (place : Location) : List FileName → Walk
  | [] =>
    match fs.entryAt? place with
    | some entry => .arrived (.existing place entry)
    | none => .failed .notFound
  | name :: rest =>
    match fs.entryAt? place with
    | none => .failed .notFound
    | some (.file ..) | some (.locked _) | some (.link _) => .failed .notAFolder
    | some (.folder rights) =>
      -- Behind a slash at the end there is nothing to look up.
      if name = [] then walk fs place rest
      else if !rights.searchable then .failed .denied
      else if name = [FileName.dot] then walk fs place rest
      else if name = [FileName.dot, FileName.dot] then walk fs place.dropLast rest
      else if name.length > 255 then .failed .nameTooLong
      else
        match fs.entryAt? (place ++ [name]) with
        | some (.link target) => .link place target rest
        | some _ => walk fs (place ++ [name]) rest
        | none => if rest = [] then .arrived (.vacant (place ++ [name])) else .failed .notFound

/-- Walks along names through at most so many links. -/
def follow (fs : FileSystem) : Nat → Location → List FileName → Except AccessError Target
  | 0, _, _ => .error .tooManyLinks
  | n + 1, place, names =>
    match fs.walk place names with
    | .arrived target => .ok target
    | .failed error => .error error
    | .link base target rest =>
      if target.isEmpty then .error .notFound
      -- A relative target is taken from the folder that the link stands in.
      else follow fs n (if target.isAbsolute then [] else base) (target.steps ++ rest)

/-- The largest number of links on the way along one path. -/
def maxLinks : Nat := 40

/-- The location that a path leads to. -/
def resolve (fs : FileSystem) (path : Path) : Except AccessError Target :=
  if path.isEmpty then .error .notFound
  else if path.bytes.contains 0 then .error .zeroByte
  else if path.bytes.length ≥ 4096 then .error .nameTooLong
  else fs.follow (maxLinks + 1) (if path.isAbsolute then [] else fs.working) path.steps

/-- What a path leads to, if anything. -/
def at? (fs : FileSystem) (path : Path) : Option Entry :=
  match fs.resolve path with
  | .ok (.existing _ entry) => some entry
  | _ => none

/-- The path leads to something. -/
def holds (fs : FileSystem) (path : Path) : Bool := (fs.at? path).isSome

/-- The number of bytes in the regular file that a path leads to. -/
def size? (fs : FileSystem) (path : Path) : Option Nat := (fs.at? path).bind Entry.size?

/-- The path leads to a folder. -/
def isFolder (fs : FileSystem) (path : Path) : Bool :=
  ((fs.at? path).bind Entry.rights?).isSome

/-- The path leads to a regular file. -/
def isFile (fs : FileSystem) (path : Path) : Bool := (fs.size? path).isSome

/-- The content of the file that a path leads to. -/
def read (fs : FileSystem) (path : Path) : Except AccessError (List UInt8) :=
  match fs.resolve path with
  | .ok (.existing _ (.file bytes _)) => .ok bytes
  | .ok (.existing _ (.locked _)) => .error .denied
  | .ok (.existing _ (.folder rights)) => .error (if rights.readable then .isAFolder else .denied)
  | .ok (.existing _ (.link _)) => .error .isAFolder
  | .ok (.vacant _) => .error .notFound
  | .error error => .error error

/-- The content of the file that a path leads to, which must be valid text. -/
def readText (fs : FileSystem) (path : Path) : Except AccessError (List Char) :=
  match fs.read path with
  | .ok bytes =>
    match Utf8.decode? bytes with
    | some cs => .ok cs
    | none => .error .notText
  | .error error => .error error

/-- A name may be added to the folder at a location. -/
def mayAdd (fs : FileSystem) (location : Location) : Bool :=
  ((fs.entryAt? location).bind Entry.rights?).any FolderRights.writable

/-- The folder that the name before a last slash would have to be made in. -/
def folderOfSlashed (fs : FileSystem) (path : Path) : Except AccessError Target :=
  fs.follow (maxLinks + 1) (if path.isAbsolute then [] else fs.working)
    path.steps.dropLast.dropLast

/-- Writes a file: one that exists gets the new content, a vacant place a new file. A path that
ends in a slash names a folder, which cannot be written. -/
def write (fs : FileSystem) (path : Path) (bytes : List UInt8) :
    Except AccessError FileSystem :=
  if path.bytes.getLast? = some FileName.slash then
    match fs.folderOfSlashed path with
    | .ok (.existing _ (.folder rights)) =>
      .error (if rights.searchable then .isAFolder else .denied)
    | .ok (.existing _ _) => .error .notAFolder
    | .ok (.vacant _) => .error .notFound
    | .error error => .error error
  else match fs.resolve path with
  -- Writing changes what is in a file, not who may run it.
  | .ok (.existing location (.file _ executable)) => .ok (fs.put location (.file bytes executable))
  | .ok (.existing _ (.locked _)) => .error .denied
  | .ok (.existing _ _) => .error .isAFolder
  | .ok (.vacant location) =>
    if fs.mayAdd location.dropLast then .ok (fs.put location (.file bytes false))
    else .error .denied
  | .error error => .error error

/-- The entries in a folder that a path leads to; none for anything else, nor for a folder that
may not be listed. -/
def list (fs : FileSystem) (path : Path) : List (FileName × Entry) :=
  match fs.resolve path with
  | .ok (.existing location (.folder rights)) =>
    if rights.readable then fs.children location else []
  | _ => []

end FileSystem

end RedactedBundle
