import RedactedBundle.Files.Listing
import RedactedBundle.Picker

/-!
# File lists

The names of a listed folder's files, one of them chosen, under the name of the folder.

## Main definitions

- `FileList`: the names, and what the folder is called
- `FileList.ofListing`: the file list of a listing
-/

namespace RedactedBundle

/-- What a listed folder is called: its last name, or its path if that ends in none. -/
def Listing.label (listing : Listing) : String :=
  match listing.root.fileName? with
  | some name => String.ofList (Utf8.decodeLossy name)
  | none => listing.root.display

/-- The names of a folder's files, one of them chosen. -/
structure FileList where
  names : Picker String
  /-- What the folder is called. -/
  label : String
  /-- The folder is missing. -/
  missing : Bool
  deriving Repr, DecidableEq, Inhabited

namespace FileList

/-- The file list of a listing, with the first file chosen. -/
def ofListing (listing : Listing) : FileList :=
  { names := .ofList (listing.files.map SourceFile.name)
    label := listing.label
    missing := listing.placeholder }

end FileList

end RedactedBundle
