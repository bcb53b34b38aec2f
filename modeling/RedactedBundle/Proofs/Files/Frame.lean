import RedactedBundle.Proofs.Files.Listing
import RedactedBundle.Proofs.Files.Resolve
import RedactedBundle.Proofs.Files.Write

/-!
# What writing leaves alone

A file that was written is met only by the paths that lead to the place where it was written, and in
the listing of its folder. At any other path there is what was there before, and a folder is listed
as before unless the file stands in it under a name that matches a pattern.

## Main definitions

- `FileSystem.SamePlace`: two paths lead to one place
- `Listing.Catches`: a path leads to a place from which a listing would take a file

## Main statements

- `FileSystem.at?_of_write_eq_ok`: what is at other paths
- `Listing.scan_of_write_eq_ok`: what is listed
-/

namespace RedactedBundle

namespace FileSystem

variable {fs fs' : FileSystem} {path other root : Path} {bytes content : List UInt8}
  {written : FileSystem}

/-! ## What depends on where a path leads to -/

theorem at?_congr (h : (fs'.resolve path).toOption = (fs.resolve path).toOption) :
    fs'.at? path = fs.at? path := by
  rw [at?, at?]
  cases hresolve' : fs'.resolve path with
  | ok target =>
    rw [hresolve'] at h
    rw [toOption_eq_some_iff.mp h.symm]
  | error error =>
    rw [hresolve'] at h
    cases hresolve : fs.resolve path with
    | ok target => rw [hresolve] at h; cases h
    | error error' => rfl

theorem read_eq_ok_iff :
    fs.read path = .ok bytes ↔ ∃ executable, fs.at? path = some (.file bytes executable) := by
  rw [read, at?]
  cases fs.resolve path with
  | error error => simp
  | ok target =>
    cases target with
    | vacant location => simp
    | existing location entry => cases entry <;> simp

section Same

variable (h : fs'.at? path = fs.at? path)

include h

theorem holds_of_at?_eq : fs'.holds path = fs.holds path := by rw [holds, holds, h]

theorem size?_of_at?_eq : fs'.size? path = fs.size? path := by rw [size?, size?, h]

theorem isFile_of_at?_eq : fs'.isFile path = fs.isFile path := by
  rw [isFile, isFile, size?_of_at?_eq h]

theorem readText_of_at?_eq {cs : List Char} (hread : fs.readText path = .ok cs) :
    fs'.readText path = .ok cs := by
  obtain ⟨bytes, hbytes, hdecode⟩ := readText_eq_ok_iff.mp hread
  exact readText_eq_ok_iff.mpr
    ⟨bytes, read_eq_ok_iff.mpr (h ▸ read_eq_ok_iff.mp hbytes), hdecode⟩

end Same

/-! ## Other paths -/

/-- Two paths lead to one place. -/
def SamePlace (fs : FileSystem) (path other : Path) : Prop :=
  ∃ target, fs.resolve path = .ok target ∧ fs.resolve other = .ok target

theorem not_samePlace_of_ne (h : fs.resolve path ≠ fs.resolve other) :
    ¬ fs.SamePlace path other := by
  rintro ⟨target, hpath, hother⟩
  exact h (hpath.trans hother.symm)

/-- A path that does not lead to the file that was written finds what it found before. -/
theorem at?_of_write_eq_ok (h : fs.write path bytes = .ok written)
    (hother : ¬ written.SamePlace other path) : written.at? other = fs.at? other := by
  obtain ⟨location, executable, -, -, hself, hways⟩ := exists_leadsWithPut_of_write_eq_ok h
  rcases hways other with ⟨hthere, -⟩ | hsame
  · exact absurd ⟨_, toOption_eq_some_iff.mp hthere, hself⟩ hother
  · exact at?_congr hsame

/-! ## Folders -/

theorem isFolder_iff :
    fs.isFolder root ↔
      ∃ place rights, fs.resolve root = .ok (.existing place (.folder rights)) := by
  rw [isFolder, at?]
  split
  · next place entry hresolve => cases entry <;> simp [hresolve, Entry.rights?]
  · next hresolve =>
    constructor
    · intro hfolder; cases hfolder
    · rintro ⟨place, rights, hplace⟩; exact absurd hplace (hresolve place _)

/-- A written file is no folder, and stands in the place of none. -/
theorem resolve_folder_of_write_eq_ok (h : fs.write path bytes = .ok written) {place : Location}
    {rights : FolderRights} :
    written.resolve root = .ok (.existing place (.folder rights)) ↔
      fs.resolve root = .ok (.existing place (.folder rights)) := by
  obtain ⟨location, executable, hwritable, -, -, hways⟩ := exists_leadsWithPut_of_write_eq_ok h
  rcases hways root with ⟨hthere, hcame⟩ | hsame
  · constructor
    · intro hfolder
      rw [hfolder] at hthere
      cases hthere
    · intro hfolder
      have hplace : place = location := hcame _ (toOption_eq_some_iff.mpr hfolder)
      have hentry : fs.entryAt? place = some (.folder rights) := isTarget_of_resolve hfolder
      cases hwritable.regular _ (hplace ▸ hentry)
  · rw [← toOption_eq_some_iff, ← toOption_eq_some_iff, hsame]

theorem filterMap_putEntry {α : Type} {f : Location × Entry → Option α} {location : Location}
    (hf : ∀ entry, f (location, entry) = none) (entry : Entry) (entries : List (Location × Entry)) :
    (putEntry location entry entries).filterMap f = entries.filterMap f := by
  induction entries with
  | nil => rw [putEntry, List.filterMap_cons_none (hf entry)]
  | cons first rest ih =>
    rw [putEntry]
    by_cases hfirst : first.1 = location
    · have hnone : f first = none := by
        rw [← hf first.2, ← hfirst]
      rw [if_pos hfirst, List.filterMap_cons_none (hf entry), List.filterMap_cons_none hnone]
    · rw [if_neg hfirst, List.filterMap_cons, List.filterMap_cons, ih]

/-- What is taken from a folder stays as it is if nothing is taken from the place of an entry. -/
theorem filterMap_children_put {α : Type} {g : FileName × Entry → Option α}
    {place location : Location}
    (hg : ∀ name, location = place ++ [name] → ∀ entry, g (name, entry) = none) (entry : Entry) :
    ((fs.put location entry).children place).filterMap g = (fs.children place).filterMap g := by
  rw [children, children, List.filterMap_filterMap, List.filterMap_filterMap, put]
  refine filterMap_putEntry (fun entry => ?_) entry fs.entries
  dsimp only
  cases hlast : location.getLast? with
  | none => rfl
  | some name =>
    dsimp only
    split
    · next hplace =>
      refine hg name ?_ entry
      rw [← hplace, List.dropLast_append_getLast? name hlast]
    · rfl

end FileSystem

namespace Listing

variable [PatternLanguage]

/-- A path leads to something that stands in a folder under a name that matches a pattern. -/
def Catches (fs : FileSystem) (root : Path) (patterns : List String) (path : Path) : Prop :=
  ∃ place rights name entry isMatch, fs.resolve root = .ok (.existing place (.folder rights)) ∧
    fs.resolve path = .ok (.existing (place ++ [name]) entry) ∧
    PatternLanguage.matcher patterns = .ok isMatch ∧
    isMatch (String.ofList (Utf8.decodeLossy name))

theorem Catches.isMatch {fs : FileSystem} {root path : Path} {patterns : List String}
    {above : Location} {name : FileName} {entry : Entry} (h : Catches fs root patterns path)
    (hpath : fs.resolve path = .ok (.existing (above ++ [name]) entry)) :
    (PatternLanguage.matcher patterns).map (fun isMatch =>
      isMatch (String.ofList (Utf8.decodeLossy name))) = .ok true := by
  obtain ⟨place, rights, other, otherEntry, isMatch, -, hother, hpatterns, hmatch⟩ := h
  obtain ⟨hlocation, -⟩ := FileSystem.Target.existing.inj (Except.ok.inj (hpath.symm.trans hother))
  obtain ⟨-, hname⟩ := List.append_inj' hlocation rfl
  rw [hpatterns, List.singleton_inj.mp hname, Except.map, hmatch]

/-- Files are listed as before one was written that the listing does not catch, and that is none of
the listed ones. -/
theorem scan_of_write_eq_ok {fs written : FileSystem} {path root : Path} {bytes : List UInt8}
    {patterns : List String} {placeholder : String} {listing : Listing}
    (h : fs.write path bytes = .ok written)
    (hscan : scan fs root patterns placeholder = .ok listing)
    (hlisted : ∀ file ∈ listing.files, ¬ written.SamePlace file.path path)
    (hfree : ¬ Catches written root patterns path) :
    scan written root patterns placeholder = .ok listing := by
  obtain ⟨location, executable, -, hput, hself, -⟩ :=
    FileSystem.exists_leadsWithPut_of_write_eq_ok h
  have hfolders : written.isFolder root ↔ fs.isFolder root := by
    simp only [FileSystem.isFolder_iff, FileSystem.resolve_folder_of_write_eq_ok h]
  rw [← hscan]
  by_cases hfolder : fs.isFolder root
  · obtain ⟨place, rights, hplace⟩ := FileSystem.isFolder_iff.mp hfolder
    have hplace' := (FileSystem.resolve_folder_of_write_eq_ok h).mpr hplace
    rw [scan, if_pos hfolder] at hscan
    rw [scan, scan, if_pos (hfolders.mpr hfolder), if_pos hfolder]
    cases hpatterns : PatternLanguage.matcher patterns with
    | error fault => rfl
    | ok isMatch =>
      have hskipped : ∀ name, location = place ++ [name] → ∀ entry,
          sourceFile? written root isMatch (name, entry) = none := by
        rintro name rfl entry
        have hmatch : ¬ isMatch (String.ofList (Utf8.decodeLossy name)) :=
          fun hmatch => hfree ⟨place, rights, name, _, isMatch, hplace', hself, hpatterns, hmatch⟩
        exact if_neg fun hlisted => hmatch (Bool.and_eq_true_iff.mp hlisted).2
      have hwalked : (walked written root).filterMap (sourceFile? written root isMatch) =
          (walked fs root).filterMap (sourceFile? written root isMatch) := by
        rw [walked, walked, FileSystem.list, FileSystem.list, hplace', hplace]
        split
        · rfl
        dsimp only
        split
        · rw [hput] at hskipped ⊢
          exact FileSystem.filterMap_children_put hskipped _
        · rfl
      rw [hpatterns] at hscan
      cases hscan
      have hsame : (walked fs root).filterMap (sourceFile? written root isMatch) =
          (walked fs root).filterMap (sourceFile? fs root isMatch) := by
        refine List.filterMap_congr fun child hchild => sourceFile?_congr fun file hfile => ?_
        exact FileSystem.at?_of_write_eq_ok h (hlisted file
          (List.mem_mergeSort.mpr (List.mem_filterMap.mpr ⟨child, hchild, hfile⟩)))
      dsimp only
      rw [hwalked, hsame]
  · rw [scan, scan, if_neg (mt hfolders.mp hfolder), if_neg hfolder]

end Listing

end RedactedBundle
