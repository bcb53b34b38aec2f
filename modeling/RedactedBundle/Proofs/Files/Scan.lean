import RedactedBundle.Files.NamePattern
import RedactedBundle.Proofs.Files.Children
import RedactedBundle.Proofs.Text.ByteOrder

/-!
# What is listed of a folder

The listing of a folder holds its regular files whose names match a pattern, in the order of the
bytes of their names. Files of different names stand in one order only, so it makes no difference in
which order the folder holds them. Patterns are looked at only if there is a folder. Nothing is met
in a folder that may not be read; one that may be read but not searched is listed without sizes.

## Main definitions

- `PatternLanguage.Matches`: a name matches what one of some texts spells
- `Listing.IsWalked`: a folder is walked at all
- `Listing.IsListed`: a file as it is listed for an entry of a folder

## Main statements

- `PatternLanguage.matcher_of_invalid`, `PatternLanguage.matcher_of_valid`: matching names against
  several patterns
- `Listing.scan_eq_of_perm`: the order of a folder makes no difference
- `Listing.scan_exact`: what is listed
-/

namespace RedactedBundle

/-! ## Patterns -/

namespace PatternLanguage

variable [PatternLanguage] {texts : List String}

/-- A name matches the pattern that one of some texts spells. -/
def Matches (texts : List String) (name : String) : Prop := ∃ text ∈ texts, isMatch text name

/-- Of texts that are no patterns the first one is told. -/
theorem matcher_of_invalid (h : ∃ text ∈ texts, ∃ reason, fault? text = some reason) :
    ∃ text ∈ texts, ∃ reason, fault? text = some reason ∧
      matcher texts = .error (.invalid text reason) := by
  obtain ⟨text, htext, reason, hreason⟩ := h
  cases hfound : texts.findSome? fun text => (fault? text).map (PatternFault.invalid text) with
  | none =>
    have hnone := List.findSome?_eq_none_iff.mp hfound text htext
    rw [hreason] at hnone
    cases hnone
  | some fault =>
    obtain ⟨first, hfirst, hfault⟩ := List.exists_of_findSome?_eq_some hfound
    obtain ⟨reason, hreason, rfl⟩ := Option.map_eq_some_iff.mp hfault
    exact ⟨first, hfirst, reason, hreason, by rw [matcher, hfound]⟩

theorem matcher_of_valid (h : ∀ text ∈ texts, fault? text = none) :
    matcher texts =
      match unbuildable? texts with
      | some reason => .error (.unbuildable reason)
      | none => .ok fun name => texts.any (isMatch · name) := by
  have hnone : (texts.findSome? fun text => (fault? text).map (PatternFault.invalid text)) = none :=
    List.findSome?_eq_none_iff.mpr fun text htext => by rw [h text htext]; rfl
  cases hbuilt : unbuildable? texts <;> simp only [matcher, hnone, hbuilt]

end PatternLanguage

/-! ## Listings -/

namespace Listing

variable {fs fs' : FileSystem} {root : Path} {texts : List String} {isMatch : String → Bool}
  {placeholder : String}

/-- What stands in a folder is met by a walk over it: its names may be listed, and it is not written
as the dash that stands for the standard input. -/
structure IsWalked (root : Path) (rights : FolderRights) : Prop where
  readable : rights.readable
  not_dash : ¬ root.isDash

/-- A file as it is listed for an entry of a folder. It is called by its name read as text, which
matches what one of some texts spells, and its size is told if its path can be looked up. -/
structure IsListed [PatternLanguage] (fs : FileSystem) (root : Path) (texts : List String)
    (name : FileName) (entry : Entry) (file : SourceFile) : Prop where
  regular : entry.size?.isSome
  name_eq : file.name = String.ofList (Utf8.decodeLossy name)
  matched : PatternLanguage.Matches texts file.name
  path_eq : file.path = root.join ⟨name⟩
  size_eq : file.size = if fs.holds file.path then entry.size? else none

section Folder

variable {place : Location} {rights : FolderRights} {name : FileName} {entry : Entry}
  (hfs : fs.Unambiguous) (hplace : fs.resolve root = .ok (.existing place (.folder rights)))

include hfs hplace

theorem mem_walked_iff :
    (name, entry) ∈ walked fs root ↔
      IsWalked root rights ∧ fs.entryAt? (place ++ [name]) = some entry := by
  rw [walked]
  split
  · next hdash =>
    exact ⟨fun h => absurd h List.not_mem_nil, fun h => absurd hdash h.1.not_dash⟩
  · next hdash =>
    rw [hfs.mem_list_iff hplace]
    exact ⟨fun h => ⟨⟨h.1, hdash⟩, h.2⟩, fun h => ⟨h.1.readable, h.2⟩⟩

variable (hentry : fs.entryAt? (place ++ [name]) = some entry)

include hentry

/-- By its path, a regular file in a folder is found as it stands there or not at all. -/
theorem size?_join (hregular : entry.size?.isSome) :
    fs.size? (root.join ⟨name⟩) = if fs.holds (root.join ⟨name⟩) then entry.size? else none := by
  have hname := hfs.isEntryName_of_entryAt?_eq_some hentry
  rw [FileSystem.size?, FileSystem.holds, FileSystem.at?_join hplace hname hentry hregular]
  split <;> rfl

theorem sourceFile?_eq_some_iff_isListed [PatternLanguage] {file : SourceFile}
    (hmatches : ∀ name, isMatch name ↔ PatternLanguage.Matches texts name) :
    sourceFile? fs root isMatch (name, entry) = some file ↔
      IsListed fs root texts name entry file := by
  rw [sourceFile?_eq_some_iff, hmatches]
  constructor
  · rintro ⟨hregular, hmatched, rfl⟩
    exact ⟨hregular, rfl, hmatched, rfl, size?_join hfs hplace hentry hregular⟩
  · rintro ⟨hregular, hname, hmatched, hpath, hsize⟩
    have hfound : file.size = fs.size? (root.join ⟨name⟩) := by
      rw [hsize, hpath, size?_join hfs hplace hentry hregular]
    exact ⟨hregular, hmatched, by rw [← hname, ← hfound, ← hpath]⟩

/-- The path of a listed file can be looked up if the folder may be searched and the path is not too
long. -/
theorem IsListed.holds [PatternLanguage] {file : SourceFile}
    (h : IsListed fs root texts name entry file) (hsearch : rights.searchable)
    (hlength : file.path.bytes.length < 4096) :
    fs.holds file.path := by
  have hname := hfs.isEntryName_of_entryAt?_eq_some hentry
  rw [h.path_eq] at hlength ⊢
  rw [FileSystem.holds, FileSystem.at?_join hplace hname hentry h.regular,
    if_pos ⟨hsearch, hlength⟩]
  rfl

end Folder

variable [PatternLanguage]

/-- The files of a folder, in the order of their names. -/
theorem exists_scan_eq_ok (hfolder : fs.isFolder root)
    (hpatterns : PatternLanguage.matcher texts = .ok isMatch) :
    ∃ files, scan fs root texts placeholder = .ok ⟨root, files, false⟩ ∧
      files.Perm ((walked fs root).filterMap (sourceFile? fs root isMatch)) ∧
      files.Pairwise fun a b => a.name ≤ b.name := by
  have htrans (a b c : SourceFile) (hab : decide (a.name ≤ b.name) = true)
      (hbc : decide (b.name ≤ c.name) = true) : decide (a.name ≤ c.name) = true :=
    decide_eq_true (String.le_trans (of_decide_eq_true hab) (of_decide_eq_true hbc))
  have htotal (a b : SourceFile) :
      (decide (a.name ≤ b.name) || decide (b.name ≤ a.name)) = true := by
    simpa using String.le_total a.name b.name
  rw [scan, if_pos hfolder, hpatterns]
  exact ⟨_, rfl, List.mergeSort_perm _ _,
    (List.pairwise_mergeSort htrans htotal _).imp of_decide_eq_true⟩

/-- The size of a listed file is what is found by its path. -/
theorem size_eq_of_scan {files : List SourceFile} {file : SourceFile}
    (hscan : scan fs root texts placeholder = .ok ⟨root, files, false⟩) (hfile : file ∈ files) :
    file.size = (fs.at? file.path).bind Entry.size? := by
  rw [scan] at hscan
  split at hscan
  · split at hscan
    · cases hscan
      obtain ⟨⟨name, entry⟩, -, hlisted⟩ := List.mem_filterMap.mp (List.mem_mergeSort.mp hfile)
      obtain ⟨-, -, rfl⟩ := sourceFile?_eq_some_iff.mp hlisted
      rfl
    · cases hscan
  · cases hscan

theorem size_eq_none_of_scan {files : List SourceFile} {file : SourceFile}
    (hscan : scan fs root texts placeholder = .ok ⟨root, files, false⟩) (hfile : file ∈ files)
    (hlong : 4096 ≤ file.path.bytes.length) : file.size = none := by
  rw [size_eq_of_scan hscan hfile, FileSystem.at?_eq_none_of_le_length hlong]
  rfl

/-- Files of different names are listed in one order, whichever order the folder holds them in, as
long as their paths lead to the same. -/
theorem scan_eq_of_perm {files : List SourceFile}
    (hscan : scan fs root texts placeholder = .ok ⟨root, files, false⟩) (hfolder : fs.isFolder root)
    (hfolder' : fs'.isFolder root) (hperm : (walked fs' root).Perm (walked fs root))
    (hsame : ∀ file ∈ files, fs'.at? file.path = fs.at? file.path)
    (hnames : (files.map SourceFile.name).Nodup) :
    scan fs' root texts placeholder = .ok ⟨root, files, false⟩ := by
  cases hpatterns : PatternLanguage.matcher texts with
  | error fault =>
    rw [scan, if_pos hfolder, hpatterns] at hscan
    cases hscan
  | ok isMatch =>
    obtain ⟨sorted, hsorted, hfiles, horder⟩ := exists_scan_eq_ok hfolder hpatterns
    obtain ⟨files', hscan', hfiles', horder'⟩ := exists_scan_eq_ok hfolder' hpatterns
    obtain rfl : files = sorted := by
      rw [hscan] at hsorted
      cases hsorted
      rfl
    have hlisted : (walked fs root).filterMap (sourceFile? fs' root isMatch) =
        (walked fs root).filterMap (sourceFile? fs root isMatch) :=
      List.filterMap_congr fun child hchild => sourceFile?_congr fun file hfile =>
        hsame file (hfiles.mem_iff.mpr (List.mem_filterMap.mpr ⟨child, hchild, hfile⟩))
    have hagain : files'.Perm files :=
      hfiles'.trans (((hperm.filterMap _).trans (.of_eq hlisted)).trans hfiles.symm)
    have heq : files' = files := by
      refine hagain.eq_of_pairwise (fun a b ha hb hab hba => ?_) horder' horder
      exact List.inj_on_of_nodup_map hnames (hagain.mem_iff.mp ha) hb (String.le_antisymm hab hba)
    rw [hscan', heq]

/-- It makes no difference in which order a file system holds its entries, if the listed names
differ. -/
theorem scan_eq_of_perm_entries (hfs : fs.Unambiguous) {files : List SourceFile}
    (hscan : scan fs root texts placeholder = .ok ⟨root, files, false⟩) (hfolder : fs.isFolder root)
    (hperm : fs'.entries.Perm fs.entries) (hworking : fs'.working = fs.working)
    (hnames : (files.map SourceFile.name).Nodup) :
    scan fs' root texts placeholder = .ok ⟨root, files, false⟩ := by
  have hresolve (path : Path) := hfs.resolve_of_perm hperm hworking path
  have hat (path : Path) : fs'.at? path = fs.at? path := by
    rw [FileSystem.at?, FileSystem.at?, hresolve]
  have hfolder' : fs'.isFolder root := by
    rwa [FileSystem.isFolder, hat, ← FileSystem.isFolder]
  have hwalked : (walked fs' root).Perm (walked fs root) := by
    rw [walked, walked, FileSystem.list, FileSystem.list, hresolve]
    split
    · rfl
    · split
      · split
        · exact hperm.filterMap _
        · rfl
      · rfl
  exact scan_eq_of_perm hscan hfolder hfolder' hwalked (fun file _ => hat file.path) hnames

/-- Without a folder a placeholder is listed, whatever the patterns are. In a folder, a text that
spells no pattern is an error, whatever the folder holds, and so are patterns that cannot be matched
together. Otherwise just the regular files that stand in a folder that is walked and match are
listed, each of them once, in the order of the bytes of their names, and each with its size if its
path can be looked up; and if the names differ, the files are listed alike whatever order they are
held in. -/
theorem scan_exact (hfs : fs.Unambiguous) (root : Path) (texts : List String)
    (placeholder : String) :
    (¬ fs.isFolder root → scan fs root texts placeholder =
      .ok ⟨root, [⟨placeholder, root.join (.ofString placeholder), none⟩], true⟩) ∧
    (fs.isFolder root → (∃ text ∈ texts, ∃ reason, PatternLanguage.fault? text = some reason) →
      ∃ text ∈ texts, ∃ reason, PatternLanguage.fault? text = some reason ∧
        scan fs root texts placeholder = .error (.invalid text reason)) ∧
    ∀ place rights, fs.resolve root = .ok (.existing place (.folder rights)) →
      (∀ text ∈ texts, PatternLanguage.fault? text = none) →
      (∀ reason, PatternLanguage.unbuildable? texts = some reason →
        scan fs root texts placeholder = .error (.unbuildable reason)) ∧
      (PatternLanguage.unbuildable? texts = none →
        ∃ files, scan fs root texts placeholder = .ok ⟨root, files, false⟩ ∧
          (∀ file, file ∈ files ↔ IsWalked root rights ∧
            ∃ name entry, fs.entryAt? (place ++ [name]) = some entry ∧
              IsListed fs root texts name entry file) ∧
          (∀ file ∈ files, file.size = (fs.at? file.path).bind Entry.size? ∧
            (rights.searchable → file.path.bytes.length < 4096 → fs.holds file.path)) ∧
          (files.map SourceFile.path).Nodup ∧
          (files.Pairwise fun a b => Utf8.encode a.name.toList ≤ Utf8.encode b.name.toList) ∧
          ∀ entries : List (Location × Entry), entries.Perm fs.entries →
            (files.map SourceFile.name).Nodup →
            scan ⟨entries, fs.working⟩ root texts placeholder = .ok ⟨root, files, false⟩) := by
  refine ⟨fun hmissing => if_neg hmissing, fun hfolder hinvalid => ?_,
    fun place rights hplace hvalid => ?_⟩
  · obtain ⟨text, htext, reason, hreason, hpatterns⟩ := PatternLanguage.matcher_of_invalid hinvalid
    exact ⟨text, htext, reason, hreason, by rw [scan, if_pos hfolder, hpatterns]⟩
  have hfolder : fs.isFolder root := FileSystem.isFolder_iff.mpr ⟨place, rights, hplace⟩
  have hpatterns := PatternLanguage.matcher_of_valid hvalid
  constructor
  · intro reason hreason
    rw [scan, if_pos hfolder, hpatterns, hreason]
  · intro hbuilt
    rw [hbuilt] at hpatterns
    have hmatches (name : String) : texts.any (PatternLanguage.isMatch · name) ↔
        PatternLanguage.Matches texts name := List.any_eq_true
    obtain ⟨files, hscan, hfiles, horder⟩ := exists_scan_eq_ok hfolder hpatterns
    have hmem (file : SourceFile) : file ∈ files ↔ IsWalked root rights ∧
        ∃ name entry, fs.entryAt? (place ++ [name]) = some entry ∧
          IsListed fs root texts name entry file := by
      rw [hfiles.mem_iff, List.mem_filterMap]
      constructor
      · rintro ⟨⟨name, entry⟩, hwalked, hlisted⟩
        obtain ⟨hwalk, hentry⟩ := (mem_walked_iff hfs hplace).mp hwalked
        exact ⟨hwalk, name, entry, hentry,
          (sourceFile?_eq_some_iff_isListed hfs hplace hentry hmatches).mp hlisted⟩
      · rintro ⟨hwalk, name, entry, hentry, hlisted⟩
        exact ⟨(name, entry), (mem_walked_iff hfs hplace).mpr ⟨hwalk, hentry⟩,
          (sourceFile?_eq_some_iff_isListed hfs hplace hentry hmatches).mpr hlisted⟩
    have hpaths := nodup_map_path (fun name => texts.any (PatternLanguage.isMatch · name))
      (hfs.nodup_list root) fun child hchild =>
        (hfs.isEntryName_of_mem_list root child hchild).slash_not_mem
    refine ⟨files, hscan, hmem, fun file hfile => ⟨size_eq_of_scan hscan hfile, ?_⟩,
      (hfiles.map _).nodup_iff.mpr hpaths, horder.imp Utf8.le_iff_encode_le.mp,
      fun entries hperm hnames => scan_eq_of_perm_entries hfs hscan hfolder hperm rfl hnames⟩
    obtain ⟨-, name, entry, hentry, hlisted⟩ := (hmem file).mp hfile
    exact hlisted.holds hfs hplace hentry

end Listing

/-! ## A folder in two orders -/

/-- A folder with two source files, and with what is not listed: a folder with a file in it, a link
and a file whose name does not match. -/
def mixedEntries : List (Location × Entry) :=
  let name (text : String) : FileName := Utf8.encode text.toList
  [([name "d"], .folder), ([name "d", name "a.cs"], .file [0x78] false),
    ([name "d", name "s.cs"], .folder), ([name "d", name "s.cs", name "n.cs"], .file [] false),
    ([name "d", name "l.cs"], .link (.ofString "a.cs")),
    ([name "d", name "r.md"], .file [0x78] false), ([name "d", name "b.cs"], .locked 2)]

/-- The two source files as they are listed. -/
def mixedListing : Listing :=
  { root := .ofString "d"
    files := [⟨"a.cs", .ofString "d/a.cs", some 1⟩, ⟨"b.cs", .ofString "d/b.cs", some 2⟩]
    placeholder := false }

/-- The folder is listed alike in the opposite order. -/
theorem scan_exact_mixedEntries :
    Listing.scan ⟨mixedEntries, []⟩ (.ofString "d") ["*.cs"] "p" = .ok mixedListing ∧
      Listing.scan ⟨mixedEntries.reverse, []⟩ (.ofString "d") ["*.cs"] "p" = .ok mixedListing := by
  have hfs : FileSystem.Unambiguous ⟨mixedEntries, []⟩ := ⟨by decide +kernel, by decide +kernel⟩
  have hscan : Listing.scan ⟨mixedEntries, []⟩ (.ofString "d") ["*.cs"] "p" = .ok mixedListing :=
    Listing.scan_of_pairwise (by decide +kernel) (by decide +kernel) (by decide)
  have hvalid : ∀ text ∈ ["*.cs"], PatternLanguage.fault? text = none := by decide +kernel
  obtain ⟨files, hfiles, -, -, -, -, horders⟩ :=
    ((Listing.scan_exact hfs (.ofString "d") ["*.cs"] "p").2.2 [Utf8.encode "d".toList] {}
      (by decide +kernel) hvalid).2 rfl
  obtain rfl : files = mixedListing.files := by
    rw [hscan] at hfiles
    cases hfiles
    rfl
  exact ⟨hscan, horders _ (List.reverse_perm _) (by decide)⟩

/-! ## A path that is too long -/

/-- The folder that relative paths start from, spelled with some slashes. -/
def slashed (k : Nat) : Path := ⟨FileName.dot :: FileName.slash :: List.replicate k FileName.slash⟩

/-- A file system with one source file. -/
def singleFile : FileSystem := ⟨[([Utf8.encode "a.cs".toList], .file [0x78] false)], []⟩

theorem getLast?_slashed (k : Nat) : (slashed k).bytes.getLast? = some FileName.slash := by
  have hbytes : (slashed k).bytes =
      FileName.dot :: List.replicate k FileName.slash ++ [FileName.slash] := by
    rw [slashed, ← List.replicate_succ, List.replicate_succ', List.cons_append]
  rw [hbytes, List.getLast?_concat]

theorem length_slashed_join (k : Nat) {name : FileName} (hname : FileName.slash ∉ name) :
    ((slashed k).join ⟨name⟩).bytes.length = k + 2 + name.length := by
  have hjoin : (slashed k).join ⟨name⟩ = ⟨(slashed k).bytes ++ name⟩ := by
    simp [Path.join, Path.isAbsolute_of_slash_not_mem hname, getLast?_slashed]
  rw [hjoin, List.length_append, slashed, List.length_cons, List.length_cons, List.length_replicate]

/-- Slashes at the end make no difference to where a path leads to, if it can be looked up. -/
theorem resolve_slashed (fs : FileSystem) {k : Nat} (hk : k < 4094) :
    fs.resolve (slashed k) = fs.resolve (slashed 0) := by
  have hnames (k : Nat) : Path.names (List.replicate k FileName.slash) = [] := by
    induction k with
    | zero => rfl
    | succ k ih =>
      rw [List.replicate_succ, ← List.nil_append (FileName.slash :: _), Path.names_append_slash, ih]
      rfl
  have hsteps : (slashed k).steps = (slashed 0).steps := by
    rw [Path.steps_eq, if_pos (getLast?_slashed k), slashed, ← List.singleton_append,
      Path.names_append_slash, hnames]
    rfl
  have hlength : (slashed k).bytes.length < 4096 := by
    rw [slashed, List.length_cons, List.length_cons, List.length_replicate]
    omega
  refine FileSystem.resolve_congr rfl ?_ ⟨fun _ => by decide, fun _ => hlength⟩ rfl fun place => ?_
  · simp [slashed, FileName.dot, FileName.slash]
  · rw [hsteps]

/-- So not every file is listed with its size. -/
theorem not_forall_size_listed :
    ¬ ∀ (fs : FileSystem) (root : Path) (texts : List String) (placeholder : String)
      (files : List SourceFile), fs.Unambiguous →
        Listing.scan fs root texts placeholder = .ok ⟨root, files, false⟩ →
        ∀ name entry, (name, entry) ∈ fs.list root → entry.size?.isSome →
          PatternLanguage.Matches texts (String.ofList (Utf8.decodeLossy name)) →
          ⟨String.ofList (Utf8.decodeLossy name), root.join ⟨name⟩, entry.size?⟩ ∈ files := by
  intro hall
  have hfs : singleFile.Unambiguous := ⟨by decide +kernel, by decide +kernel⟩
  have hroot : singleFile.resolve (slashed 4090) = .ok (.existing [] .folder) :=
    (resolve_slashed singleFile (by decide)).trans (by decide +kernel)
  have hmatches : PatternLanguage.Matches ["*.cs"]
      (String.ofList (Utf8.decodeLossy (Utf8.encode "a.cs".toList))) :=
    ⟨"*.cs", List.mem_singleton_self _, by decide +kernel⟩
  have hvalid : ∀ text ∈ ["*.cs"], PatternLanguage.fault? text = none := by decide +kernel
  obtain ⟨files, hscan, -, -⟩ := Listing.exists_scan_eq_ok
    (FileSystem.isFolder_iff.mpr ⟨[], {}, hroot⟩) (PatternLanguage.matcher_of_valid hvalid)
  have hmem := hall singleFile (slashed 4090) ["*.cs"] "p" files hfs hscan
    (Utf8.encode "a.cs".toList) (.file [0x78] false) ((hfs.mem_list_iff hroot).mpr ⟨rfl, rfl⟩) rfl
    hmatches
  have hlength : ((slashed 4090).join ⟨Utf8.encode "a.cs".toList⟩).bytes.length = 4096 :=
    length_slashed_join 4090 (by decide)
  have hsize := Listing.size_eq_none_of_scan hscan hmem (Nat.le_of_eq hlength.symm)
  cases hsize

end RedactedBundle
