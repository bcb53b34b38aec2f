import Mathlib.Data.List.Nodup
import RedactedBundle.Files.Listing
import RedactedBundle.Proofs.Files.Path
import RedactedBundle.Proofs.Text.Utf8

/-!
# Names in a listing

A listing calls its files by their names read as text, and two files of a folder can be called
alike. A name that is listed once and stands in the folder as it is spelled is found as the file of
that spelling.

## Main statements

- `Listing.scan_of_pairwise`: the listing of a folder that is in order
- `Listing.find?_of_count_eq_one`: the file that a name listed once stands for
- `Listing.nodup_files_of_scan`: different names of a folder are listed as different files
- `Listing.forall_find?_name_iff`: when every listed file is found by its name
-/

namespace RedactedBundle

/-- Of what is counted once there is one element only. -/
theorem eq_of_count_map_eq_one {α : Type} {f : α → String} {name : String} {xs : List α} {x y : α}
    (hcount : (xs.map f).count name = 1) (hx : x ∈ xs) (hy : y ∈ xs) (hfx : f x = name)
    (hfy : f y = name) : x = y := by
  induction xs with
  | nil => cases hx
  | cons z rest ih =>
    rw [List.map_cons, List.count_cons] at hcount
    by_cases hz : f z = name
    · have hnone : name ∉ rest.map f := by
        rw [if_pos (beq_iff_eq.mpr hz)] at hcount
        exact List.count_eq_zero.mp (Nat.succ.inj hcount)
      have hhead {w : α} (hw : w ∈ z :: rest) (hfw : f w = name) : w = z := by
        rcases List.mem_cons.mp hw with heq | hmem
        · exact heq
        · exact absurd (List.mem_map.mpr ⟨w, hmem, hfw⟩) hnone
      rw [hhead hx hfx, hhead hy hfy]
    · have htail {w : α} (hw : w ∈ z :: rest) (hfw : f w = name) : w ∈ rest :=
        (List.mem_cons.mp hw).resolve_left fun heq => hz (heq ▸ hfw)
      rw [if_neg (by simpa using hz), Nat.add_zero] at hcount
      exact ih hcount (htail hx hfx) (htail hy hfy)

namespace Listing

theorem name_of_find?_eq_some {listing : Listing} {name : String} {file : SourceFile}
    (h : listing.find? name = some file) : file.name = name := by
  simpa using List.find?_some h

/-- Files that stand in a folder in the order of their names are listed as they stand. -/
theorem scan_of_pairwise [PatternLanguage] {fs : FileSystem} {root : Path} {patterns : List String}
    {placeholder : String} {files : List SourceFile} (hfolder : fs.isFolder root)
    (hfiles : (PatternLanguage.matcher patterns).map (fun isMatch =>
      (walked fs root).filterMap (sourceFile? fs root isMatch)) = .ok files)
    (hsorted : files.Pairwise fun a b => a.name ≤ b.name) :
    scan fs root patterns placeholder = .ok ⟨root, files, false⟩ := by
  rw [scan, if_pos hfolder]
  cases hpatterns : PatternLanguage.matcher patterns with
  | error fault => rw [hpatterns] at hfiles; cases hfiles
  | ok isMatch =>
    rw [hpatterns] at hfiles
    cases hfiles
    dsimp only
    rw [List.mergeSort_of_pairwise (by simpa using hsorted)]

/-- A folder in which something stands is a folder. -/
theorem isFolder_of_mem_list {fs : FileSystem} {root : Path} {child : FileName × Entry}
    (h : child ∈ fs.list root) : fs.isFolder root := by
  rw [FileSystem.list] at h
  rw [FileSystem.isFolder, FileSystem.at?]
  split at h
  · next hresolve => rw [hresolve]; rfl
  · cases h

/-- A walk that meets something meets all that stands in the folder. -/
theorem walked_eq_list_of_mem {fs : FileSystem} {root : Path} {child : FileName × Entry}
    (h : child ∈ walked fs root) : walked fs root = fs.list root := by
  rw [walked] at h ⊢
  split at h
  · cases h
  · next hdash => rw [if_neg hdash]

/-- What is listed of a folder, and how. -/
theorem sourceFile?_eq_some_iff {fs : FileSystem} {root : Path} {isMatch : String → Bool}
    {bytes : FileName} {entry : Entry} {file : SourceFile} :
    sourceFile? fs root isMatch (bytes, entry) = some file ↔
      entry.size?.isSome ∧ isMatch file.name ∧
        file = ⟨String.ofList (Utf8.decodeLossy bytes), root.join ⟨bytes⟩,
          fs.size? (root.join ⟨bytes⟩)⟩ := by
  rw [sourceFile?]
  constructor
  · intro h
    split at h
    · next hlisted =>
      cases h
      obtain ⟨hregular, hmatch⟩ := Bool.and_eq_true_iff.mp hlisted
      exact ⟨hregular, hmatch, rfl⟩
    · cases h
  · rintro ⟨hregular, hmatch, rfl⟩
    rw [if_pos (Bool.and_eq_true_iff.mpr ⟨hregular, hmatch⟩)]

/-- An entry is listed alike over other files if its path leads to the same there. -/
theorem sourceFile?_congr {fs fs' : FileSystem} {root : Path} {isMatch : String → Bool}
    {child : FileName × Entry}
    (h : ∀ file, sourceFile? fs root isMatch child = some file →
      fs'.at? file.path = fs.at? file.path) :
    sourceFile? fs' root isMatch child = sourceFile? fs root isMatch child := by
  obtain ⟨bytes, entry⟩ := child
  rw [sourceFile?] at h
  rw [sourceFile?, sourceFile?]
  split
  · next hlisted => rw [FileSystem.size?, FileSystem.size?, h _ (if_pos hlisted)]
  · rfl

/-- A regular file is listed under the name by which some file is listed, if it has that name. -/
theorem mem_files_of_mem_names [PatternLanguage] {fs : FileSystem} {root : Path}
    {patterns : List String} {placeholder name : String} {listing : Listing} {entry : Entry}
    (hscan : scan fs root patterns placeholder = .ok listing)
    (hentry : (Utf8.encode name.toList, entry) ∈ fs.list root) (hregular : entry.size?.isSome)
    (hname : name ∈ listing.files.map SourceFile.name) :
    let path := root.join ⟨Utf8.encode name.toList⟩
    ⟨name, path, fs.size? path⟩ ∈ listing.files := by
  intro path
  rw [scan, if_pos (isFolder_of_mem_list hentry)] at hscan
  cases hpatterns : PatternLanguage.matcher patterns with
  | error fault => rw [hpatterns] at hscan; cases hscan
  | ok isMatch =>
    rw [hpatterns] at hscan
    cases hscan
    obtain ⟨file, hfile, hcalled⟩ := List.mem_map.mp hname
    obtain ⟨⟨bytes, other⟩, hother, hlisted⟩ := List.mem_filterMap.mp (List.mem_mergeSort.mp hfile)
    -- Patterns see the name as text only, which is the same for both files.
    have hmatch : isMatch name = true :=
      hcalled ▸ (sourceFile?_eq_some_iff.mp hlisted).2.1
    rw [← walked_eq_list_of_mem hother] at hentry
    refine List.mem_mergeSort.mpr (List.mem_filterMap.mpr ⟨_, hentry, ?_⟩)
    rw [sourceFile?_eq_some_iff]
    simp only [Utf8.decodeLossy_encode, String.ofList_toList]
    exact ⟨hregular, hmatch, rfl⟩

/-- A name that is listed once and stands in the folder as it is spelled is found as the file of
that spelling. -/
theorem find?_of_count_eq_one [PatternLanguage] {fs : FileSystem} {root : Path}
    {patterns : List String} {placeholder name : String} {listing : Listing} {entry : Entry}
    (hscan : scan fs root patterns placeholder = .ok listing)
    (hentry : (Utf8.encode name.toList, entry) ∈ fs.list root) (hregular : entry.size?.isSome)
    (hcount : (listing.files.map SourceFile.name).count name = 1) :
    let path := root.join ⟨Utf8.encode name.toList⟩
    listing.find? name = some ⟨name, path, fs.size? path⟩ := by
  intro path
  have hname : name ∈ listing.files.map SourceFile.name := List.count_pos_iff.mp (by omega)
  have hmem := mem_files_of_mem_names hscan hentry hregular hname
  cases hfind : listing.find? name with
  | none =>
    rw [find?, List.find?_eq_none] at hfind
    exact absurd (decide_eq_true rfl) (hfind _ hmem)
  | some file =>
    rw [eq_of_count_map_eq_one hcount (List.mem_of_find?_eq_some hfind) hmem
      (name_of_find?_eq_some hfind) rfl]

/-- Different names lead to different paths, whatever they are read as. -/
theorem nodup_map_path {fs : FileSystem} {root : Path} (isMatch : String → Bool)
    (hnames : ((fs.list root).map Prod.fst).Nodup)
    (hslash : ∀ child ∈ fs.list root, FileName.slash ∉ child.1) :
    (((walked fs root).filterMap (sourceFile? fs root isMatch)).map SourceFile.path).Nodup := by
  rw [walked]
  split
  · exact List.nodup_nil
  refine List.pairwise_map.mpr (List.pairwise_filterMap.mpr ?_)
  refine (List.pairwise_map.mp hnames).imp_of_mem fun {a b} ha hb hne => ?_
  rintro file hfile other hother heq
  have hpath := congrArg SourceFile.path (sourceFile?_eq_some_iff.mp hfile).2.2
  have hpath' := congrArg SourceFile.path (sourceFile?_eq_some_iff.mp hother).2.2
  exact hne (Path.eq_of_join_eq (hslash a ha) (hslash b hb)
    (hpath.symm.trans (heq.trans hpath')))

/-- A folder in which each name stands once is listed without repetitions. -/
theorem nodup_files_of_scan [PatternLanguage] {fs : FileSystem} {root : Path}
    {patterns : List String} {placeholder : String} {listing : Listing}
    (hscan : scan fs root patterns placeholder = .ok listing)
    (hnames : ((fs.list root).map Prod.fst).Nodup)
    (hslash : ∀ child ∈ fs.list root, FileName.slash ∉ child.1) : listing.files.Nodup := by
  rw [scan] at hscan
  split at hscan
  · split at hscan
    · next isMatch _ =>
      cases hscan
      exact (List.mergeSort_perm _ _).nodup_iff.mpr (nodup_map_path isMatch hnames hslash).of_map
    · cases hscan
  · cases hscan
    exact List.nodup_singleton _

theorem find?_name_of_nodup {listing : Listing} (h : (listing.files.map SourceFile.name).Nodup)
    {file : SourceFile} (hfile : file ∈ listing.files) :
    listing.find? file.name = some file := by
  cases hfind : listing.find? file.name with
  | none =>
    rw [find?, List.find?_eq_none] at hfind
    exact absurd (decide_eq_true rfl) (hfind _ hfile)
  | some other =>
    have hother := List.mem_of_find?_eq_some hfind
    rw [List.inj_on_of_nodup_map h hother hfile (name_of_find?_eq_some hfind)]

/-- Every listed file is found by its name exactly if no two of them are called alike. -/
theorem forall_find?_name_iff {listing : Listing} (h : listing.files.Nodup) :
    (∀ file ∈ listing.files, listing.find? file.name = some file) ↔
      (listing.files.map SourceFile.name).Nodup := by
  constructor
  · intro hfind
    refine List.Nodup.map_on (fun file hfile other hother heq => ?_) h
    have hfound := hfind file hfile
    rw [heq, hfind other hother] at hfound
    exact (Option.some.inj hfound).symm
  · intro hnodup file hfile
    exact find?_name_of_nodup hnodup hfile

end Listing

end RedactedBundle
