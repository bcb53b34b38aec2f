import RedactedBundle.Proofs.CommandLine.AllOrNothing
import RedactedBundle.Proofs.Files.Resolve
import RedactedBundle.Proofs.Source.Lowering

/-!
# Bundling a whole folder

Without names of files and without anything to hide, the command for bundles stages what it lists.
It asks for each file by its name read as text. Of files that are called alike it stages the first
one only, so a folder is bundled as a whole exactly if each of its files that holds something is the
first of its name.

## Main statements

- `stageFolder_of_forall_readSource`: what is staged of a folder
- `stageFolder_namedFiles_alike`: two files that are called alike, of which one is staged
-/

namespace RedactedBundle

/-! ## The first files of their names -/

/-- Without repetitions, the names of some files are those of the files that come first under their
names. -/
theorem eraseDups_map_name {files : List SourceFile} (h : files.Nodup) :
    (files.map SourceFile.name).eraseDups =
      (files.filter fun file => files.find? (·.name = file.name) = some file).map
        SourceFile.name := by
  induction files using List.reverseRecOn with
  | nil => rfl
  | append_singleton files file ih =>
    obtain ⟨hfiles, -, hfresh⟩ := List.nodup_append.mp h
    -- What comes first among the files before is found before the last one.
    have hbefore : (files.filter fun other =>
          (files ++ [file]).find? (·.name = other.name) = some other) =
        files.filter fun other => files.find? (·.name = other.name) = some other := by
      refine List.filter_congr fun other hother => ?_
      have hfound : (files.find? (·.name = other.name)).isSome :=
        List.find?_isSome.mpr ⟨other, hother, decide_eq_true rfl⟩
      rw [List.find?_append, Option.or_of_isSome hfound]
    rw [List.filter_append, hbefore, List.map_append, List.map_append, ← ih hfiles]
    by_cases hold : file.name ∈ files.map SourceFile.name
    · have hlate : (files ++ [file]).find? (·.name = file.name) ≠ some file := by
        intro hfind
        obtain ⟨other, hother, hname⟩ := List.mem_map.mp hold
        have hfound : (files.find? (·.name = file.name)).isSome :=
          List.find?_isSome.mpr ⟨other, hother, decide_eq_true hname⟩
        rw [List.find?_append, Option.or_of_isSome hfound] at hfind
        exact hfresh file (List.mem_of_find?_eq_some hfind) file List.mem_cons_self rfl
      rw [List.filter_cons_of_neg (by simpa using hlate)]
      exact (eraseDups_append_singleton_of_mem hold).trans (List.append_nil _).symm
    · have hnone : files.find? (·.name = file.name) = none := by
        refine List.find?_eq_none.mpr fun other hother hname => hold ?_
        exact List.mem_map.mpr ⟨other, hother, of_decide_eq_true hname⟩
      rw [List.filter_cons_of_pos (by simp [List.find?_append, hnone])]
      exact eraseDups_append_singleton_of_not_mem hold

/-! ## Staging -/

section Stage

variable {treeOf : String → Except Failure Node} {fs : FileSystem} {session : Session}
  {text : SourceFile → String}

theorem Session.readsAs_of_readSource {file : SourceFile} {text : String}
    (h : fs.readSource file.path = .ok text) : ReadsAs fs file text := by
  rw [FileSystem.readSource] at h
  cases hread : fs.read file.path with
  | error error => rw [hread] at h; cases h
  | ok bytes =>
    rw [hread] at h
    cases h
    exact .content (FileSystem.isFile_of_read_eq_ok hread) hread

/-- A listed file whose text has a tree that fits is shown as that text under its name. -/
theorem exists_sourceOf_of_readSource {name : String} {file : SourceFile} {tree : Node}
    (hfind : session.listing.find? name = some file)
    (hread : fs.readSource file.path = .ok (text file))
    (htree : session.treeOf (text file) = .ok tree) (hfits : tree.Fits (text file).toList) :
    ∃ source, session.sourceOf fs name = .ok source ∧
      source.redact session.placeholders Hidden.empty = text file := by
  have hsource := (Source.wellFormed_ofNode hfits).redact?_empty session.placeholders
  refine ⟨Source.ofNode (text file) tree, Session.sourceOf_eq_ok_iff.mpr
    ⟨file, _, tree, hfind, Session.readsAs_of_readSource hread, htree, rfl⟩, ?_⟩
  rw [Source.redact, hsource]
  rfl

/-- Of a listing whose files can all be read, those are staged that come first under their names and
hold something. -/
theorem stageAll_names (hbundle : session.bundle = Bundle.empty)
    (hfiles : session.listing.files.Nodup)
    (hread : ∀ file ∈ session.listing.files, fs.readSource file.path = .ok (text file))
    (htree : ∀ file ∈ session.listing.files,
      ∃ tree, session.treeOf (text file) = .ok tree ∧ tree.Fits (text file).toList) :
    ∃ staged,
      stageAll fs [] [] (session.listing.files.map SourceFile.name) session = .ok staged ∧
        staged.bundle.entries =
          (session.listing.files.filter fun file =>
            session.listing.find? file.name = some file ∧ text file ≠ "").map
              fun file => ⟨file.name, text file⟩ := by
  have hsource : ∀ name ∈ session.listing.files.map SourceFile.name, ∃ source,
      session.sourceOf fs name = .ok source ∧ ∀ file, session.listing.find? name = some file →
        source.redact session.placeholders Hidden.empty = text file := by
    intro name hname
    obtain ⟨other, hother, hcalled⟩ := List.mem_map.mp hname
    obtain ⟨file, hfind⟩ : ∃ file, session.listing.find? name = some file :=
      Option.isSome_iff_exists.mp
        (List.find?_isSome.mpr ⟨other, hother, decide_eq_true hcalled⟩)
    have hfile := List.mem_of_find?_eq_some hfind
    obtain ⟨tree, hparse, hfits⟩ := htree file hfile
    obtain ⟨source, hsource, hshown⟩ :=
      exists_sourceOf_of_readSource hfind (hread file hfile) hparse hfits
    refine ⟨source, hsource, fun file' hfind' => ?_⟩
    rw [hshown, Option.some.inj (hfind.symm.trans hfind')]
  choose! source hsource hshown using hsource
  obtain ⟨staged, hstaged, -, hentries⟩ := stageAll_of_sourceOf_eq_ok [] [] hbundle hsource
  refine ⟨staged, hstaged, ?_⟩
  rw [hentries, eraseDups_filter, eraseDups_map_name hfiles, List.filter_map, List.map_map,
    List.filter_filter]
  have hfound {file : SourceFile} (hmem : file ∈ session.listing.files)
      (hfind : session.listing.find? file.name = some file) :
      (source file.name).redact session.placeholders (.ofLists [] []) = text file :=
    hshown file.name (List.mem_map_of_mem hmem) file hfind
  have hfilter : (session.listing.files.filter fun file =>
        session.listing.find? file.name = some file ∧ text file ≠ "") =
      session.listing.files.filter fun file =>
        decide ((source file.name).redact session.placeholders (.ofLists [] []) ≠ "") &&
          decide (session.listing.find? file.name = some file) := by
    refine List.filter_congr fun file hmem => ?_
    by_cases hfind : session.listing.find? file.name = some file
    · rw [hfound hmem hfind]
      simp [hfind]
    · simp [hfind]
  rw [hfilter]
  refine List.map_congr_left fun file hmem => ?_
  obtain ⟨hmem, hfirst⟩ := List.mem_filter.mp hmem
  have hfind := of_decide_eq_true (Bool.and_eq_true_iff.mp hfirst).2
  exact congrArg (Snapshot.mk file.name) (hfound hmem hfind)

/-- Each listed file is found by its name exactly if no two of them are called alike. If all files
can be read, then without names and without anything to hide those are staged that are found by
their names and hold something, each with its own text; so all that hold something are staged
exactly if each of them is found by its name. -/
theorem stageFolder_of_forall_readSource [PatternLanguage] [TomlReader]
    {environment : Environment} {config : Option Path} {folder : Path} {settings : Settings}
    (hsettings : Settings.load fs environment folder config = .ok settings)
    (hsession : Session.startReading treeOf fs folder settings = .ok session)
    (hnames : ((fs.list folder).map Prod.fst).Nodup)
    (hslash : ∀ child ∈ fs.list folder, FileName.slash ∉ child.1) :
    let listing := session.listing
    ((∀ file ∈ listing.files, listing.find? file.name = some file) ↔
        (listing.files.map SourceFile.name).Nodup) ∧
      ∀ text : SourceFile → String,
        (∀ file ∈ listing.files, fs.readSource file.path = .ok (text file)) →
        (∀ file ∈ listing.files,
          ∃ tree, treeOf (text file) = .ok tree ∧ tree.Fits (text file).toList) →
        ∃ staged, stageFolder treeOf fs environment config folder [] [] [] = .ok staged ∧
          staged.bundle.entries =
            (listing.files.filter fun file =>
              listing.find? file.name = some file ∧ text file ≠ "").map
                (fun file => ⟨file.name, text file⟩) ∧
          (staged.bundle.entries.length = (listing.files.filter (text · ≠ "")).length ↔
            ∀ file ∈ listing.files, text file ≠ "" → listing.find? file.name = some file) := by
  intro listing
  have hstart := Session.isStart_of_startReading_eq_ok hsession
  have hfiles : listing.files.Nodup := Listing.nodup_files_of_scan hstart.scan_eq hnames hslash
  refine ⟨Listing.forall_find?_name_iff hfiles, fun text hread htree => ?_⟩
  rw [← hstart.treeOf_eq] at htree
  obtain ⟨staged, hstaged, hentries⟩ := stageAll_names hstart.bundle_eq hfiles hread htree
  refine ⟨staged, ?_, hentries, ?_⟩
  · rw [stageFolder, hsettings, Except.bind, hsession]
    exact hstaged
  · have hlength : staged.bundle.entries.length =
        ((listing.files.filter (text · ≠ "")).filter fun file =>
          listing.find? file.name = some file).length := by
      rw [hentries, List.length_map, List.filter_filter]
      simp only [Bool.decide_and, listing]
    rw [hlength, List.length_filter_eq_length_iff]
    simp only [List.mem_filter, decide_eq_true_eq, and_imp]

end Stage

/-! ## Names that are no text -/

/-- A folder with two source files of given names. -/
def namedFiles (first second : FileName) : FileSystem :=
  { entries :=
      [([Utf8.encode "d".toList], .folder),
        ([Utf8.encode "d".toList, first], .file (Utf8.encode "class A \x7b \x7d".toList) false),
        ([Utf8.encode "d".toList, second], .file (Utf8.encode "class B \x7b \x7d".toList) false)]
    working := [] }

/-- The two files as they are listed. -/
def namedListing (first second : FileName) : Listing :=
  let listed (name : FileName) : SourceFile :=
    ⟨String.ofList (Utf8.decodeLossy name), (Path.ofString "d").join ⟨name⟩, some 11⟩
  { root := .ofString "d", files := [listed first, listed second], placeholder := false }

/-- A session over that folder. -/
def namedSession (first second : FileName) : Session :=
  { pairSession with listing := namedListing first second }

/-- A name of one byte, which need not be text, and an ending. -/
def byteName (b : UInt8) : FileName := b :: Utf8.encode ".cs".toList

/-- Two files that are called differently, one of them by a byte that is no text, are both found and
both staged. -/
theorem stageFolder_of_forall_readSource_namedFiles :
    let fs := namedFiles (byteName 0x61) (byteName 0xFF)
    let session := namedSession (byteName 0x61) (byteName 0xFF)
    (∀ file ∈ session.listing.files, session.listing.find? file.name = some file) ∧
      ∃ staged, stageFolder plainTree fs ⟨none, none, none⟩ none (.ofString "d") [] [] [] =
          .ok staged ∧
        staged.bundle.entries =
          [⟨"a.cs", "class A \x7b \x7d"⟩, ⟨"\uFFFD.cs", "class B \x7b \x7d"⟩] := by
  intro fs session
  have hsettings : Settings.load fs ⟨none, none, none⟩ (.ofString "d") none =
      .ok Settings.builtin := by decide +kernel
  have hscan : Listing.scan fs (.ofString "d") Settings.builtin.project.patterns
      Settings.builtin.project.placeholderFile = .ok session.listing :=
    Listing.scan_of_pairwise (by decide +kernel) (by decide +kernel) (by decide)
  have hsession : Session.startReading plainTree fs (.ofString "d") Settings.builtin =
      .ok session := by
    rw [Session.startReading, hscan]
    rfl
  obtain ⟨hfind, hstage⟩ := stageFolder_of_forall_readSource hsettings hsession
    (by decide +kernel) (by decide +kernel)
  let text (file : SourceFile) : String :=
    if file.name = "a.cs" then "class A \x7b \x7d" else "class B \x7b \x7d"
  have htree : ∀ file ∈ session.listing.files, ∃ tree,
      plainTree (text file) = .ok tree ∧ tree.Fits (text file).toList := by
    have hfits : ∀ file ∈ session.listing.files,
        (Node.ofText (text file)).Fits (text file).toList := by decide +kernel
    exact fun file hfile => ⟨_, rfl, hfits file hfile⟩
  obtain ⟨staged, hstaged, hentries, -⟩ := hstage text (by decide +kernel) htree
  refine ⟨hfind.mpr (by decide +kernel), staged, hstaged, hentries.trans (by decide +kernel)⟩

/-- Two files whose names differ in bytes that are no text are called alike. The second one is found
as the first one, and only the first one is staged. -/
theorem stageFolder_namedFiles_alike :
    let fs := namedFiles (byteName 0xFE) (byteName 0xFF)
    let listing := namedListing (byteName 0xFE) (byteName 0xFF)
    Settings.load fs ⟨none, none, none⟩ (.ofString "d") none = .ok Settings.builtin ∧
      Listing.scan fs (.ofString "d") Settings.builtin.project.patterns
        Settings.builtin.project.placeholderFile = .ok listing ∧
      listing.files.map (fun file => fs.readSource file.path) =
        [.ok "class A \x7b \x7d", .ok "class B \x7b \x7d"] ∧
      (∃ file ∈ listing.files, listing.find? file.name ≠ some file) ∧
      (stageFolder plainTree fs ⟨none, none, none⟩ none (.ofString "d") [] [] []).map
        (fun staged => staged.bundle.entries) = .ok [⟨"\uFFFD.cs", "class A \x7b \x7d"⟩] := by
  intro fs listing
  have hsettings : Settings.load fs ⟨none, none, none⟩ (.ofString "d") none =
      .ok Settings.builtin := by decide +kernel
  have hscan : Listing.scan fs (.ofString "d") Settings.builtin.project.patterns
      Settings.builtin.project.placeholderFile = .ok listing :=
    Listing.scan_of_pairwise (by decide +kernel) (by decide +kernel) (by decide)
  have hsession : Session.startReading plainTree fs (.ofString "d") Settings.builtin =
      .ok (namedSession (byteName 0xFE) (byteName 0xFF)) := by
    rw [Session.startReading, hscan]
    rfl
  refine ⟨hsettings, hscan, by decide +kernel, by decide +kernel, ?_⟩
  rw [stageFolder, hsettings, Except.bind, hsession]
  decide +kernel

end RedactedBundle
