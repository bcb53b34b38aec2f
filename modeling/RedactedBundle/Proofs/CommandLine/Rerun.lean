import RedactedBundle.Proofs.CommandLine.Agreement
import RedactedBundle.Proofs.CommandLine.AllOrNothing
import RedactedBundle.Proofs.Settings.Layers

/-!
# Bundling a folder again

The command for bundles writes its document into the folder that it lists. Run again, it comes to
the same document as long as the written file is none of the files that it reads, and stands in the
folder under no name that it lists.

## Main definitions

- `Session.OutputApart`: the written file has no part in what is bundled

## Main statements

- `Session.snapshotOf_of_at?_eq`, `DocumentOptions.render_of_at?_eq`: what is shown and rendered
  from files that are the same
- `Request.perform_bundle_again`: the command writes its document again
- `Request.not_forall_perform_bundle_again`: an output file that is listed is bundled in its turn
-/

namespace RedactedBundle

/-! ## The same files -/

section Same

variable {fs fs' : FileSystem}

theorem DocumentOptions.render_of_at?_eq [TemplateEngine] {options : DocumentOptions}
    {bundle : Bundle} {document : String} (h : options.render fs bundle = .ok document)
    (hsame : options.template ≠ builtinTemplate →
      fs'.at? (.ofString options.template) = fs.at? (.ofString options.template)) :
    options.render fs' bundle = .ok document := by
  rw [render] at h ⊢
  by_cases hempty : bundle.isEmpty
  · rwa [if_pos hempty] at h ⊢
  rw [if_neg hempty] at h ⊢
  obtain ⟨source, hsource, hrender⟩ := Session.bind_eq_ok_iff.mp h
  refine Session.bind_eq_ok_iff.mpr ⟨source, ?_, hrender⟩
  by_cases hbuiltin : options.template = builtinTemplate
  · rw [templateSource] at hsource ⊢
    simpa only [if_pos hbuiltin] using hsource
  have hfile := hsame hbuiltin
  rw [templateSource] at hsource
  simp only [if_neg hbuiltin] at hsource
  split at hsource
  · cases hread : fs.readText (.ofString options.template) with
    | error error => rw [hread] at hsource; cases hsource
    | ok cs =>
      rw [hread] at hsource
      cases hsource
      exact options.templateSource_of_readText fs' hbuiltin
        (FileSystem.readText_of_at?_eq hfile hread)
  · cases hsource

theorem Session.ReadsAs.of_at?_eq {file : SourceFile} {text : String} (h : ReadsAs fs file text)
    (hsame : fs'.at? file.path = fs.at? file.path) : ReadsAs fs' file text := by
  have hfile := FileSystem.isFile_of_at?_eq hsame
  cases h with
  | content isFile read =>
    refine .content (hfile ▸ isFile) ?_
    rw [FileSystem.read_eq_ok_iff, hsame]
    exact FileSystem.read_eq_ok_iff.mp read
  | missing isFile => exact .missing (hfile ▸ isFile)

theorem Session.snapshotOf_of_at?_eq {session : Session} {hidden : Hidden} {name : String}
    {snapshot : Snapshot} (h : session.snapshotOf fs hidden name = .ok snapshot)
    (hsame : ∀ file ∈ session.listing.files, fs'.at? file.path = fs.at? file.path) :
    session.snapshotOf fs' hidden name = .ok snapshot := by
  rw [snapshotOf] at h ⊢
  cases hsource : session.sourceOf fs name with
  | error failure => rw [hsource] at h; cases h
  | ok source =>
    obtain ⟨file, text, tree, hfind, hreads, htree, rfl⟩ := sourceOf_eq_ok_iff.mp hsource
    have hreads' := hreads.of_at?_eq (hsame file (List.mem_of_find?_eq_some hfind))
    have hsource' := sourceOf_eq_ok_iff.mpr ⟨file, text, tree, hfind, hreads', htree, rfl⟩
    rwa [hsource', ← hsource]

end Same

/-! ## Running again -/

/-- In the files as they are after a run, what the output path leads to has no part in what is
bundled: it is no settings file, not the template and no listed file, and it does not stand in the
folder under a name that is listed. -/
structure Session.OutputApart [PatternLanguage] (files : FileSystem) (environment : Environment)
    (config : Option Path) (folder : Path) (settings : Settings) (session : Session) : Prop where
  not_settings : ∀ path, path ∈ Settings.discovered environment folder ∨ config = some path →
    ¬ files.SamePlace path session.outputPath
  not_template : settings.template ≠ builtinTemplate →
    ¬ files.SamePlace (.ofString settings.template) session.outputPath
  not_listed : ∀ file ∈ session.listing.files, ¬ files.SamePlace file.path session.outputPath
  not_caught : ¬ Listing.Catches files folder settings.project.patterns session.outputPath

/-- Unless the file that it writes has a part in what is bundled, the command for a whole folder
that saved a document saves the same document when it is run again. -/
theorem Request.perform_bundle_again [PatternLanguage] [TomlReader] [TemplateEngine]
    {treeOf : String → Except Failure Node} {environment : Environment} {config : Option Path}
    {folder : Path} {classes methods : List String} {before : Report} {settings : Settings}
    {session : Session} {size : Nat} {written : FileSystem}
    (hsettings : Settings.load before.files environment folder config = .ok settings)
    (hsession : Session.startReading treeOf before.files folder settings = .ok session)
    (hapart : session.OutputApart written environment config folder settings) :
    let run := ((bundle folder [] classes methods false false).perform treeOf environment
      config).run
    run before = (.ok (), before.saved size session.outputPath written) →
      ∃ document, document ≠ "" ∧
        before.files.write session.outputPath (Utf8.encode document.toList) = .ok written ∧
        written.read session.outputPath = .ok (Utf8.encode document.toList) ∧
        ∀ next : Report, next.files = written →
          run next = (.ok (), next.saved size session.outputPath written) := by
  intro run hrun
  obtain ⟨snapshots, document, hsnapshots, hdocument, hblank, hwrite, hsaved⟩ :=
    exists_snapshots_of_run_perform_bundle hsettings hsession hrun
  refine ⟨document, hblank, hwrite, FileSystem.read_of_write_eq_ok hwrite, ?_⟩
  -- The files that go into the document are as they were, and so is the document.
  have hsame {path : Path} (h : ¬ written.SamePlace path session.outputPath) :
      written.at? path = before.files.at? path :=
    FileSystem.at?_of_write_eq_ok hwrite h
  have hsettings' : Settings.load written environment folder config = .ok settings :=
    Settings.load_of_at?_eq hsettings fun path hpath => hsame (hapart.not_settings path hpath)
  have hsession' : Session.startReading treeOf written folder settings = .ok session := by
    have hscan := (Session.isStart_of_startReading_eq_ok hsession).scan_eq
    rw [Session.startReading, hscan] at hsession
    rw [Session.startReading,
      Listing.scan_of_write_eq_ok hwrite hscan hapart.not_listed hapart.not_caught]
    exact hsession
  have hsnapshots' : (session.chosenNames []).mapM
      (session.snapshotOf written (.ofLists classes methods)) = .ok snapshots :=
    mapM_eq_ok_of_forall_mem (fun name _ snapshot hsnapshot =>
      Session.snapshotOf_of_at?_eq hsnapshot fun file hfile =>
        hsame (hapart.not_listed file hfile)) hsnapshots
  have hdocument' : settings.documentOptions.render written
      (.ofList (snapshots.filter (·.text ≠ ""))) = .ok document :=
    DocumentOptions.render_of_at?_eq hdocument fun htemplate =>
      hsame (hapart.not_template htemplate)
  have hwrite' : written.write session.outputPath (Utf8.encode document.toList) = .ok written :=
    FileSystem.write_of_write_eq_ok hwrite
  rintro next rfl
  rw [← hsaved]
  exact run_perform_bundle_of_snapshots hsettings' hsession' hsnapshots' hdocument' hblank hwrite'

/-! ## An output file in the folder -/

section Pair

variable (outputFile : Option String)

/-- The settings for the folder of `pairFiles`, with an output file named by the environment or
without. -/
def outputSettings : Settings := Settings.builtin.override ⟨none, outputFile, none⟩

/-- A session over that folder with these settings. -/
def outputSession : Session :=
  { pairSession with outputFile := (outputSettings outputFile).project.outputFile }

/-- That folder with its document in a file. -/
def outputFiles (name : String) : FileSystem :=
  pairFiles.put [Utf8.encode "d".toList, Utf8.encode name.toList]
    (.file (Utf8.encode pairDocument.toList) false)

theorem load_pairFiles :
    Settings.load pairFiles ⟨none, outputFile, none⟩ (.ofString "d") none =
      .ok (outputSettings outputFile) := by
  have hmissing : pairFiles.holds (Settings.folderFile (.ofString "d")) = false := by
    decide +kernel
  have hsources :
      Settings.sources pairFiles ⟨none, outputFile, none⟩ (.ofString "d") none = [] := by
    simp [Settings.sources, Settings.discovered, Settings.userFile?, hmissing]
  rw [Settings.load_eq, hsources]
  exact congrArg (fun settings : Settings => Except.ok (settings.override _))
    List.prod_singleton

theorem startReading_pairFiles :
    Session.startReading plainTree pairFiles (.ofString "d") (outputSettings outputFile) =
      .ok (outputSession outputFile) := by
  have hscan : Listing.scan pairFiles (.ofString "d") Settings.builtin.project.patterns
      Settings.builtin.project.placeholderFile = .ok pairSession.listing :=
    Listing.scan_of_pairwise (by decide +kernel) (by decide +kernel) (by decide)
  have hscan' : Listing.scan pairFiles (.ofString "d") (outputSettings outputFile).project.patterns
      (outputSettings outputFile).project.placeholderFile = .ok pairSession.listing := hscan
  rw [Session.startReading, hscan']
  rfl

theorem not_samePlace_of_mem_discovered {files : FileSystem} {path other : Path}
    (hother : other ∈ Settings.discovered ⟨none, outputFile, none⟩ (.ofString "d") ∨
      none = some other)
    (hne : files.resolve (Settings.folderFile (.ofString "d")) ≠ files.resolve path) :
    ¬ files.SamePlace other path := by
  obtain rfl : other = Settings.folderFile (.ofString "d") := by
    simpa [Settings.discovered, Settings.userFile?] using hother
  exact FileSystem.not_samePlace_of_ne hne

theorem write_pairFiles (name : String) {path : Path}
    (hslash : path.bytes.getLast? ≠ some FileName.slash)
    (hresolve : pairFiles.resolve path =
      .ok (.vacant [Utf8.encode "d".toList, Utf8.encode name.toList])) :
    pairFiles.write path (Utf8.encode pairDocument.toList) = .ok (outputFiles name) := by
  have hadd : pairFiles.mayAdd [Utf8.encode "d".toList] := by decide +kernel
  rw [FileSystem.write, if_neg hslash, hresolve]
  exact if_pos hadd

/-- Over that folder, the command saves the document of the one file that holds something. -/
theorem run_perform_bundle_pairFiles {written : FileSystem}
    (hwrite : pairFiles.write (outputSession outputFile).outputPath
      (Utf8.encode pairDocument.toList) = .ok written) :
    ((Request.bundle (.ofString "d") [] [] ["F"] false false).perform plainTree
        ⟨none, outputFile, none⟩ none).run pairReport =
      (.ok (), pairReport.saved 1 (outputSession outputFile).outputPath written) := by
  let shown : Snapshot := ⟨"a.cs", "class A \x7b void F() \x7b /* logic hidden */ \x7d \x7d"⟩
  have hshown : ["a.cs", "b.cs"].mapM (pairSession.snapshotOf pairFiles (.ofLists [] ["F"])) =
      .ok [shown, ⟨"b.cs", ""⟩] := by
    decide +kernel
  have hsnapshots : ((outputSession outputFile).chosenNames []).mapM
      ((outputSession outputFile).snapshotOf pairFiles (.ofLists [] ["F"])) =
        .ok [shown, ⟨"b.cs", ""⟩] := by
    rw [show (outputSession outputFile).chosenNames [] = ["a.cs", "b.cs"] from rfl]
    exact hshown
  have hstaged : [shown, ⟨"b.cs", ""⟩].filter (·.text ≠ "") = [shown] := by decide
  have hoptions : (outputSettings outputFile).documentOptions =
      .builtin "Project bundle for AI" "csharp" := rfl
  have hdocument : (outputSettings outputFile).documentOptions.render pairFiles
      (.ofList ([shown, ⟨"b.cs", ""⟩].filter (·.text ≠ ""))) = .ok pairDocument := by
    rw [hstaged, hoptions, DocumentOptions.render_builtin _ _ Template.Body.rendersPlain]
    decide +kernel
  have hblank : pairDocument ≠ "" := by decide
  have hsize : (Bundle.ofList [shown]).size = 1 := rfl
  rw [← hsize, ← hstaged]
  exact Request.run_perform_bundle_of_snapshots (load_pairFiles outputFile)
    (startReading_pairFiles outputFile) hsnapshots hdocument hblank hwrite

end Pair

/-- The document goes into a file that is not listed, and the command writes it again. -/
theorem Request.perform_bundle_again_pairFiles :
    let path := (outputSession none).outputPath
    let written := outputFiles "AiContextMulti.md"
    let run := ((bundle (.ofString "d") [] [] ["F"] false false).perform plainTree
      ⟨none, none, none⟩ none).run
    run pairReport = (.ok (), pairReport.saved 1 path written) ∧
      ∃ document, document ≠ "" ∧
        pairFiles.write path (Utf8.encode document.toList) = .ok written ∧
        written.read path = .ok (Utf8.encode document.toList) ∧
        ∀ next : Report, next.files = written → run next = (.ok (), next.saved 1 path written) := by
  intro path written run
  have hrun : run pairReport = (.ok (), pairReport.saved 1 path written) :=
    run_perform_bundle_pairFiles none
      (write_pairFiles "AiContextMulti.md" (by decide +kernel) (by decide +kernel))
  have hresolve : written.resolve path = .ok (.existing
      ([Utf8.encode "d".toList] ++ [Utf8.encode "AiContextMulti.md".toList])
      (.file (Utf8.encode pairDocument.toList) false)) := by
    decide +kernel
  have hapart : (outputSession none).OutputApart written ⟨none, none, none⟩ none (.ofString "d")
      (outputSettings none) := by
    refine ⟨?_, fun htemplate => absurd rfl htemplate, ?_, ?_⟩
    · exact fun other hother => not_samePlace_of_mem_discovered none hother (by decide +kernel)
    · have hlisted : ∀ file ∈ pairSession.listing.files,
          written.resolve file.path ≠ written.resolve path := by
        decide +kernel
      exact fun file hfile => FileSystem.not_samePlace_of_ne (hlisted file hfile)
    · intro hcaught
      exact absurd (hcaught.isMatch hresolve) (by decide +kernel)
  exact ⟨hrun, perform_bundle_again (load_pairFiles none) (startReading_pairFiles none) hapart hrun⟩

/-- The listing of that folder once the document is in it, under a name that is listed. -/
def grownListing : Listing :=
  { pairSession.listing with
    files := pairSession.listing.files ++
      [⟨"z.cs", .ofString "d/z.cs", some (Utf8.encode pairDocument.toList).length⟩] }

/-- The document of that listing, with the first one in it. -/
def grownDocument : String :=
  "# Project bundle for AI\n**Total files:** 2\n\n" ++
    "## File: `a.cs`\n```csharp\n" ++
    "class A \x7b void F() \x7b /* logic hidden */ \x7d \x7d\n```\n---\n" ++
    "## File: `z.cs`\n```csharp\n" ++ pairDocument ++ "\n```\n---\n"

theorem ne_append_append {front text back : String} (hback : back ≠ "") :
    text ≠ front ++ text ++ back := by
  intro heq
  have hlength := congrArg String.length heq
  have hpositive : back.length ≠ 0 := by simpa using hback
  simp only [String.length_append] at hlength
  omega

theorem pairDocument_ne_grownDocument : pairDocument ≠ grownDocument :=
  ne_append_append (by decide)

theorem startReading_outputFiles :
    Session.startReading plainTree (outputFiles "z.cs") (.ofString "d") (outputSettings "z.cs") =
      .ok { outputSession "z.cs" with listing := grownListing } := by
  have hscan : Listing.scan (outputFiles "z.cs") (.ofString "d")
      (outputSettings "z.cs").project.patterns (outputSettings "z.cs").project.placeholderFile =
        .ok grownListing :=
    Listing.scan_of_pairwise (by decide +kernel) (by decide +kernel) (by decide +kernel)
  rw [Session.startReading, hscan]
  rfl

/-- Run again, the command bundles the first document as a second file. -/
theorem run_perform_bundle_outputFiles {report : Report} {written : FileSystem}
    (hfiles : report.files = outputFiles "z.cs")
    (hwrite : report.files.write (outputSession "z.cs").outputPath
      (Utf8.encode grownDocument.toList) = .ok written) :
    ((Request.bundle (.ofString "d") [] [] ["F"] false false).perform plainTree
        ⟨none, "z.cs", none⟩ none).run report =
      (.ok (), report.saved 2 (outputSession "z.cs").outputPath written) := by
  let shown : Snapshot := ⟨"a.cs", "class A \x7b void F() \x7b /* logic hidden */ \x7d \x7d"⟩
  let session : Session := { outputSession "z.cs" with listing := grownListing }
  have hsettings : Settings.load (outputFiles "z.cs") ⟨none, "z.cs", none⟩ (.ofString "d") none =
      .ok (outputSettings "z.cs") := by
    decide +kernel
  have hsnapshots : (session.chosenNames []).mapM
      (session.snapshotOf (outputFiles "z.cs") (.ofLists [] ["F"])) =
        .ok [shown, ⟨"b.cs", ""⟩, ⟨"z.cs", pairDocument⟩] := by
    decide +kernel
  have hstaged : [shown, ⟨"b.cs", ""⟩, ⟨"z.cs", pairDocument⟩].filter (·.text ≠ "") =
      [shown, ⟨"z.cs", pairDocument⟩] := by decide +kernel
  have hdocument : (outputSettings "z.cs").documentOptions.render (outputFiles "z.cs")
      (.ofList ([shown, ⟨"b.cs", ""⟩, ⟨"z.cs", pairDocument⟩].filter (·.text ≠ ""))) =
        .ok grownDocument := by
    rw [hstaged]
    refine (DocumentOptions.render_builtin _ _ Template.Body.rendersPlain "Project bundle for AI"
      "csharp").trans ?_
    decide +kernel
  have hblank : grownDocument ≠ "" := by decide +kernel
  have hsize : (Bundle.ofList [shown, ⟨"z.cs", pairDocument⟩]).size = 2 := rfl
  have hsession : Session.startReading plainTree report.files (.ofString "d")
      (outputSettings "z.cs") = .ok session := by
    rw [hfiles]
    exact startReading_outputFiles
  have hpath : session.outputPath = (outputSession "z.cs").outputPath := rfl
  rw [← hfiles] at hsettings hsnapshots hdocument
  rw [← hsize, ← hstaged, ← hpath]
  exact Request.run_perform_bundle_of_snapshots hsettings hsession hsnapshots hdocument hblank
    hwrite

/-- An output file that matches a pattern is listed by the second run, and bundled in its turn. -/
theorem Request.not_forall_perform_bundle_again :
    ¬ ∀ (treeOf : String → Except Failure Node) (environment : Environment) (config : Option Path)
      (folder : Path) (classes methods : List String) (before : Report) (settings : Settings)
      (session : Session) (size : Nat) (written : FileSystem),
      Settings.load before.files environment folder config = .ok settings →
      Session.startReading treeOf before.files folder settings = .ok session →
      IsFileName settings.project.outputFile →
      (∀ path, path ∈ Settings.discovered environment folder ∨ config = some path →
        ¬ written.SamePlace path session.outputPath) →
      (settings.template ≠ builtinTemplate →
        ¬ written.SamePlace (.ofString settings.template) session.outputPath) →
      let run := ((bundle folder [] classes methods false false).perform treeOf environment
        config).run
      run before = (.ok (), before.saved size session.outputPath written) →
        ∀ next : Report, next.files = written → ∃ after, run next = (.ok (), after) ∧
          after.files.read session.outputPath = written.read session.outputPath := by
  intro h
  let path := (outputSession "z.cs").outputPath
  let next : Report := { pairReport with files := outputFiles "z.cs" }
  have hwrite : pairFiles.write path (Utf8.encode pairDocument.toList) =
      .ok (outputFiles "z.cs") :=
    write_pairFiles "z.cs" (by decide +kernel) (by decide +kernel)
  obtain ⟨after, hafter, hread⟩ := h plainTree ⟨none, "z.cs", none⟩ none (.ofString "d") [] ["F"]
    pairReport _ _ 1 _ (load_pairFiles "z.cs") (startReading_pairFiles "z.cs")
    ⟨by decide, by decide, by decide⟩
    (fun other hother => not_samePlace_of_mem_discovered "z.cs" hother (by decide +kernel))
    (fun htemplate => absurd rfl htemplate) (run_perform_bundle_pairFiles "z.cs" hwrite) next rfl
  obtain ⟨written, hagain⟩ : ∃ written,
      (outputFiles "z.cs").write path (Utf8.encode grownDocument.toList) = .ok written := by
    have hslash : path.bytes.getLast? ≠ some FileName.slash := by decide +kernel
    have hresolve : (outputFiles "z.cs").resolve path = .ok (.existing
        [Utf8.encode "d".toList, Utf8.encode "z.cs".toList]
        (.file (Utf8.encode pairDocument.toList) false)) := by
      decide +kernel
    rw [FileSystem.write, if_neg hslash, hresolve]
    exact ⟨_, rfl⟩
  have hfiles : next.files = outputFiles "z.cs" := rfl
  have hrun := run_perform_bundle_outputFiles hfiles hagain
  obtain rfl : after = next.saved 2 path written :=
    congrArg Prod.snd (hafter.symm.trans hrun)
  have hencode : Utf8.encode grownDocument.toList = Utf8.encode pairDocument.toList := by
    have hfirst := FileSystem.read_of_write_eq_ok hwrite
    have hsecond := FileSystem.read_of_write_eq_ok hagain
    exact Except.ok.inj (hsecond.symm.trans (hread.trans hfirst))
  have hdocument : grownDocument.toList = pairDocument.toList := by
    have hdecode := congrArg Utf8.decode? hencode
    rw [Utf8.decode?_encode, Utf8.decode?_encode] at hdecode
    exact Option.some.inj hdecode
  exact pairDocument_ne_grownDocument (String.toList_inj.mp hdocument).symm

end RedactedBundle
