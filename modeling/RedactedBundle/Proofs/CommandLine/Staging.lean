import RedactedBundle.CommandLine.Run
import RedactedBundle.Proofs.Files.Listing
import RedactedBundle.Proofs.Session.Opening

/-!
# Staging files from the command line

A file is opened, names are hidden in it one after the other, and what is shown then is staged.
In the end it shows its source redacted once by all the names, whatever the session showed before,
and staging a list of files gives the bundle of these texts.

## Main definitions

- `Session.snapshotOf`: what a session shows of a named file with names hidden

## Main statements

- `openHiding_eq`: hiding names one after the other, and all at once
- `stageAll_of_mapM_eq_error`: the first failure to read a file is that of staging the files
- `stageAll_of_mapM_eq_ok`, `exists_snapshots_of_stageAll_eq_ok`: the bundle of the staged files
-/

namespace RedactedBundle

namespace Session

/-! ## Hiding names -/

theorem ensureOpen_withHidden {session : Session} (hopen : session.current.isSome)
    (hidden : Hidden) :
    (session.withHidden hidden).ensureOpen = .ok (session.withHidden hidden) := by
  obtain ⟨file, hfile⟩ := Option.isSome_iff_exists.mp hopen
  rw [ensureOpen, withHidden, hfile]
  rfl

theorem hideClass_withHidden {session : Session} (hopen : session.current.isSome)
    (hidden : Hidden) (name : String) :
    (session.withHidden hidden).hideClass name =
      .ok (session.withHidden (hidden.setClass name true)) := by
  rw [hideClass, setClass, withHidden_withHidden]
  exact ensureOpen_withHidden hopen _

theorem hideMethod_withHidden {session : Session} (hopen : session.current.isSome)
    (hidden : Hidden) (name : String) :
    (session.withHidden hidden).hideMethod name =
      .ok (session.withHidden (hidden.setMethod name true)) := by
  rw [hideMethod, setMethod, withHidden_withHidden]
  exact ensureOpen_withHidden hopen _

/-- Names of classes hidden one after the other are all hidden in the end. -/
theorem foldlM_hideClass {session : Session} (hopen : session.current.isSome)
    (classes : List String) (hidden : Hidden) :
    classes.foldlM hideClass (session.withHidden hidden) =
      .ok (session.withHidden ⟨classes.foldl NameSet.insert hidden.classes, hidden.methods⟩) := by
  induction classes generalizing hidden with
  | nil => rfl
  | cons name rest ih =>
    rw [List.foldlM_cons, hideClass_withHidden hopen]
    exact ih (hidden.setClass name true)

/-- Names of methods hidden one after the other are all hidden in the end. -/
theorem foldlM_hideMethod {session : Session} (hopen : session.current.isSome)
    (methods : List String) (hidden : Hidden) :
    methods.foldlM hideMethod (session.withHidden hidden) =
      .ok (session.withHidden ⟨hidden.classes, methods.foldl NameSet.insert hidden.methods⟩) := by
  induction methods generalizing hidden with
  | nil => rfl
  | cons name rest ih =>
    rw [List.foldlM_cons, hideMethod_withHidden hopen]
    exact ih (hidden.setMethod name true)

/-- What a session shows of a named file with names hidden in it. -/
def snapshotOf (session : Session) (fs : FileSystem) (hidden : Hidden) (name : String) :
    Except Failure Snapshot :=
  (session.sourceOf fs name).map fun source => ⟨name, source.redact session.placeholders hidden⟩

theorem SameFolder.snapshotOf_eq {session next : Session} (h : session.SameFolder next)
    (fs : FileSystem) (hidden : Hidden) :
    next.snapshotOf fs hidden = session.snapshotOf fs hidden := by
  funext name
  rw [snapshotOf, snapshotOf, h.sourceOf_eq, h.placeholders_eq]

end Session

/-- Reads a text as the parser of the program does. -/
def plainTree (text : String) : Except Failure Node := .ok (Node.ofText text)

section Files

variable {fs : FileSystem} {classes methods : List String} {session : Session} {name : String}

/-! ## One file -/

/-- Hiding names one after the other comes to the same as hiding them all at once. -/
theorem openHiding_eq {file : SourceFile} (hfind : session.listing.find? name = some file) :
    openHiding fs classes methods session name =
      (session.sourceOf fs name).map (session.showing file (.ofLists classes methods)) := by
  rw [openHiding, session.openFile_eq fs hfind]
  cases session.sourceOf fs name with
  | error failure => rfl
  | ok source =>
    have hopen : ({ session with
        current := some (session.opened file source)
        hidden := Hidden.empty } : Session).current.isSome := rfl
    simp only [Except.map, Except.bind, Session.showing]
    rw [Session.foldlM_hideClass hopen]
    exact Session.foldlM_hideMethod hopen methods _

theorem openHiding_of_find?_eq_none (hfind : session.listing.find? name = none) :
    openHiding fs classes methods session name = .error (.unknownFile name) := by
  rw [openHiding, Session.openFile, hfind]
  rfl

theorem stageHiding_of_snapshotOf_eq_error {failure : Failure}
    (h : session.snapshotOf fs (.ofLists classes methods) name = .error failure) :
    stageHiding fs classes methods session name = .error failure := by
  have hsource : session.sourceOf fs name = .error failure := by
    rw [Session.snapshotOf] at h
    cases hsource : session.sourceOf fs name with
    | error other => rw [hsource] at h; cases h; rfl
    | ok source => rw [hsource] at h; cases h
  rw [stageHiding]
  cases hfind : session.listing.find? name with
  | none =>
    rw [Session.sourceOf, hfind] at hsource
    cases hsource
    rw [openHiding_of_find?_eq_none hfind]
    rfl
  | some file =>
    rw [openHiding_eq hfind, hsource]
    rfl

/-- A file is staged as it is shown with all the names hidden, unless nothing of it is shown. -/
theorem stageHiding_of_snapshotOf_eq_ok {snapshot : Snapshot}
    (h : session.snapshotOf fs (.ofLists classes methods) name = .ok snapshot) :
    ∃ next, stageHiding fs classes methods session name = .ok next ∧ session.SameFolder next ∧
      next.bundle =
        if snapshot.text = "" then session.bundle else session.bundle.stage snapshot := by
  rw [Session.snapshotOf] at h
  cases hsource : session.sourceOf fs name with
  | error failure => rw [hsource] at h; cases h
  | ok source =>
    rw [hsource] at h
    cases h
    obtain ⟨file, text, tree, hfind, -⟩ := Session.sourceOf_eq_ok_iff.mp hsource
    have hname : file.name = name := Listing.name_of_find?_eq_some hfind
    rw [stageHiding, openHiding_eq hfind, hsource]
    let shown := session.showing file (.ofLists classes methods) source
    change ∃ next, (if shown.shown = "" then .ok shown else shown.stage) = .ok next ∧ _
    have hshown : shown.shown = source.redact session.placeholders (.ofLists classes methods) := rfl
    by_cases hempty : source.redact session.placeholders (.ofLists classes methods) = ""
    · rw [hshown, if_pos hempty]
      exact ⟨shown, rfl, ⟨rfl, rfl, rfl, rfl, rfl⟩, (if_pos hempty).symm⟩
    · rw [hshown, if_neg hempty]
      refine ⟨{ shown with bundle := session.bundle.stage ⟨name, shown.shown⟩ }, ?_,
        ⟨rfl, rfl, rfl, rfl, rfl⟩, (if_neg hempty).symm⟩
      rw [← hname]
      exact if_neg hempty

/-! ## Lists of files -/

theorem stageAll_of_mapM_eq_error {names : List String} {failure : Failure} :
    names.mapM (session.snapshotOf fs (.ofLists classes methods)) = .error failure →
      stageAll fs classes methods names session = .error failure := by
  induction names generalizing session with
  | nil => intro h; cases h
  | cons name rest ih =>
    intro h
    rw [List.mapM_cons] at h
    rw [stageAll]
    cases hfirst : session.snapshotOf fs (.ofLists classes methods) name with
    | error other =>
      rw [hfirst] at h
      cases h
      rw [stageHiding_of_snapshotOf_eq_error hfirst]
      rfl
    | ok snapshot =>
      obtain ⟨next, hnext, hfolder, -⟩ := stageHiding_of_snapshotOf_eq_ok hfirst
      rw [hnext]
      refine ih ?_
      rw [hfolder.snapshotOf_eq]
      rw [hfirst] at h
      cases hrest : rest.mapM (session.snapshotOf fs (.ofLists classes methods)) with
      | error other => rw [hrest] at h; cases h; rfl
      | ok snapshots => rw [hrest] at h; cases h

/-- Files are staged in their order as they are shown; those of which nothing is shown are left
out. -/
theorem stageAll_of_mapM_eq_ok {names : List String} {snapshots : List Snapshot} :
    names.mapM (session.snapshotOf fs (.ofLists classes methods)) = .ok snapshots →
      ∃ next, stageAll fs classes methods names session = .ok next ∧ session.SameFolder next ∧
        next.bundle = (snapshots.filter (·.text ≠ "")).foldl Bundle.stage session.bundle := by
  induction names generalizing session snapshots with
  | nil => intro h; cases h; exact ⟨session, rfl, .refl session, rfl⟩
  | cons name rest ih =>
    intro h
    rw [List.mapM_cons] at h
    obtain ⟨snapshot, hfirst, h⟩ := Session.bind_eq_ok_iff.mp h
    obtain ⟨more, hrest, h⟩ := Session.bind_eq_ok_iff.mp h
    cases h
    obtain ⟨next, hnext, hfolder, hbundle⟩ := stageHiding_of_snapshotOf_eq_ok hfirst
    have hmore : rest.mapM (next.snapshotOf fs (.ofLists classes methods)) = .ok more := by
      rw [hfolder.snapshotOf_eq, hrest]
    obtain ⟨last, hlast, hfolder', hbundle'⟩ := ih hmore
    refine ⟨last, ?_, hfolder.trans hfolder', ?_⟩
    · rw [stageAll, hnext]
      exact hlast
    · rw [hbundle', hbundle]
      by_cases hempty : snapshot.text = "" <;> simp [hempty]

/-- What was staged are the files as they are shown. -/
theorem exists_snapshots_of_stageAll_eq_ok {names : List String} {staged : Session}
    (h : stageAll fs classes methods names session = .ok staged) :
    ∃ snapshots, names.mapM (session.snapshotOf fs (.ofLists classes methods)) = .ok snapshots ∧
      session.SameFolder staged ∧
      staged.bundle = (snapshots.filter (·.text ≠ "")).foldl Bundle.stage session.bundle := by
  cases hsnapshots : names.mapM (session.snapshotOf fs (.ofLists classes methods)) with
  | error failure => cases (stageAll_of_mapM_eq_error hsnapshots).symm.trans h
  | ok snapshots =>
    obtain ⟨next, hnext, hfolder, hbundle⟩ := stageAll_of_mapM_eq_ok hsnapshots
    obtain rfl : next = staged := Except.ok.inj (hnext.symm.trans h)
    exact ⟨snapshots, rfl, hfolder, hbundle⟩

end Files

end RedactedBundle
