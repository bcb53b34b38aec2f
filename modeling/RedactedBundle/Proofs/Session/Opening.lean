import RedactedBundle.Proofs.Session.Run

/-!
# Opening files

Opening a file reads its source and shows it with nothing hidden. Hiding names in an open file shows
its source anew, so that of several changes of the hidden names only the last one is seen.

## Main definitions

- `Session.sourceOf`: the source that a session reads for a name
- `Session.showing`: a session in which a source is shown with names hidden

## Main statements

- `Session.openFile_eq`: a file is opened exactly if its source can be read, and is shown whole
-/

namespace RedactedBundle.Session

/-- The source that a session reads for a name of its listing. -/
def sourceOf (session : Session) (fs : FileSystem) (name : String) : Except Failure Source :=
  match session.listing.find? name with
  | none => .error (.unknownFile name)
  | some file =>
    (readListed fs file).bind fun text => (session.treeOf text).map (Source.ofNode text)

@[simp] theorem hidden_withHidden (session : Session) (hidden : Hidden) :
    (session.withHidden hidden).hidden = hidden := rfl

@[simp] theorem withHidden_withHidden (session : Session) (hidden hidden' : Hidden) :
    (session.withHidden hidden).withHidden hidden' = session.withHidden hidden' := by
  simp only [withHidden, Option.map_map]
  rfl

/-- A listed file that was opened, with names hidden in it. -/
def showing (session : Session) (file : SourceFile) (hidden : Hidden) (source : Source) : Session :=
  { session with current := some (session.opened file source), hidden := Hidden.empty }.withHidden
    hidden

/-- What is shown depends on the session only by the comments that stand for what is hidden. -/
theorem current_showing (session : Session) (file : SourceFile) (hidden : Hidden)
    (source : Source) : (session.showing file hidden source).current =
      some ⟨file.name, file.path, source, source.outline,
        source.redact session.placeholders hidden⟩ := rfl

theorem openFile_eq (session : Session) (fs : FileSystem) {name : String} {file : SourceFile}
    (hfind : session.listing.find? name = some file) :
    session.openFile fs name =
      (session.sourceOf fs name).map (session.showing file Hidden.empty) := by
  rw [openFile, sourceOf, hfind]
  dsimp only
  cases readListed fs file with
  | error failure => rfl
  | ok text =>
    cases htree : session.treeOf text with
    | error failure => simp [htree, bind, Except.bind, Except.map]
    | ok tree =>
      simp [htree, bind, Except.bind, Except.map, showing, withHidden, opened, pure, Except.pure]

/-- A source is read for exactly the listed names whose file can be read and has a tree. -/
theorem sourceOf_eq_ok_iff {session : Session} {fs : FileSystem} {name : String} {source : Source} :
    session.sourceOf fs name = .ok source ↔
      ∃ file text tree, session.listing.find? name = some file ∧ ReadsAs fs file text ∧
        session.treeOf text = .ok tree ∧ source = Source.ofNode text tree := by
  rw [sourceOf]
  cases hfind : session.listing.find? name with
  | none => simp
  | some file =>
    dsimp only
    constructor
    · intro h
      obtain ⟨text, htext, h⟩ := bind_eq_ok_iff.mp h
      cases htree : session.treeOf text with
      | error failure => rw [htree] at h; cases h
      | ok tree =>
        rw [htree] at h
        cases h
        exact ⟨file, text, tree, rfl, readListed_eq_ok_iff.mp htext, htree, rfl⟩
    · rintro ⟨file', text, tree, hfile, htext, htree, rfl⟩
      cases hfile
      refine bind_eq_ok_iff.mpr ⟨text, readListed_eq_ok_iff.mpr htext, ?_⟩
      rw [htree]
      rfl

/-- Sessions over one folder read the same sources. -/
theorem SameFolder.sourceOf_eq {session next : Session} (h : session.SameFolder next)
    (fs : FileSystem) (name : String) : next.sourceOf fs name = session.sourceOf fs name := by
  rw [sourceOf, sourceOf, h.listing_eq, h.treeOf_eq]

end RedactedBundle.Session
