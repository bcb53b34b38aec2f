import RedactedBundle.Session.Basic

/-!
# Operations of a session

Each thing that can be done with a session, with its response or the reason why it failed.
Hiding and showing names without an open file fails, but the names count from then on.

## Main definitions

- `Operation`: what can be done
- `Session.run`: doing it
-/

namespace RedactedBundle

/-- What can be done with a session. -/
inductive Operation where
  | openFile (name : String)
  | setClass (name : String) (hide : Bool)
  | setMethod (name : String) (hide : Bool)
  | toggle (row : OutlineRow)
  | stage
  | document
  | save
  | copy
  | setUrl (url : String)
  deriving Repr, DecidableEq, Inhabited

/-- What an operation that succeeds responds. -/
inductive Response where
  | opened (file : OpenFile)
  /-- What is shown of the open file. -/
  | shown (text : String)
  /-- What a row stands for is hidden now, or not. -/
  | toggled (isHidden : Bool)
  /-- The number of staged snapshots. -/
  | staged (count : Nat)
  | document (text : String)
  /-- Where the document went; `none` if nothing is staged. -/
  | saved (path : Option Path)
  | copied (outcome : CopyOutcome)
  | done
  deriving Inhabited

/-- A session with the files and the clipboard that it works on. -/
structure Workplace where
  session : Session
  files : FileSystem
  clipboard : Clipboard
  deriving Inhabited

/-- A response, for a session with an open file only. -/
def Session.ifOpen (session : Session) (response : OpenFile → Response) :
    Except Failure Response :=
  match session.current with
  | some file => .ok (response file)
  | none => .error .noOpenFile

/-- Carries out an operation. One that fails leaves all as it was, but for hidden names. -/
def Workplace.run [TemplateEngine] (place : Workplace) :
    Operation → Workplace × Except Failure Response
  | .openFile name =>
    match place.session.openFile place.files name with
    | .ok session => ({ place with session }, session.ifOpen .opened)
    | .error failure => (place, .error failure)
  | .setClass name hide =>
    -- The name counts from now on, although without an open file the operation fails.
    let session := place.session.setClass name hide
    ({ place with session }, session.ifOpen fun file => .shown file.shown)
  | .setMethod name hide =>
    let session := place.session.setMethod name hide
    ({ place with session }, session.ifOpen fun file => .shown file.shown)
  | .toggle row =>
    let session := place.session.toggle row
    ({ place with session }, session.ifOpen fun _ => .toggled (session.isHidden row))
  | .stage =>
    match place.session.stage with
    | .ok session => ({ place with session }, .ok (.staged session.bundle.size))
    | .error failure => (place, .error failure)
  | .document => (place, (place.session.document place.files).map .document)
  | .save =>
    match place.session.save place.files with
    | .ok (some files) => ({ place with files }, .ok (.saved place.session.outputPath))
    | .ok none => (place, .ok (.saved none))
    | .error failure => (place, .error failure)
  | .copy =>
    match place.session.copy place.files place.clipboard with
    | .ok copying =>
      ({ place with files := copying.files, clipboard := copying.clipboard },
        .ok (.copied copying.outcome))
    | .error failure => (place, .error failure)
  | .setUrl url => ({ place with session := place.session.setUrl url }, .ok .done)

end RedactedBundle
