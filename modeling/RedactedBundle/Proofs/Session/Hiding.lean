import RedactedBundle.Proofs.Session.Coherence
import RedactedBundle.Proofs.Session.Opening
import Mathlib.Algebra.Ring.Parity

/-!
# What is hidden, by the history of its calls

Toggling a row reads the very names that it changes, a class and a method can have one name, and
several rows can stand for one name. Even so, whether the classes or the methods of a name are
hidden depends on nothing but the calls for them since the file was opened, in their order. What is
shown depends on the source and the hidden names alone, so it is settled by these calls as well.

## Main definitions

- `Hideable`, `Hidden.hides`: the classes or the methods of a name, and whether they are hidden
- `Call`, `calls`: what was called for them in the course of some events

## Main statements

- `Workplace.hides_after`: what is hidden after events among which no file is opened
- `Workplace.current_after`: what is shown then
- `Workplace.current_eq_of_calls_eq`: two runs that end with the same calls show the same
-/

namespace RedactedBundle

/-- What can be hidden: the classes of a name, or the methods of a name. -/
inductive Hideable where
  | class (name : String)
  | method (name : String)
  deriving DecidableEq

/-- What a row of the outline stands for. -/
def OutlineRow.hideable : OutlineRow → Hideable
  | .class name _ _ => .class name
  | .method name _ _ => .method name

namespace Hidden

/-- The classes, or the methods, of a name are hidden. -/
def hides (hidden : Hidden) : Hideable → Bool
  | .class name => name ∈ hidden.classes
  | .method name => name ∈ hidden.methods

/-- Hides or shows the classes, or the methods, of a name. -/
def set (hidden : Hidden) : Hideable → Bool → Hidden
  | .class name, hide => hidden.setClass name hide
  | .method name, hide => hidden.setMethod name hide

@[simp] theorem hides_empty (about : Hideable) : empty.hides about = false := by
  cases about <;> simp [hides, empty]

@[simp] theorem hides_set (hidden : Hidden) (about other : Hideable) (hide : Bool) :
    (hidden.set about hide).hides other = if other = about then hide else hidden.hides other := by
  cases about with
  | «class» name =>
    cases other with
    | «class» other => by_cases h : other = name <;> simp [hides, set, h]
    | method other =>
      rw [if_neg (by simp)]
      rfl
  | method name =>
    cases other with
    | «class» other =>
      rw [if_neg (by simp)]
      rfl
    | method other => by_cases h : other = name <;> simp [hides, set, h]

theorem eq_of_hides_eq {hidden hidden' : Hidden}
    (h : ∀ about, hidden.hides about = hidden'.hides about) : hidden = hidden' := by
  have hclasses : hidden.classes = hidden'.classes := by
    apply NameSet.eq_of_mem_iff
    intro name
    simpa [hides] using h (.class name)
  have hmethods : hidden.methods = hidden'.methods := by
    apply NameSet.eq_of_mem_iff
    intro name
    simpa [hides] using h (.method name)
  cases hidden
  cases hidden'
  simp only at hclasses hmethods
  rw [hclasses, hmethods]

end Hidden

/-- What is called for the classes, or the methods, of a name. -/
inductive Call where
  | set (hide : Bool)
  | toggle
  deriving DecidableEq

/-- Whether something is hidden after a call for it, by whether it was hidden before. -/
def Call.apply (isHidden : Bool) : Call → Bool
  | .set hide => hide
  | .toggle => !isHidden

theorem foldl_apply_toggle (n : Nat) (isHidden : Bool) :
    (List.replicate n Call.toggle).foldl Call.apply isHidden = (isHidden != decide (Odd n)) := by
  induction n generalizing isHidden with
  | zero => simp
  | succ n ih =>
    rw [List.replicate_succ, List.foldl_cons, ih]
    by_cases hodd : Odd n <;> cases isHidden <;> simp [Call.apply, Nat.odd_add_one, hodd]

/-- What an event calls for the classes, or the methods, of a name. -/
def Event.calls (about : Hideable) : Event → List Call
  | .operation (.setClass name hide) => if about = .class name then [.set hide] else []
  | .operation (.setMethod name hide) => if about = .method name then [.set hide] else []
  | .operation (.toggle row) => if about = row.hideable then [.toggle] else []
  | _ => []

/-- What some events call for the classes, or the methods, of a name, in order. -/
def calls (about : Hideable) (events : List Event) : List Call := events.flatMap (Event.calls about)

theorem calls_toggles (about : Hideable) (rows : List OutlineRow) :
    calls about (rows.map fun row => .operation (.toggle row)) =
      List.replicate ((rows.map OutlineRow.hideable).count about) .toggle := by
  induction rows with
  | nil => rfl
  | cons row rest ih =>
    rw [calls] at ih ⊢
    rw [List.map_cons, List.flatMap_cons, ih, List.map_cons, List.count_cons]
    by_cases h : about = row.hideable
    · simp [Event.calls, h, List.replicate_succ]
    · simp [Event.calls, h, Ne.symm h]

/-- The event is for opening a file. -/
def Event.Opens : Event → Prop
  | .operation (.openFile _) => True
  | _ => False

namespace Session

theorem toggle_eq (session : Session) (row : OutlineRow) :
    session.toggle row =
      session.withHidden (session.hidden.set row.hideable !session.hidden.hides row.hideable) := by
  cases row <;> rfl

/-- A coherent session is shown by its own hidden names already. -/
theorem Coherent.withHidden_hidden {session : Session} (h : session.Coherent) :
    session.withHidden session.hidden = session := by
  have hcurrent : (session.current.map fun file =>
      { file with shown := file.source.redact session.placeholders session.hidden }) =
      session.current := by
    cases hfile : session.current with
    | none => rfl
    | some file =>
      have hshown := (h file hfile).shown_eq
      simp only [Option.map_some, ← hshown]
  rw [Session.withHidden, hcurrent]

/-- Toggling a row twice changes nothing. -/
theorem Coherent.toggle_toggle {session : Session} (h : session.Coherent) (row : OutlineRow) :
    (session.toggle row).toggle row = session := by
  let once := session.hidden.set row.hideable !session.hidden.hides row.hideable
  have hback : once.set row.hideable (!once.hides row.hideable) = session.hidden := by
    apply Hidden.eq_of_hides_eq
    intro about
    by_cases habout : about = row.hideable <;> simp [once, habout]
  rw [toggle_eq (session.toggle row), toggle_eq, withHidden_withHidden, hidden_withHidden, hback]
  exact h.withHidden_hidden

/-- What is shown by some hidden names does not depend on the names hidden before. -/
theorem current_withHidden_eq {session next : Session} {hidden : Hidden}
    (hcurrent : next.current = (session.withHidden hidden).current)
    (hplaceholders : next.placeholders = session.placeholders) (hidden' : Hidden) :
    (next.withHidden hidden').current = (session.withHidden hidden').current := by
  rw [← withHidden_withHidden session hidden hidden', Session.withHidden, Session.withHidden,
    hcurrent, hplaceholders]
  rfl

end Session

namespace Workplace

section Engine

variable [TemplateEngine] {place : Workplace}

/-- An event that opens no file either leaves alone what is shown and hidden, or it is a call for one
thing that can be hidden. -/
theorem step_cases (place : Workplace) {event : Event} (hopens : ¬ event.Opens) :
    (∀ about, event.calls about = []) ∧ place.session.ShowsAlike (place.step event).session ∨
      ∃ about call, (∀ other, event.calls other = if other = about then [call] else []) ∧
        (place.step event).session = place.session.withHidden
          (place.session.hidden.set about (call.apply (place.session.hidden.hides about))) := by
  cases event with
  | outside files clipboard => exact .inl ⟨fun _ => rfl, .refl _⟩
  | operation op =>
    cases op with
    | openFile name => exact absurd trivial hopens
    | setClass name hide => exact .inr ⟨.class name, .set hide, fun _ => rfl, rfl⟩
    | setMethod name hide => exact .inr ⟨.method name, .set hide, fun _ => rfl, rfl⟩
    | toggle row => exact .inr ⟨row.hideable, .toggle, fun _ => rfl, place.session.toggle_eq row⟩
    | stage => exact .inl ⟨fun _ => rfl, place.showsAlike_run (.inl rfl)⟩
    | document => exact .inl ⟨fun _ => rfl, .refl _⟩
    | save => exact .inl ⟨fun _ => rfl, place.showsAlike_run (.inr (.inl rfl))⟩
    | copy => exact .inl ⟨fun _ => rfl, place.showsAlike_run (.inr (.inr rfl))⟩
    | setUrl url => exact .inl ⟨fun _ => rfl, ⟨⟨rfl, rfl, rfl, rfl, rfl⟩, rfl, rfl⟩⟩

theorem hides_step (place : Workplace) {event : Event} (hopens : ¬ event.Opens) (about : Hideable) :
    (place.step event).session.hidden.hides about =
      (event.calls about).foldl Call.apply (place.session.hidden.hides about) := by
  rcases place.step_cases hopens with ⟨hcalls, halike⟩ | ⟨other, call, hcalls, hsession⟩
  · rw [hcalls, halike.hidden_eq]
    rfl
  · rw [hcalls, hsession, Session.hidden_withHidden, Hidden.hides_set]
    by_cases h : about = other <;> simp [h]

theorem current_step {event : Event} (h : place.session.Coherent) (hopens : ¬ event.Opens) :
    (place.step event).session.current =
      (place.session.withHidden (place.step event).session.hidden).current := by
  rcases place.step_cases hopens with ⟨-, halike⟩ | ⟨other, call, -, hsession⟩
  · rw [halike.hidden_eq, h.withHidden_hidden, halike.current_eq]
  · rw [hsession, Session.hidden_withHidden]

/-- As long as no file is opened, the calls for something settle whether it is hidden. -/
theorem hides_after {events : List Event} (hopens : ∀ event ∈ events, ¬ event.Opens)
    (about : Hideable) :
    (place.after events).session.hidden.hides about =
      (calls about events).foldl Call.apply (place.session.hidden.hides about) := by
  induction events generalizing place with
  | nil => rfl
  | cons event rest ih =>
    have hrest : ∀ event ∈ rest, ¬ event.Opens := fun other hother =>
      hopens other (List.mem_cons_of_mem _ hother)
    have hfirst := place.hides_step (hopens event List.mem_cons_self) about
    rw [calls, List.flatMap_cons, List.foldl_append, ← hfirst]
    exact ih hrest

/-- As long as no file is opened, the open file is shown by the names hidden now. -/
theorem current_after {events : List Event} (h : place.session.Coherent)
    (hopens : ∀ event ∈ events, ¬ event.Opens) :
    (place.after events).session.current =
      (place.session.withHidden (place.after events).session.hidden).current := by
  induction events generalizing place with
  | nil =>
    change place.session.current = (place.session.withHidden place.session.hidden).current
    rw [h.withHidden_hidden]
  | cons event rest ih =>
    have hrest : ∀ event ∈ rest, ¬ event.Opens := fun other hother =>
      hopens other (List.mem_cons_of_mem _ hother)
    have hfirst := current_step h (hopens event List.mem_cons_self)
    have hfolder : place.session.SameFolder (place.step event).session :=
      place.sameFolder_after [event]
    have hnext : (place.step event).session.Coherent := place.coherent_after h [event]
    rw [after, List.foldl_cons]
    change ((place.step event).after rest).session.current = _
    rw [ih hnext hrest]
    exact Session.current_withHidden_eq hfirst hfolder.placeholders_eq _

section Opening

variable {name : String} {file : SourceFile} {source : Source}

theorem exists_sourceOf_of_isOk (hok : (place.run (.openFile name)).2.isOk) :
    ∃ file source, place.session.listing.find? name = some file ∧
      place.session.sourceOf place.files name = .ok source := by
  cases hopen : place.session.openFile place.files name with
  | error failure =>
    rw [run, hopen] at hok
    cases hok
  | ok session =>
    obtain ⟨file, text, tree, hfind, hreads, hparses, -⟩ := Session.openFile_eq_ok_iff.mp hopen
    refine ⟨file, Source.ofNode text tree, hfind, ?_⟩
    exact Session.sourceOf_eq_ok_iff.mpr ⟨file, text, tree, hfind, hreads, hparses, rfl⟩

variable (hfind : place.session.listing.find? name = some file)
  (hsource : place.session.sourceOf place.files name = .ok source)

include hfind hsource

theorem session_step_openFile : (place.step (.operation (.openFile name))).session =
    place.session.showing file Hidden.empty source := by
  rw [step, run, Session.openFile_eq _ _ hfind, hsource]
  rfl

/-- A file that was opened is shown with the names hidden that were called for since. -/
theorem after_step_openFile (hcoherent : place.session.Coherent) {later : List Event}
    (hopens : ∀ event ∈ later, ¬ event.Opens) :
    let now := (place.step (.operation (.openFile name))).after later
    (∀ about, now.session.hidden.hides about = (calls about later).foldl Call.apply false) ∧
      now.session.current = (place.session.showing file now.session.hidden source).current := by
  have hstep := session_step_openFile hfind hsource
  have hopened : (place.step (.operation (.openFile name))).session.Coherent :=
    place.coherent_after hcoherent [.operation (.openFile name)]
  constructor
  · intro about
    rw [hides_after hopens, hstep, Session.showing, Session.hidden_withHidden, Hidden.hides_empty]
  · rw [current_after hopened hopens, hstep, Session.showing, Session.withHidden_withHidden]
    rfl

end Opening

/-- Two runs of a session end with a file that is opened and reads the same both times, and with
events that open no other file. If the calls for each name are the same then, in the same order, so
are the hidden names and the open file with all that is shown of it, whatever came before and in
which order different names were called for. Toggling a row twice changes nothing at all, and after
nothing but toggles those names are hidden that were toggled an odd number of times. -/
theorem current_eq_of_calls_eq [PatternLanguage] {treeOf : String → Except Failure Node}
    {fs : FileSystem} {root : Path} {settings : Settings} {session : Session}
    (h : Session.startReading treeOf fs root settings = .ok session) (files files' : FileSystem)
    (clipboard clipboard' : Clipboard) (earlier earlier' later later' : List Event)
    (name : String) :
    let place := after ⟨session, files, clipboard⟩ earlier
    let place' := after ⟨session, files', clipboard'⟩ earlier'
    let opened := place.step (.operation (.openFile name))
    let opened' := place'.step (.operation (.openFile name))
    ((place.run (.openFile name)).2.isOk →
      session.sourceOf place'.files name = session.sourceOf place.files name →
      (∀ event ∈ later ++ later', ¬ event.Opens) →
      (∀ about, calls about later' = calls about later) →
        (opened'.after later').session.hidden = (opened.after later).session.hidden ∧
        (opened'.after later').session.current = (opened.after later).session.current) ∧
      (∀ row, let now := opened.after later
        ((now.run (.toggle row)).1.run (.toggle row)).1 = now) ∧
      ∀ rows : List OutlineRow, (place.run (.openFile name)).2.isOk →
        ∀ about, (opened.after (rows.map fun row => .operation (.toggle row))).session.hidden.hides
          about = decide (Odd ((rows.map OutlineRow.hideable).count about)) := by
  intro place place' opened opened'
  have hstart := Session.isStart_of_startReading_eq_ok h
  have hcoherent : place.session.Coherent :=
    coherent_after (Session.coherent_of_current_eq_none hstart.current_eq) earlier
  have hcoherent' : place'.session.Coherent :=
    coherent_after (Session.coherent_of_current_eq_none hstart.current_eq) earlier'
  have hfolder : session.SameFolder place.session :=
    sameFolder_after ⟨session, files, clipboard⟩ earlier
  have hfolder' : session.SameFolder place'.session :=
    sameFolder_after ⟨session, files', clipboard'⟩ earlier'
  refine ⟨?_, ?_, ?_⟩
  · intro hok hsame hopens hcalls
    obtain ⟨file, source, hfind, hsource⟩ := exists_sourceOf_of_isOk hok
    have hfind' : place'.session.listing.find? name = some file := by
      rw [hfolder'.listing_eq, ← hfolder.listing_eq, hfind]
    have hsource' : place'.session.sourceOf place'.files name = .ok source := by
      rw [hfolder'.sourceOf_eq, hsame, ← hfolder.sourceOf_eq, hsource]
    obtain ⟨hhides, hcurrent⟩ := after_step_openFile hfind hsource hcoherent
      fun event hevent => hopens event (List.mem_append_left _ hevent)
    obtain ⟨hhides', hcurrent'⟩ := after_step_openFile hfind' hsource' hcoherent'
      fun event hevent => hopens event (List.mem_append_right _ hevent)
    have hhidden : (opened'.after later').session.hidden = (opened.after later).session.hidden := by
      apply Hidden.eq_of_hides_eq
      intro about
      rw [hhides', hhides, hcalls]
    refine ⟨hhidden, ?_⟩
    have hplaceholders : place'.session.placeholders = place.session.placeholders :=
      hfolder'.placeholders_eq.trans hfolder.placeholders_eq.symm
    rw [hcurrent', hcurrent, Session.current_showing, Session.current_showing, hplaceholders]
    rw [show (after _ later').session.hidden = _ from hhidden]
  · intro row now
    have hnow : now.session.Coherent :=
      coherent_after (place.coherent_after hcoherent [.operation (.openFile name)]) later
    change { now with session := (now.session.toggle row).toggle row } = now
    rw [hnow.toggle_toggle]
  · intro rows hok about
    obtain ⟨file, source, hfind, hsource⟩ := exists_sourceOf_of_isOk hok
    have hopens : ∀ event ∈ rows.map fun row => Event.operation (.toggle row), ¬ event.Opens := by
      intro event hevent
      obtain ⟨row, -, rfl⟩ := List.mem_map.mp hevent
      exact not_false
    rw [(after_step_openFile hfind hsource hcoherent hopens).1, calls_toggles, foldl_apply_toggle]
    simp

end Engine

/-- A class and a method of one name, and another method, in turns. -/
def mingledEvents : List Event :=
  [.operation (.toggle (.class "A" .plain 0)), .operation (.setMethod "F" true),
    .operation .stage, .operation (.toggle (.class "A" .plain 0)), .operation (.setMethod "A" true)]

/-- The same calls, one name after the other. -/
def groupedEvents : List Event :=
  [.operation (.setMethod "A" true), .operation (.setMethod "F" true),
    .operation (.toggle (.class "A" .plain 0)), .operation (.toggle (.class "A" .plain 0))]

theorem calls_groupedEvents (about : Hideable) :
    calls about groupedEvents = calls about mingledEvents := by
  simp only [calls, groupedEvents, mingledEvents, List.flatMap_cons, List.flatMap_nil, Event.calls,
    OutlineRow.hideable]
  cases about with
  | «class» name => simp
  | method name =>
    by_cases hA : name = "A"
    · simp [hA]
    · simp [hA]

/-- The file is opened with and without an earlier hiding, and shown alike in the end. -/
theorem current_eq_of_calls_eq_mingledEvents :
    let place := after ⟨sampleSession, ⟨[], []⟩, default⟩ sampleEvents
    let place' := after ⟨sampleSession, sampleFiles, default⟩ []
    let opened := place.step (.operation (.openFile "FakeFile.cs"))
    let opened' := place'.step (.operation (.openFile "FakeFile.cs"))
    Session.startReading sampleSession.treeOf ⟨[], []⟩ (.ofString "/p") Settings.unset =
        .ok sampleSession ∧
      (opened.after mingledEvents).session.hidden.classes.names = [] ∧
      (opened.after mingledEvents).session.hidden.methods.names = ["A", "F"] ∧
      (opened'.after groupedEvents).session.hidden = (opened.after mingledEvents).session.hidden ∧
      (opened'.after groupedEvents).session.current =
        (opened.after mingledEvents).session.current := by
  intro place place' opened opened'
  have hstart : Session.startReading sampleSession.treeOf ⟨[], []⟩ (.ofString "/p") Settings.unset =
      .ok sampleSession := rfl
  have hok : (place.run (.openFile "FakeFile.cs")).2.isOk := by decide +kernel
  have hopens : ∀ event ∈ mingledEvents ++ groupedEvents, ¬ event.Opens := by
    simp [mingledEvents, groupedEvents, Event.Opens]
  obtain ⟨hhidden, hcurrent⟩ := (current_eq_of_calls_eq hstart ⟨[], []⟩ sampleFiles default default
    sampleEvents [] mingledEvents groupedEvents "FakeFile.cs").1 hok rfl hopens calls_groupedEvents
  exact ⟨hstart, by decide +kernel, by decide +kernel, hhidden, hcurrent⟩

end Workplace

end RedactedBundle
