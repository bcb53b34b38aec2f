import RedactedBundle.Proofs.Session.Hiding

/-!
# Failed operations can be left out

Not every operation that fails leaves the session as it was: without an open file nothing can be
hidden or shown, yet the name counts from then on. This is all that a failure leaves behind, and it
comes to nothing, since it is not seen without an open file and is forgotten when one is opened. So
a run comes to the same if the operations that failed in it are left out.

## Main definitions

- `Workplace.Agrees`: a workplace with other names hidden at most while no file is open
- `Workplace.results`, `Workplace.succeeding`: what a run returns, and the events that did not fail

## Main statements

- `Workplace.agrees_of_run_eq_error`: what an operation leaves behind that fails
- `Workplace.Agrees.run`: operations cannot tell what was left behind
- `Workplace.after_succeeding`: a run without the operations that failed in it
-/

namespace RedactedBundle

namespace Session

variable {session : Session}

theorem current_withHidden_of_eq_none (h : session.current = none) (hidden : Hidden) :
    (session.withHidden hidden).current = none := by
  rw [withHidden, h]
  rfl

theorem ifOpen_of_eq_none (h : session.current = none) (response : OpenFile → Response) :
    session.ifOpen response = .error .noOpenFile := by
  rw [ifOpen, h]

theorem current_eq_none_of_ifOpen {response : OpenFile → Response} {failure : Failure}
    (h : session.ifOpen response = .error failure) : session.current = none := by
  rw [ifOpen] at h
  cases hcurrent : session.current with
  | none => rfl
  | some file =>
    rw [hcurrent] at h
    cases h

end Session

namespace Workplace

/-- The workplace with other hidden names in its session. -/
def withHidden (place : Workplace) (hidden : Hidden) : Workplace :=
  { place with session := place.session.withHidden hidden }

/-- The second workplace differs from the first one at most in names hidden while no file is
open. -/
inductive Agrees (place : Workplace) : Workplace → Prop where
  | same : Agrees place place
  | unseen (hidden : Hidden) (current : place.session.current = none) :
    Agrees place (place.withHidden hidden)

variable {place place' place'' : Workplace} {op : Operation}

@[simp] theorem withHidden_withHidden (place : Workplace) (hidden hidden' : Hidden) :
    (place.withHidden hidden).withHidden hidden' = place.withHidden hidden' := by
  simp [withHidden]

theorem Agrees.trans (h : place.Agrees place') (h' : place'.Agrees place'') :
    place.Agrees place'' := by
  cases h with
  | same => exact h'
  | unseen hidden current =>
    cases h' with
    | same => exact .unseen hidden current
    | unseen hidden' _ =>
      rw [withHidden_withHidden]
      exact .unseen hidden' current

/-! ## One operation -/

/-- Hiding or showing fails without an open file only, and leaves the name behind then. -/
theorem agrees_withHidden_of_error {hidden : Hidden} {response : OpenFile → Response}
    {failure : Failure}
    (h : (place.session.withHidden hidden).ifOpen response = .error failure) :
    place.Agrees (place.withHidden hidden) := by
  have hcurrent := Session.current_eq_none_of_ifOpen h
  exact .unseen hidden (Option.map_eq_none_iff.mp hcurrent)

section Engine

variable [TemplateEngine]

/-- An operation that hides or shows nothing leaves all as it was if it fails. -/
theorem run_eq_self_of_error {failure : Failure}
    (hcalls : ∀ about, (Event.operation op).calls about = [])
    (h : (place.run op).2 = .error failure) : (place.run op).1 = place := by
  cases op with
  | openFile name =>
    cases hopen : place.session.openFile place.files name with
    | error other => rw [run, hopen]
    | ok session =>
      obtain ⟨file, -, hrun⟩ := run_openFile_of_eq_ok hopen
      rw [hrun] at h
      cases h
  | setClass name hide => simpa [Event.calls] using hcalls (.class name)
  | setMethod name hide => simpa [Event.calls] using hcalls (.method name)
  | toggle row => simpa [Event.calls] using hcalls row.hideable
  | stage =>
    rw [run] at h ⊢
    cases hstage : place.session.stage with
    | error other => rfl
    | ok session =>
      rw [hstage] at h
      cases h
  | document => rfl
  | save =>
    rw [run] at h ⊢
    cases hsave : place.session.save place.files with
    | error other => rfl
    | ok saved =>
      rw [hsave] at h
      cases saved <;> cases h
  | copy =>
    rw [run] at h ⊢
    cases hcopy : place.session.copy place.files place.clipboard with
    | error other => rfl
    | ok copying =>
      rw [hcopy] at h
      cases h
  | setUrl url => cases h

theorem run_openFile_of_find?_eq_none {name : String}
    (h : place.session.listing.find? name = none) :
    (place.run (.openFile name)).2 = .error (.unknownFile name) := by
  rw [run, Session.openFile, h]

/-- An operation that fails leaves at most names behind that are not seen. -/
theorem agrees_of_run_eq_error {failure : Failure} (h : (place.run op).2 = .error failure) :
    place.Agrees (place.run op).1 := by
  cases op with
  | setClass name hide => exact agrees_withHidden_of_error h
  | setMethod name hide => exact agrees_withHidden_of_error h
  | toggle row => cases row <;> exact agrees_withHidden_of_error h
  | _ =>
    rw [run_eq_self_of_error (fun _ => rfl) h]
    exact .same

/-- Without an open file nothing can be hidden or shown. -/
theorem not_isOk_of_calls (about : Hideable) (hcurrent : place.session.current = none)
    (hcalls : (Event.operation op).calls about ≠ []) : ¬ (place.run op).2.isOk := by
  have hfails (hidden : Hidden) (response : OpenFile → Response) :
      ¬ ((place.session.withHidden hidden).ifOpen response).isOk := by
    rw [Session.ifOpen_of_eq_none (Session.current_withHidden_of_eq_none hcurrent hidden)]
    exact Bool.false_ne_true
  cases op with
  | setClass name hide => exact hfails _ _
  | setMethod name hide => exact hfails _ _
  | toggle row => cases row <;> exact hfails _ _
  | _ => exact absurd rfl hcalls

/-- An operation that succeeds, with names left behind that are not seen, does and returns the same
without them. -/
theorem Agrees.run (h : place.Agrees place') (hok : (place'.run op).2.isOk) :
    (place.run op).2 = (place'.run op).2 ∧ (place.run op).1.Agrees (place'.run op).1 := by
  cases h with
  | same => exact ⟨rfl, .same⟩
  | unseen hidden current =>
    have hcurrent : (place.withHidden hidden).session.current = none :=
      Session.current_withHidden_of_eq_none current hidden
    cases op with
    | openFile name =>
      have hsame : (place.withHidden hidden).session.openFile (place.withHidden hidden).files name =
          place.session.openFile place.files name := rfl
      cases hopen : place.session.openFile place.files name with
      | error failure =>
        rw [Workplace.run, hsame, hopen] at hok
        cases hok
      | ok session =>
        -- With the file opened, the names are forgotten.
        rw [Workplace.run, Workplace.run, hsame, hopen]
        exact ⟨rfl, .same⟩
    | setClass name hide =>
      exact absurd hok (not_isOk_of_calls (.class name) hcurrent (by simp [Event.calls]))
    | setMethod name hide =>
      exact absurd hok (not_isOk_of_calls (.method name) hcurrent (by simp [Event.calls]))
    | toggle row =>
      exact absurd hok (not_isOk_of_calls row.hideable hcurrent (by simp [Event.calls]))
    | stage =>
      rw [Workplace.run, Session.stage, hcurrent] at hok
      cases hok
    | document => exact ⟨rfl, .unseen hidden current⟩
    | save =>
      have hsame : (place.withHidden hidden).session.save (place.withHidden hidden).files =
          place.session.save place.files := rfl
      rw [Workplace.run, Workplace.run, hsame]
      cases place.session.save place.files with
      | error failure => exact ⟨rfl, .unseen hidden current⟩
      | ok saved =>
        cases saved with
        | none => exact ⟨rfl, .unseen hidden current⟩
        | some files => exact ⟨rfl, .unseen hidden current⟩
    | copy =>
      have hsame : (place.withHidden hidden).session.copy (place.withHidden hidden).files
          (place.withHidden hidden).clipboard = place.session.copy place.files place.clipboard := rfl
      rw [Workplace.run, Workplace.run, hsame]
      cases place.session.copy place.files place.clipboard with
      | error failure => exact ⟨rfl, .unseen hidden current⟩
      | ok copying => exact ⟨rfl, .unseen hidden current⟩
    | setUrl url => exact ⟨rfl, .unseen hidden current⟩

/-! ## Runs -/

/-- What an operation returns; what happens outside returns nothing. -/
def result? (place : Workplace) : Event → Option (Except Failure Response)
  | .operation op => some (place.run op).2
  | .outside _ _ => none

/-- What the operations of a run return. -/
def results (place : Workplace) : List Event → List (Except Failure Response)
  | [] => []
  | event :: rest => (place.result? event).toList ++ (place.step event).results rest

/-- The event is no operation that fails. -/
def Succeeds (place : Workplace) : Event → Prop
  | .operation op => (place.run op).2.isOk
  | .outside _ _ => True

instance (place : Workplace) : DecidablePred place.Succeeds
  | .operation op => inferInstanceAs (Decidable ((place.run op).2.isOk = true))
  | .outside _ _ => inferInstanceAs (Decidable True)

/-- The events of a run without the operations that fail in it. -/
def succeeding (place : Workplace) : List Event → List Event
  | [] => []
  | event :: rest =>
    if place.Succeeds event then event :: (place.step event).succeeding rest
    else (place.step event).succeeding rest

theorem filter_result?_of_succeeds {event : Event} (h : place.Succeeds event) :
    (place.result? event).toList.filter (·.isOk) = (place.result? event).toList := by
  cases event with
  | operation op => exact List.filter_cons_of_pos h
  | outside files clipboard => rfl

theorem Agrees.step {event : Event} (h : place.Agrees place') (hok : place'.Succeeds event) :
    place.result? event = place'.result? event ∧ (place.step event).Agrees (place'.step event) := by
  cases event with
  | operation op =>
    obtain ⟨hresult, hplace⟩ := h.run hok
    exact ⟨congrArg some hresult, hplace⟩
  | outside files clipboard =>
    cases h with
    | same => exact ⟨rfl, .same⟩
    | unseen hidden current => exact ⟨rfl, .unseen hidden current⟩

theorem agrees_step_of_not_succeeds {event : Event} (h : ¬ place.Succeeds event) :
    (∃ failure, place.result? event = some (.error failure)) ∧ place.Agrees (place.step event) := by
  cases event with
  | outside files clipboard => exact absurd trivial h
  | operation op =>
    cases hresult : (place.run op).2 with
    | ok response =>
      rw [Succeeds, hresult] at h
      exact absurd rfl h
    | error failure =>
      exact ⟨⟨failure, congrArg some hresult⟩, agrees_of_run_eq_error hresult⟩

/-- A run that starts with names left behind that are not seen comes to the same as the one without
these names and without the operations that fail. -/
theorem Agrees.after (h : place.Agrees place') (events : List Event) :
    place.results (place'.succeeding events) = (place'.results events).filter (·.isOk) ∧
      (place.after (place'.succeeding events)).Agrees (place'.after events) := by
  induction events generalizing place place' with
  | nil => exact ⟨rfl, h⟩
  | cons event rest ih =>
    rw [succeeding, results, List.filter_append]
    by_cases hok : place'.Succeeds event
    · obtain ⟨hresult, hplace⟩ := h.step hok
      obtain ⟨hrest, hafter⟩ := ih hplace
      rw [if_pos hok, results, hrest, hresult, filter_result?_of_succeeds hok]
      exact ⟨rfl, hafter⟩
    · obtain ⟨⟨failure, hresult⟩, hplace⟩ := agrees_step_of_not_succeeds hok
      rw [if_neg hok, hresult]
      exact ih (h.trans hplace)

/-- What a run leads to is the same without the operations that fail in it, and these make the same
responses: the same file is open and shown alike, the same snapshots are staged, the same document
is made of them, the same address is remembered, and, as long as a file is open, the same names are
hidden. A file that cannot be opened leaves the workplace as it was. -/
theorem after_succeeding (place : Workplace) (events : List Event) :
    let now := place.after events
    let now' := place.after (place.succeeding events)
    place.results (place.succeeding events) = (place.results events).filter (·.isOk) ∧
      now'.session.current = now.session.current ∧
      now'.session.bundle = now.session.bundle ∧
      now'.session.url = now.session.url ∧
      now'.session.document now'.files = now.session.document now.files ∧
      now'.files = now.files ∧ now'.clipboard = now.clipboard ∧
      (now.session.current ≠ none → now'.session.hidden = now.session.hidden) ∧
      ∀ name failure, (now.run (.openFile name)).2 = .error failure →
        (now.run (.openFile name)).1 = now := by
  intro now now'
  obtain ⟨hresults, hafter⟩ : _ ∧ now'.Agrees now := Agrees.after (.same : place.Agrees place) events
  refine ⟨hresults, ?_⟩
  have hopen : ∀ name failure, (now.run (.openFile name)).2 = .error failure →
      (now.run (.openFile name)).1 = now :=
    fun name failure => run_eq_self_of_error fun _ => rfl
  clear_value now now'
  cases hafter with
  | same => exact ⟨rfl, rfl, rfl, rfl, rfl, rfl, fun _ => rfl, hopen⟩
  | unseen hidden current =>
    have hcurrent : (now'.withHidden hidden).session.current = none :=
      Session.current_withHidden_of_eq_none current hidden
    refine ⟨current.trans hcurrent.symm, rfl, rfl, rfl, rfl, rfl, fun hnone => ?_, hopen⟩
    exact absurd hcurrent hnone

end Engine

/-- A method is hidden before any file is open, a file is asked for that there is not, and the same
once more with a file open and its method hidden. -/
def vainEvents : List Event :=
  [.operation (.setMethod "G" true), .operation (.openFile "c.cs"), .outside sampleFiles default,
    .operation (.openFile "FakeFile.cs"), .operation (.setMethod "F" true),
    .operation (.openFile "c.cs"), .operation .stage]

/-- A workplace at which nothing was done yet. -/
def samplePlace : Workplace := ⟨sampleSession, ⟨[], []⟩, default⟩

/-- Three of the events fail; without them the same names are hidden and the same is staged. -/
theorem after_succeeding_vainEvents :
    (samplePlace.succeeding vainEvents).length = 4 ∧
      samplePlace.results (samplePlace.succeeding vainEvents) =
        (samplePlace.results vainEvents).filter (·.isOk) ∧
      (samplePlace.after vainEvents).session.bundle.names = ["FakeFile.cs"] ∧
      (samplePlace.after (samplePlace.succeeding vainEvents)).session.bundle =
        (samplePlace.after vainEvents).session.bundle ∧
      (samplePlace.after vainEvents).session.hidden.methods.names = ["F"] ∧
      (samplePlace.after (samplePlace.succeeding vainEvents)).session.hidden =
        (samplePlace.after vainEvents).session.hidden ∧
      ((samplePlace.after vainEvents).run (.openFile "c.cs")).1 = samplePlace.after vainEvents := by
  obtain ⟨hresults, -, hbundle, -, -, -, -, hhidden, hopen⟩ :=
    after_succeeding samplePlace vainEvents
  have hopened : (samplePlace.after vainEvents).session.current.isSome := by decide +kernel
  have hfind : (samplePlace.after vainEvents).session.listing.find? "c.cs" = none := by
    rw [(samplePlace.sameFolder_after vainEvents).listing_eq]
    rfl
  refine ⟨by decide +kernel, hresults, by decide +kernel, hbundle, by decide +kernel, ?_, ?_⟩
  · exact hhidden (Option.isSome_iff_ne_none.mp hopened)
  · exact hopen _ _ (run_openFile_of_find?_eq_none hfind)

end Workplace

end RedactedBundle
