import RedactedBundle.Proofs.Bundle
import RedactedBundle.Proofs.Files.Listing
import RedactedBundle.Proofs.Session.Coherence
import RedactedBundle.Proofs.Session.Effects

/-!
# What a run has staged

The place of a staged file and its text come from different moments of a run: the place from the
first staging of its name, the text from the last one. In between names are hidden and shown, other
files are opened, operations fail. All that the bundle ever holds is given by the snapshots that the
successful stagings took, each of what was shown at its moment.

## Main definitions

- `Workplace.snapshot?`, `Workplace.snapshots`: the snapshots taken by an event and by a run

## Main statements

- `Workplace.bundle_step`, `Workplace.bundle_after`: what an event and a run do to the bundle
- `Workplace.staged_after`: the bundle after any run from the start of a session
-/

namespace RedactedBundle

namespace Workplace

section Engine

variable [TemplateEngine]

/-- The snapshot that an event takes, if it is a staging that succeeds: what is shown of the open
file at that moment. -/
def snapshot? (place : Workplace) : Event → Option Snapshot
  | .operation .stage =>
    if (place.run .stage).2.isOk then
      place.session.current.map fun file => ⟨file.name, file.shown⟩
    else none
  | _ => none

/-- The snapshots that a run takes, in order. -/
def snapshots (place : Workplace) : List Event → List Snapshot
  | [] => []
  | event :: rest => (place.snapshot? event).toList ++ (place.step event).snapshots rest

/-- Staging succeeds with a file open of which something is shown, and tells how many snapshots
there are. -/
theorem run_stage_of_shown {place : Workplace} {file : OpenFile}
    (hcurrent : place.session.current = some file) (hshown : file.shown ≠ "") :
    let bundle := place.session.bundle.stage ⟨file.name, file.shown⟩
    place.run .stage =
        ({ place with session := { place.session with bundle } }, .ok (.staged bundle.size)) ∧
      place.snapshot? (.operation .stage) = some ⟨file.name, file.shown⟩ := by
  intro bundle
  have hstage := Session.stage_eq_ok_iff.mpr ⟨file, hcurrent, hshown, rfl⟩
  have hrun : place.run .stage =
      ({ place with session := { place.session with bundle } }, .ok (.staged bundle.size)) := by
    rw [run, hstage]
  refine ⟨hrun, ?_⟩
  rw [snapshot?, hrun, hcurrent]
  rfl

/-- Otherwise it fails and leaves all as it was. -/
theorem run_stage_of_not_shown {place : Workplace}
    (h : ¬ ∃ file, place.session.current = some file ∧ file.shown ≠ "") :
    (∃ failure, place.run .stage = (place, .error failure)) ∧
      place.snapshot? (.operation .stage) = none := by
  cases hstage : place.session.stage with
  | ok session =>
    obtain ⟨file, hcurrent, hshown, _⟩ := Session.stage_eq_ok_iff.mp hstage
    exact absurd ⟨file, hcurrent, hshown⟩ h
  | error failure =>
    have hrun : place.run .stage = (place, .error failure) := by rw [run, hstage]
    refine ⟨⟨failure, hrun⟩, ?_⟩
    rw [snapshot?, hrun]
    rfl

theorem snapshot?_eq_some_iff {place : Workplace} {event : Event} {snapshot : Snapshot} :
    place.snapshot? event = some snapshot ↔
      event = .operation .stage ∧ ∃ file, place.session.current = some file ∧ file.shown ≠ "" ∧
        snapshot = ⟨file.name, file.shown⟩ := by
  constructor
  · intro h
    unfold snapshot? at h
    split at h
    · refine ⟨rfl, ?_⟩
      by_cases hshown : ∃ file, place.session.current = some file ∧ file.shown ≠ ""
      · obtain ⟨file, hcurrent, hshown⟩ := hshown
        have hsome := (run_stage_of_shown hcurrent hshown).2.symm.trans h
        exact ⟨file, hcurrent, hshown, (Option.some.inj hsome).symm⟩
      · cases (run_stage_of_not_shown hshown).2.symm.trans h
    · cases h
  · rintro ⟨rfl, file, hcurrent, hshown, rfl⟩
    exact (run_stage_of_shown hcurrent hshown).2

/-- No operation but staging changes the bundle. -/
theorem bundle_run_of_ne_stage {op : Operation} (place : Workplace) (h : op ≠ .stage) :
    (place.run op).1.session.bundle = place.session.bundle := by
  rcases (place.effect_run op).bundle with hsame | ⟨hstage, -⟩
  · exact hsame
  · exact absurd hstage h

/-- The snapshot of an event is staged; an event without one leaves the bundle as it is. -/
theorem bundle_step (place : Workplace) (event : Event) :
    (place.step event).session.bundle =
      (place.snapshot? event).toList.foldl Bundle.stage place.session.bundle := by
  cases event with
  | outside files clipboard => rfl
  | operation op =>
    by_cases hop : op = .stage
    · subst hop
      by_cases hshown : ∃ file, place.session.current = some file ∧ file.shown ≠ ""
      · obtain ⟨file, hcurrent, hshown⟩ := hshown
        obtain ⟨hrun, htaken⟩ := run_stage_of_shown hcurrent hshown
        rw [step, hrun, htaken]
        rfl
      · obtain ⟨⟨failure, hrun⟩, htaken⟩ := run_stage_of_not_shown hshown
        rw [step, hrun, htaken]
        rfl
    · have htaken : place.snapshot? (.operation op) = none := by
        cases op with
        | stage => exact absurd rfl hop
        | _ => rfl
      rw [htaken]
      exact place.bundle_run_of_ne_stage hop

/-- A run stages its snapshots one after the other, whatever else it does. -/
theorem bundle_after (place : Workplace) (events : List Event) :
    (place.after events).session.bundle =
      (place.snapshots events).foldl Bundle.stage place.session.bundle := by
  induction events generalizing place with
  | nil => rfl
  | cons event rest ih =>
    rw [snapshots, List.foldl_append, ← bundle_step]
    exact ih (place.step event)

/-- A snapshot is not empty, and its name is listed. -/
theorem exists_listed_of_mem_snapshots {place : Workplace} (h : place.session.Coherent)
    {events : List Event} {snapshot : Snapshot} (hmem : snapshot ∈ place.snapshots events) :
    snapshot.text ≠ "" ∧ ∃ entry ∈ place.session.listing.files, entry.name = snapshot.name := by
  induction events generalizing place with
  | nil => cases hmem
  | cons event rest ih =>
    rcases List.mem_append.mp hmem with hnow | hlater
    · rw [Option.mem_toList] at hnow
      obtain ⟨_, file, hcurrent, hshown, rfl⟩ := snapshot?_eq_some_iff.mp hnow
      exact ⟨hshown, (h file hcurrent).exists_listed⟩
    · have hnext : (place.step event).session.Coherent := place.coherent_after h [event]
      have hfolder : place.session.SameFolder (place.step event).session :=
        place.sameFolder_after [event]
      rw [← hfolder.listing_eq]
      exact ih hnext hlater

/-- After any run from the start of a session the bundle lists each staged name where it was staged
first, with the text that was shown when it was staged last. Staging once more succeeds with a file
open of which something is shown, and tells how many names have been staged then. All staged names
are listed and no staged text is empty. An event that takes no snapshot leaves the bundle alone. -/
theorem staged_after [PatternLanguage] {treeOf : String → Except Failure Node} {fs : FileSystem}
    {root : Path} {settings : Settings} {session : Session}
    (h : Session.startReading treeOf fs root settings = .ok session) (files : FileSystem)
    (clipboard : Clipboard) (events : List Event) :
    let start : Workplace := ⟨session, files, clipboard⟩
    let now := start.after events
    now.session.bundle.names = ((start.snapshots events).map Snapshot.name).eraseDups ∧
      (∀ name, now.session.bundle.get? name =
        ((start.snapshots events).reverse.find? (·.name = name)).map Snapshot.text) ∧
      ((∃ response, (now.run .stage).2 = .ok response) ↔
        ∃ file, now.session.current = some file ∧ file.shown ≠ "") ∧
      (∀ response, (now.run .stage).2 = .ok response → response = .staged
        ((start.snapshots (events ++ [.operation .stage])).map Snapshot.name).eraseDups.length) ∧
      (∀ staged ∈ now.session.bundle.entries,
        staged.text ≠ "" ∧ ∃ entry ∈ session.listing.files, entry.name = staged.name) ∧
      ∀ event, now.snapshot? event = none →
        (now.step event).session.bundle = now.session.bundle := by
  intro start now
  have hstart := Session.isStart_of_startReading_eq_ok h
  have hbundle : ∀ events,
      (start.after events).session.bundle = Bundle.ofList (start.snapshots events) := by
    intro events
    rw [bundle_after, Bundle.ofList, ← hstart.bundle_eq]
  have hnow : now.session.bundle = Bundle.ofList (start.snapshots events) := hbundle events
  refine ⟨?_, ?_, ?_, ?_, ?_, ?_⟩
  · rw [hnow, Bundle.names_ofList]
  · intro name
    rw [hnow, Bundle.get?_ofList]
  · constructor
    · rintro ⟨response, hresponse⟩
      by_contra hnone
      obtain ⟨⟨failure, hrun⟩, _⟩ := run_stage_of_not_shown hnone
      rw [hrun] at hresponse
      cases hresponse
    · rintro ⟨file, hcurrent, hshown⟩
      exact ⟨_, by rw [(run_stage_of_shown hcurrent hshown).1]⟩
  · intro response hresponse
    by_cases hshown : ∃ file, now.session.current = some file ∧ file.shown ≠ ""
    · obtain ⟨file, hcurrent, hshown⟩ := hshown
      obtain ⟨hrun, _⟩ := run_stage_of_shown hcurrent hshown
      have hnext : (now.run .stage).1.session.bundle =
          Bundle.ofList (start.snapshots (events ++ [.operation .stage])) := by
        rw [← hbundle, after, List.foldl_append]
        rfl
      rw [← Bundle.names_ofList, ← hnext, hrun, Bundle.names, List.length_map]
      rw [hrun] at hresponse
      exact (Except.ok.inj hresponse).symm
    · obtain ⟨⟨failure, hrun⟩, _⟩ := run_stage_of_not_shown hshown
      rw [hrun] at hresponse
      cases hresponse
  · intro staged hmem
    rw [hnow] at hmem
    have hcoherent : start.session.Coherent :=
      Session.coherent_of_current_eq_none hstart.current_eq
    exact exists_listed_of_mem_snapshots hcoherent (Bundle.mem_of_mem_ofList hmem)
  · intro event hnone
    rw [bundle_step, hnone]
    rfl

end Engine

/-- Files with a folder in which there are two source files. -/
def twinFiles : FileSystem :=
  { entries :=
      [([Utf8.encode "d".toList], .folder),
        ([Utf8.encode "d".toList, Utf8.encode "a.cs".toList],
          .file (Utf8.encode "class A \x7b \x7d".toList) false),
        ([Utf8.encode "d".toList, Utf8.encode "b.cs".toList],
          .file (Utf8.encode "class B \x7b \x7d".toList) false)]
    working := [] }

/-- A session over that folder. -/
def twinSession : Session :=
  { sampleSession with
    listing :=
      { root := .ofString "d"
        files := [⟨"a.cs", .ofString "d/a.cs", some 11⟩, ⟨"b.cs", .ofString "d/b.cs", some 11⟩]
        placeholder := false } }

/-- The second file is staged before the first one, and once more with its class hidden; in between
a file is asked for that there is not. -/
def twinEvents : List Event :=
  [.operation (.openFile "b.cs"), .operation .stage, .operation (.openFile "a.cs"),
    .operation .stage, .operation (.openFile "c.cs"), .operation (.openFile "b.cs"),
    .operation (.setClass "B" true), .operation .stage, .operation (.setClass "B" false)]

/-- The file that was staged first stays first, with the text of its last staging. -/
theorem staged_after_twinEvents :
    let now := after ⟨twinSession, twinFiles, default⟩ twinEvents
    Session.startReading twinSession.treeOf twinFiles (.ofString "d") Settings.unset =
        .ok twinSession ∧
      now.session.bundle.names = ["b.cs", "a.cs"] ∧
      now.session.bundle.get? "b.cs" =
        some "class B \x7b\n    /* whole class collapsed */\n\x7d" ∧
      ∃ response, (now.run .stage).2 = .ok response ∧ response = .staged 2 := by
  intro now
  have hscan : Listing.scan twinFiles (.ofString "d") Settings.unset.project.patterns
      Settings.unset.project.placeholderFile = .ok twinSession.listing :=
    Listing.scan_of_pairwise (by decide +kernel) (by decide +kernel) (by decide)
  have hstart : Session.startReading twinSession.treeOf twinFiles (.ofString "d") Settings.unset =
      .ok twinSession := by
    rw [Session.startReading, hscan]
    rfl
  obtain ⟨hnames, htext, hstage, hcount, _, _⟩ :=
    staged_after hstart twinFiles default twinEvents
  refine ⟨hstart, ?_, ?_, ?_⟩
  · rw [hnames]
    decide +kernel
  · rw [htext]
    decide +kernel
  · have hshown : now.session.current.map (·.shown) = some "class B \x7b \x7d" := by
      decide +kernel
    obtain ⟨file, hcurrent, hshown⟩ := Option.map_eq_some_iff.mp hshown
    have hcounted : ((snapshots ⟨twinSession, twinFiles, default⟩
        (twinEvents ++ [.operation .stage])).map Snapshot.name).eraseDups.length = 2 := by
      decide +kernel
    obtain ⟨response, hresponse⟩ := hstage.mpr ⟨file, hcurrent, by rw [hshown]; decide⟩
    refine ⟨response, hresponse, ?_⟩
    rw [hcount response hresponse, hcounted]

end Workplace

end RedactedBundle
