import RedactedBundle.Proofs.Document.Layout
import RedactedBundle.Proofs.Files.Write

/-!
# Where documents go

A document is saved to a file or handed to a clipboard, unless there is nothing to save or to copy.
That is so without snapshots, but as well if the template renders the snapshots to nothing. The
built-in template never does; a template file may, and then snapshots count as nothing staged.

## Main definitions

- `DocumentOptions.RendersToNothing`: the template renders the snapshots to the empty text

## Main statements

- `DocumentOptions.render_eq_ok_empty_iff`: when the document of a bundle is empty
- `DocumentOptions.save_of_ne_empty`, `DocumentOptions.copy_of_ne_empty`: where other documents go
- `DocumentOptions.delivery_of_render`: what saving and copying a document lead to
-/

namespace RedactedBundle

namespace DocumentOptions

theorem layout_ne_empty (options : DocumentOptions) (bundle : Bundle) :
    options.layout bundle ≠ "" := by
  simp [layout]

section Engine

variable [TemplateEngine] {options : DocumentOptions} {fs : FileSystem} {bundle : Bundle}
  {document : String}

/-- The template is there and renders the snapshots to the empty text. -/
def RendersToNothing (options : DocumentOptions) (fs : FileSystem) (bundle : Bundle) : Prop :=
  ∃ source, options.templateSource fs = .ok source ∧ options.renderBy source bundle = .ok ""

theorem render_of_isEmpty (h : bundle.isEmpty) : options.render fs bundle = .ok "" := by
  rw [render, if_pos h]

/-- A document is empty without snapshots, or if the template makes nothing of them. -/
theorem render_eq_ok_empty_iff :
    options.render fs bundle = .ok "" ↔ bundle.isEmpty ∨ options.RendersToNothing fs bundle := by
  by_cases hempty : bundle.isEmpty
  · exact iff_of_true (render_of_isEmpty hempty) (.inl hempty)
  · rw [render, if_neg hempty, RendersToNothing]
    cases hsource : options.templateSource fs with
    | error failure => simp [Except.bind, hempty]
    | ok source => simp [Except.bind, hempty]

/-- The built-in template makes something of each bundle. -/
theorem not_rendersToNothing_of_builtin (hengine : TemplateEngine.RendersPlain)
    (h : options.template = builtinTemplate) : ¬ options.RendersToNothing fs bundle := by
  rintro ⟨source, hsource, hrender⟩
  rw [templateSource, if_pos h] at hsource
  obtain rfl := Except.ok.inj hsource
  rw [renderBy_markdownTemplate _ _ hengine (by decide)] at hrender
  exact layout_ne_empty options bundle (Except.ok.inj hrender)

/-! ## Saving -/

theorem save_of_empty (h : options.render fs bundle = .ok "") (path : Path) :
    options.save fs bundle path = .ok none := by
  rw [save, h]
  rfl

/-- A document that is not empty is at the path afterwards, or writing it has failed. -/
theorem save_of_ne_empty (h : options.render fs bundle = .ok document) (hne : document ≠ "")
    (path : Path) :
    (∃ error, fs.write path (Utf8.encode document.toList) = .error error ∧
        options.save fs bundle path = .error (.access .document path error)) ∨
      ∃ written, options.save fs bundle path = .ok (some written) ∧
        written.read path = .ok (Utf8.encode document.toList) := by
  cases hwrite : fs.write path (Utf8.encode document.toList) with
  | error error =>
    refine .inl ⟨error, rfl, ?_⟩
    simp only [save, h, Except.bind, if_neg hne, hwrite]
  | ok written =>
    refine .inr ⟨written, ?_, FileSystem.read_of_write_eq_ok hwrite⟩
    simp only [save, h, Except.bind, if_neg hne, hwrite]

/-! ## Copying -/

theorem copy_of_empty (h : options.render fs bundle = .ok "") (clipboard : Clipboard) :
    options.copy fs bundle clipboard = .ok ⟨.nothingStaged, clipboard, fs⟩ := by
  rw [copy, h]
  rfl

/-- A document that is not empty is offered to the clipboard once, which takes it or refuses it. -/
theorem copy_of_ne_empty (h : options.render fs bundle = .ok document) (hne : document ≠ "")
    (clipboard : Clipboard) :
    options.copy fs bundle clipboard = .ok
      ⟨if (clipboard.offer fs document).2 then .copied else .unavailable,
        clipboard.record document, (clipboard.offer fs document).1⟩ := by
  rw [copy, h, Except.map, if_neg hne]

/-- Saving and copying report that nothing is staged exactly if the document is empty: without
snapshots, or if the template renders them to nothing. Any other document is written to the path
unless that fails, and offered to the clipboard once. -/
theorem delivery_of_render (h : options.render fs bundle = .ok document) (path : Path)
    (clipboard : Clipboard) :
    (document = "" ↔ bundle.isEmpty ∨ options.RendersToNothing fs bundle) ∧
      (TemplateEngine.RendersPlain → options.template = builtinTemplate →
        ¬ options.RendersToNothing fs bundle) ∧
      (options.save fs bundle path = .ok none ↔ document = "") ∧
      (document ≠ "" →
        (∃ error, fs.write path (Utf8.encode document.toList) = .error error ∧
          options.save fs bundle path = .error (.access .document path error)) ∨
        ∃ written, options.save fs bundle path = .ok (some written) ∧
          written.read path = .ok (Utf8.encode document.toList)) ∧
      ∃ copying, options.copy fs bundle clipboard = .ok copying ∧
        (copying.outcome = .nothingStaged ↔ document = "") ∧
        (document = "" → copying.clipboard = clipboard ∧ copying.files = fs) ∧
        (document ≠ "" → copying.clipboard = clipboard.record document ∧
          copying.files = (clipboard.offer fs document).1 ∧
          copying.outcome = if (clipboard.offer fs document).2 then .copied else .unavailable) := by
  refine ⟨?_, not_rendersToNothing_of_builtin, ?_, fun hne => save_of_ne_empty h hne path, ?_⟩
  · rw [← render_eq_ok_empty_iff, h, Except.ok.injEq]
  · by_cases hne : document = ""
    · exact iff_of_true (save_of_empty (hne ▸ h) path) hne
    · refine iff_of_false (fun hnone => ?_) hne
      rcases save_of_ne_empty h hne path with ⟨error, -, hsave⟩ | ⟨written, hsave, -⟩
      · cases hsave.symm.trans hnone
      · cases hsave.symm.trans hnone
  · by_cases hne : document = ""
    · exact ⟨_, copy_of_empty (hne ▸ h) clipboard, iff_of_true rfl hne, fun _ => ⟨rfl, rfl⟩,
        fun hother => absurd hne hother⟩
    · refine ⟨_, copy_of_ne_empty h hne clipboard, iff_of_false ?_ hne,
        fun hempty => absurd hempty hne, fun _ => ⟨rfl, rfl, rfl⟩⟩
      cases (clipboard.offer fs document).2 <;> exact nofun

end Engine

/-- Two template files: one that counts the snapshots, and one with nothing in it. -/
def shortTemplates : FileSystem :=
  { entries :=
      [([Utf8.encode "count.j2".toList], .file (Utf8.encode "\x7b\x7b count \x7d\x7d".toList) false),
        ([Utf8.encode "none.j2".toList], .file [] false)]
    working := [] }

def oneSnapshot : Bundle := .ofList [⟨"A.cs", "x"⟩]

/-- The number of snapshots is written and copied. -/
theorem delivery_of_render_counted :
    let options : DocumentOptions := ⟨"Bundle", "csharp", "count.j2"⟩
    let clipboard : Clipboard := ⟨.memory, []⟩
    options.render shortTemplates oneSnapshot = .ok "1" ∧
      (∃ written, options.save shortTemplates oneSnapshot (.ofString "out.md") = .ok (some written) ∧
        written.read (.ofString "out.md") = .ok (Utf8.encode "1".toList)) ∧
      ∃ copying, options.copy shortTemplates oneSnapshot clipboard = .ok copying ∧
        copying.outcome = .copied ∧ copying.clipboard.offered = ["1"] := by
  intro options clipboard
  have hrender : options.render shortTemplates oneSnapshot = .ok "1" := by decide +kernel
  obtain ⟨-, -, -, hsave, copying, hcopy, -, -, hcopying⟩ :=
    delivery_of_render hrender (.ofString "out.md") clipboard
  have hne : "1" ≠ "" := by decide
  obtain ⟨hclipboard, -, houtcome⟩ := hcopying hne
  refine ⟨hrender, ?_, copying, hcopy, houtcome, by rw [hclipboard]; rfl⟩
  rcases hsave hne with ⟨error, hwrite, -⟩ | hwritten
  · have hok : (shortTemplates.write (.ofString "out.md") (Utf8.encode "1".toList)).isOk := by
      decide +kernel
    rw [hwrite] at hok
    cases hok
  · exact hwritten

/-- A snapshot rendered by an empty template is reported as if nothing were staged, though the bundle
is not empty. -/
theorem not_forall_nothing_iff_isEmpty :
    ¬ ∀ (options : DocumentOptions) (fs : FileSystem) (bundle : Bundle) (document : String)
      (path : Path) (clipboard : Clipboard), options.render fs bundle = .ok document →
        (options.save fs bundle path = .ok none ↔ bundle.isEmpty) ∧
        ((options.copy fs bundle clipboard).map Copying.outcome = .ok .nothingStaged ↔
          bundle.isEmpty) := by
  intro hall
  let options : DocumentOptions := ⟨"Bundle", "csharp", "none.j2"⟩
  have hrender : options.render shortTemplates oneSnapshot = .ok "" := by decide +kernel
  obtain ⟨hsave, -⟩ := hall options shortTemplates oneSnapshot "" (.ofString "out.md") default hrender
  have hstaged : ¬ oneSnapshot.isEmpty := by decide
  exact hstaged (hsave.mp (save_of_empty hrender _))

end DocumentOptions

end RedactedBundle
