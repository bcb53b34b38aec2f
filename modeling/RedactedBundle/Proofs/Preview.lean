import Mathlib.Data.List.DropRight
import RedactedBundle.Preview
import RedactedBundle.Proofs.Text.Lines

/-!
# The text of a preview

A preview shows the lines of its text, each with all of its characters, whether its lines are
highlighted or left plain. How a segmenter cuts a line makes no difference: the line feed that is
put behind the line for it ends up at the end of one span, where it is trimmed, and a span that is
dropped is empty. What was highlighted before the segmenter fails is given up with it.

## Main definitions

- `Preview.shownLines`: the lines of a preview as they are read
- `Segmenter.FailsIn`: a segmenter fails somewhere in some lines

## Main statements

- `segmentLines?_eq_none_iff`: when lines cannot be cut
- `Preview.language_ofText_eq_some_iff`: when a preview is highlighted
- `Preview.shownLines_ofText`: a preview shows the lines of its text
-/

namespace RedactedBundle

/-- The lines of a preview as they are read, the texts of the spans of each put together. -/
def Preview.shownLines (preview : Preview) : List (List Char) :=
  preview.highlighted.lines.map StyledLine.text

/-- The segmenter fails at one of some lines, when those in front of it have been read. -/
def Segmenter.FailsIn (segmenter : Segmenter) (language theme : String)
    (lines : List (List Char)) : Prop :=
  ∃ before line rest, lines = before ++ line :: rest ∧
    segmenter language theme before.reverse (line ++ ['\n']) = none

/-- A styled line without the line feeds at the ends of its spans, and without the spans that are
then empty. -/
def StyledLine.withoutEnd (spans : StyledLine) : StyledLine :=
  (spans.map StyledSpan.trimEnd).filter fun span => !span.text.isEmpty

variable {span : StyledSpan} {spans : StyledLine} {line : List Char}
  {segment : (before : List (List Char)) → List Char → Option StyledLine}
  {before lines : List (List Char)} {styled : List StyledLine} {segmenter : Segmenter}
  {language theme : String}

/-! ## One line -/

@[simp] theorem StyledLine.text_nil : StyledLine.text [] = [] := rfl

@[simp] theorem StyledLine.text_cons (span : StyledSpan) (spans : StyledLine) :
    StyledLine.text (span :: spans) = span.text ++ StyledLine.text spans := rfl

theorem rdropWhile_feed_of_not_mem (h : '\n' ∉ line) : line.rdropWhile (· = '\n') = line := by
  rw [List.rdropWhile_eq_self_iff]
  intro hne
  simpa using ne_of_mem_of_not_mem (List.getLast_mem hne) h

theorem StyledSpan.text_trimEnd (span : StyledSpan) :
    span.trimEnd.text = span.text.rdropWhile (· = '\n') := rfl

theorem StyledSpan.text_trimEnd_of_eq_concat (h : span.text = line ++ ['\n'])
    (hfeed : '\n' ∉ line) : span.trimEnd.text = line := by
  rw [text_trimEnd, h, List.rdropWhile_concat_pos _ _ _ (by decide),
    rdropWhile_feed_of_not_mem hfeed]

theorem StyledLine.text_map_trimEnd_eq_nil (h : StyledLine.text spans = []) :
    StyledLine.text (spans.map StyledSpan.trimEnd) = [] := by
  induction spans with
  | nil => rfl
  | cons span rest ih =>
    obtain ⟨hspan, hrest⟩ := List.append_eq_nil_iff.mp h
    rw [List.map_cons, text_cons, StyledSpan.text_trimEnd, hspan, ih hrest, List.rdropWhile_nil]
    rfl

/-- However a line and its line feed are cut, trimming the spans takes off the line feed. -/
theorem StyledLine.text_map_trimEnd (h : StyledLine.text spans = line ++ ['\n'])
    (hfeed : '\n' ∉ line) : StyledLine.text (spans.map StyledSpan.trimEnd) = line := by
  induction spans generalizing line with
  | nil => simp at h
  | cons span rest ih =>
    rw [text_cons] at h
    rw [List.map_cons, text_cons]
    -- The line feed is in this span if only empty ones follow, and behind it otherwise.
    rcases List.eq_nil_or_concat (StyledLine.text rest) with hrest | ⟨others, c, hrest⟩
    · rw [hrest, List.append_nil] at h
      rw [StyledSpan.text_trimEnd_of_eq_concat h hfeed, text_map_trimEnd_eq_nil hrest,
        List.append_nil]
    · rw [List.concat_eq_append] at hrest
      rw [hrest, ← List.append_assoc] at h
      obtain ⟨rfl, hc⟩ := List.append_inj' h rfl
      obtain rfl : c = '\n' := List.head_eq_of_cons_eq hc
      rw [List.mem_append, not_or] at hfeed
      rw [StyledSpan.text_trimEnd, rdropWhile_feed_of_not_mem hfeed.1, ih hrest hfeed.2]

theorem StyledLine.text_filter (spans : StyledLine) :
    StyledLine.text (spans.filter fun span => !span.text.isEmpty) = StyledLine.text spans := by
  induction spans with
  | nil => rfl
  | cons span rest ih =>
    by_cases hspan : span.text = []
    · rw [List.filter_cons_of_neg (by simp [hspan]), ih, text_cons, hspan, List.nil_append]
    · rw [List.filter_cons_of_pos (by simpa using hspan), text_cons, text_cons, ih]

theorem StyledLine.text_withoutEnd (h : StyledLine.text spans = line ++ ['\n'])
    (hfeed : '\n' ∉ line) : spans.withoutEnd.text = line := by
  rw [withoutEnd, text_filter, text_map_trimEnd h hfeed]

/-! ## Line after line -/

theorem segmentLines?_cons_eq_some_iff {rest : List (List Char)} :
    segmentLines? segment before (line :: rest) = some styled ↔
      ∃ spans more, segment before (line ++ ['\n']) = some spans ∧
        segmentLines? segment (line :: before) rest = some more ∧
        styled = StyledLine.withoutEnd spans :: more := by
  rw [segmentLines?, Option.bind_eq_some_iff]
  constructor
  · rintro ⟨spans, hspans, h⟩
    obtain ⟨more, hmore, rfl⟩ := Option.map_eq_some_iff.mp h
    exact ⟨spans, more, hspans, hmore, rfl⟩
  · rintro ⟨spans, more, hspans, hmore, rfl⟩
    exact ⟨spans, hspans, Option.map_eq_some_iff.mpr ⟨more, hmore, rfl⟩⟩

theorem length_of_segmentLines?_eq_some (h : segmentLines? segment before lines = some styled) :
    styled.length = lines.length := by
  induction lines generalizing before styled with
  | nil => cases h; rfl
  | cons line rest ih =>
    obtain ⟨spans, more, -, hmore, rfl⟩ := segmentLines?_cons_eq_some_iff.mp h
    rw [List.length_cons, List.length_cons, ih hmore]

theorem Segmenter.Faithful.map_text (faithful : segmenter.Faithful)
    (hfeed : ∀ line ∈ lines, '\n' ∉ line)
    (h : segmentLines? (segmenter language theme) before lines = some styled) :
    styled.map StyledLine.text = lines := by
  induction lines generalizing before styled with
  | nil => cases h; rfl
  | cons line rest ih =>
    obtain ⟨spans, more, hspans, hmore, rfl⟩ := segmentLines?_cons_eq_some_iff.mp h
    have hline := hfeed line List.mem_cons_self
    have htext := faithful language theme before line spans hline hspans
    have hrest := ih (fun other hmem => hfeed other (List.mem_cons_of_mem _ hmem)) hmore
    rw [List.map_cons, StyledLine.text_withoutEnd htext hline, hrest]

/-- Lines cannot be cut exactly if one of them cannot, with those in front of it read before. -/
theorem segmentLines?_eq_none_iff :
    segmentLines? segment before lines = none ↔
      ∃ front line rest, lines = front ++ line :: rest ∧
        segment (front.reverse ++ before) (line ++ ['\n']) = none := by
  induction lines generalizing before with
  | nil => simp [segmentLines?]
  | cons line rest ih =>
    rw [segmentLines?, Option.bind_eq_none_iff]
    simp only [Option.map_eq_none_iff, ih]
    constructor
    · intro h
      cases hspans : segment before (line ++ ['\n']) with
      | none => exact ⟨[], line, rest, rfl, hspans⟩
      | some spans =>
        obtain ⟨front, other, back, rfl, hother⟩ := h spans hspans
        exact ⟨line :: front, other, back, rfl, by simpa using hother⟩
    · rintro ⟨front, other, back, hlines, hother⟩ spans hspans
      cases front with
      | nil =>
        obtain ⟨rfl, -⟩ := List.cons.inj hlines
        exact absurd (hspans.symm.trans hother) (Option.some_ne_none spans)
      | cons _ front =>
        obtain ⟨rfl, rfl⟩ := List.cons.inj hlines
        exact ⟨front, other, back, rfl, by simpa using hother⟩

theorem Segmenter.failsIn_iff : segmenter.FailsIn language theme lines ↔
    segmentLines? (segmenter language theme) [] lines = none := by
  rw [segmentLines?_eq_none_iff]
  simp only [List.append_nil, FailsIn]

/-! ## All lines -/

/-- Lines are highlighted if there is a language and each of them can be cut, and plain if not. -/
theorem highlight_cases (segmenter : Segmenter) (fileName : String) (lines : List (List Char))
    (theme : String) :
    (∃ language styled, languageOfFile? fileName = some language ∧
        segmentLines? (segmenter language (resolveTheme theme)) [] lines = some styled ∧
        highlight segmenter fileName lines theme =
          ⟨some language, resolveTheme theme, styled⟩) ∨
      ((∀ language, languageOfFile? fileName = some language →
          segmentLines? (segmenter language (resolveTheme theme)) [] lines = none) ∧
        highlight segmenter fileName lines theme = .plain (resolveTheme theme) lines) := by
  rw [highlight]
  split
  · next hlanguage =>
    refine .inr ⟨fun language h => ?_, rfl⟩
    rw [hlanguage] at h
    cases h
  · next language hlanguage =>
    split
    · next styled hstyled => exact .inl ⟨language, styled, hlanguage, hstyled, rfl⟩
    · next hnone =>
      refine .inr ⟨fun other h => ?_, rfl⟩
      obtain rfl : language = other := Option.some.inj (hlanguage.symm.trans h)
      exact hnone

theorem Highlighted.map_text_plain (theme : String) (lines : List (List Char)) :
    (plain theme lines).lines.map StyledLine.text = lines := by
  rw [plain, List.map_map]
  refine (List.map_congr_left fun line _ => ?_).trans (List.map_id lines)
  exact List.append_nil line

/-- However lines without line feeds are highlighted, they are shown as they are. -/
theorem Segmenter.Faithful.map_text_highlight (faithful : segmenter.Faithful) (fileName : String)
    (hfeed : ∀ line ∈ lines, '\n' ∉ line) (theme : String) :
    (highlight segmenter fileName lines theme).lines.map StyledLine.text = lines := by
  rcases highlight_cases segmenter fileName lines theme with
    ⟨language, styled, -, hstyled, h⟩ | ⟨-, h⟩
  · rw [h]
    exact faithful.map_text hfeed hstyled
  · rw [h, Highlighted.map_text_plain]

namespace Preview

/-- A preview has the lines of its text, however they are highlighted. -/
theorem lineCount_ofText (segmenter : Segmenter) (theme fileName text : String)
    (redacted : Bool) : (ofText segmenter theme fileName text redacted).lineCount =
      (Text.lines text.toList).length := by
  rw [lineCount, ofText]
  rcases highlight_cases segmenter fileName (Text.lines text.toList) theme with
    ⟨language, styled, -, hstyled, h⟩ | ⟨-, h⟩
  · rw [h]
    exact length_of_segmentLines?_eq_some hstyled
  · rw [h]
    exact List.length_map _

/-- A preview is highlighted in the language of its file, unless that has none or the segmenter
fails at a line; it is plain then. -/
theorem language_ofText_eq_some_iff (segmenter : Segmenter) (theme fileName text : String)
    (redacted : Bool) (language : String) :
    (ofText segmenter theme fileName text redacted).highlighted.language = some language ↔
      languageOfFile? fileName = some language ∧
        ¬ segmenter.FailsIn language (resolveTheme theme) (Text.lines text.toList) := by
  rw [ofText, Segmenter.failsIn_iff]
  rcases highlight_cases segmenter fileName (Text.lines text.toList) theme with
    ⟨told, styled, htold, hstyled, h⟩ | ⟨hnone, h⟩
  · rw [h, htold]
    constructor
    · rintro ⟨⟩
      exact ⟨rfl, by rw [hstyled]; exact Option.some_ne_none styled⟩
    · exact fun hlanguage => hlanguage.1
  · rw [h]
    constructor
    · rintro ⟨⟩
    · exact fun hlanguage => absurd (hnone language hlanguage.1) hlanguage.2

/-- A preview shows the lines of its text, one for each, in order and with all their characters,
however a faithful segmenter cuts them, whether it fails at one of them, and whatever the file and
the theme are called. So neither the number of lines nor what is read in them depends on how they
are highlighted. -/
theorem shownLines_ofText (faithful : segmenter.Faithful) (theme fileName text : String)
    (redacted : Bool) :
    (ofText segmenter theme fileName text redacted).shownLines = Text.lines text.toList ∧
      Text.LinesOf text.toList (ofText segmenter theme fileName text redacted).shownLines ∧
      (ofText segmenter theme fileName text redacted).lineCount =
        (Text.lines text.toList).length ∧
      (∀ language,
        (ofText segmenter theme fileName text redacted).highlighted.language = some language ↔
          languageOfFile? fileName = some language ∧
            ¬ segmenter.FailsIn language (resolveTheme theme) (Text.lines text.toList)) ∧
      ∀ (other : Segmenter) (theme' fileName' : String) (redacted' : Bool), other.Faithful →
        (ofText other theme' fileName' text redacted').shownLines =
            (ofText segmenter theme fileName text redacted).shownLines ∧
          (ofText other theme' fileName' text redacted').lineCount =
            (ofText segmenter theme fileName text redacted).lineCount := by
  have hlines : Text.LinesOf text.toList (Text.lines text.toList) := Text.linesOf_iff.mpr rfl
  have hfeed : ∀ line ∈ Text.lines text.toList, '\n' ∉ line := fun _ => hlines.feed_not_mem
  have hshown {segmenter : Segmenter} (faithful : segmenter.Faithful) (theme fileName : String)
      (redacted : Bool) :
      (ofText segmenter theme fileName text redacted).shownLines = Text.lines text.toList :=
    faithful.map_text_highlight fileName hfeed theme
  refine ⟨hshown faithful theme fileName redacted, ?_, lineCount_ofText _ _ _ _ _,
    language_ofText_eq_some_iff _ _ _ _ _, ?_⟩
  · rwa [hshown faithful]
  · intro other theme' fileName' redacted' hother
    rw [hshown hother, hshown faithful, lineCount_ofText, lineCount_ofText]
    exact ⟨rfl, rfl⟩

/-- A segmenter that shows the first character of a line in bold, and has an empty span behind it.
With one of the themes it fails at the third line. -/
def boldSegmenter : Segmenter := fun _ theme before line =>
  if theme = "InspiredGitHub" ∧ before.length = 2 then none
  else some [⟨line.take 1, { bold := true }⟩, ⟨[], {}⟩, ⟨line.drop 1, {}⟩]

theorem faithful_boldSegmenter : boldSegmenter.Faithful := by
  intro language theme before line spans _ hspans
  rw [boldSegmenter] at hspans
  split at hspans
  · cases hspans
  · cases hspans
    simp only [StyledLine.text_cons, StyledLine.text_nil, List.nil_append, List.append_nil,
      List.take_append_drop]

theorem faithful_whole : Segmenter.whole.Faithful := by
  intro language theme before line spans _ hspans
  cases hspans
  exact List.append_nil (line ++ ['\n'])

/-- Four lines: one with a carriage return in its end, one that is empty, and a last one that keeps
its carriage return. -/
def bracesText : String := "class A\r\n\x7b\n\n\x7d\r"

/-- They are shown alike in bold and plain, the latter for a failure, for a name without an
extension and with another segmenter. -/
theorem shownLines_ofText_bracesText :
    boldSegmenter.Faithful ∧ Segmenter.whole.Faithful ∧
      (ofText boldSegmenter "base16-ocean.dark" "A.cs" bracesText true).highlighted.language =
        some "C#" ∧
      (ofText boldSegmenter "base16-ocean.dark" "A.cs" bracesText true).shownLines =
        ["class A".toList, "\x7b".toList, [], "\x7d\r".toList] ∧
      (ofText boldSegmenter "InspiredGitHub" "A.cs" bracesText true).highlighted.language = none ∧
      (ofText boldSegmenter "InspiredGitHub" "A.cs" bracesText true).shownLines =
        (ofText boldSegmenter "base16-ocean.dark" "A.cs" bracesText true).shownLines ∧
      (ofText .whole "none" "A" bracesText false).highlighted.language = none ∧
      (ofText .whole "none" "A" bracesText false).lineCount =
        (ofText boldSegmenter "base16-ocean.dark" "A.cs" bracesText true).lineCount := by
  obtain ⟨hshown, -, -, -, hother⟩ :=
    shownLines_ofText faithful_boldSegmenter "base16-ocean.dark" "A.cs" bracesText true
  have hlines : Text.lines bracesText.toList =
      ["class A".toList, "\x7b".toList, [], "\x7d\r".toList] := by decide
  exact ⟨faithful_boldSegmenter, faithful_whole, by decide +kernel, hshown.trans hlines,
    by decide +kernel, (hother boldSegmenter "InspiredGitHub" "A.cs" true faithful_boldSegmenter).1,
    by decide +kernel, (hother .whole "none" "A" false faithful_whole).2⟩

end Preview

end RedactedBundle
