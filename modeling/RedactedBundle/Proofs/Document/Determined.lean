import RedactedBundle.Proofs.Document.Layout

/-!
# What a document tells about its bundle

Names and texts stand in a document as they are, so a text can pass for the end of its own block
and the beginning of another one: two bundles can have one document
(`Bundle.confused_forgedBundle`).
A bundle whose names end where they seem to, and whose texts hold no block boundary, is the only
such bundle with its document (`Bundle.eq_of_render_eq`). The last text may hold anything, as the
number of files says which block is the last.

## Main definitions

- `Text.Unbordered`: a separator that cannot overlap with itself
- `Text.Forges`: a text that holds the boundary between two blocks
- `Bundle.Unambiguous`: a bundle in which no name and no text is taken for more than it is
-/

namespace RedactedBundle

/-! ## Separators -/

namespace Text

/-- No proper end of the separator is its beginning, so two occurrences never overlap. -/
def Unbordered (separator : List Char) : Prop :=
  ∀ k < separator.length, 0 < k → ¬separator.drop k <+: separator

instance (separator : List Char) : Decidable (Unbordered separator) :=
  inferInstanceAs (Decidable (∀ k < separator.length, 0 < k → ¬separator.drop k <+: separator))

namespace Unbordered

variable {separator between xs ys rest rest' : List Char}

/-- Between an occurrence of the separator and a later one lies at least the first one itself. -/
theorem eq_nil_or_exists (hsep : Unbordered separator)
    (h : separator ++ rest = between ++ (separator ++ rest')) :
    between = [] ∨ ∃ tail, between = separator ++ tail := by
  rcases List.append_eq_append_iff.mp h with ⟨tail, hbetween, -⟩ | ⟨border, hsplit, hborder⟩
  · exact .inr ⟨tail, hbetween⟩
  · -- The separator is `between ++ border`, and `border` begins the later occurrence.
    have hdrop : separator.drop between.length = border := by rw [hsplit]; simp
    have hlength : between.length + border.length = separator.length := by rw [hsplit]; simp
    have hprefix : border <+: separator :=
      List.prefix_of_prefix_length_le (hborder ▸ List.prefix_append border rest)
        (List.prefix_append separator rest') (by omega)
    rcases Nat.eq_zero_or_pos between.length with hnil | hpos
    · exact .inl (List.eq_nil_of_length_eq_zero hnil)
    · rcases Nat.eq_zero_or_pos border.length with hnil | hborderpos
      · refine .inr ⟨[], ?_⟩
        rw [List.append_nil, hsplit, List.eq_nil_of_length_eq_zero hnil, List.append_nil]
      · exact absurd (hdrop ▸ hprefix) (hsep between.length (by omega) hpos)

/-- What stands in front of the first separator can be read back. -/
theorem append_inj (hsep : Unbordered separator) (hx : ¬separator <:+: xs)
    (hy : ¬separator <:+: ys) (h : xs ++ (separator ++ rest) = ys ++ (separator ++ rest')) :
    xs = ys ∧ rest = rest' := by
  have key {xs ys rest rest' between : List Char} (hy : ¬separator <:+: ys)
      (hys : ys = xs ++ between) (h : separator ++ rest = between ++ (separator ++ rest')) :
      between = [] := by
    rcases hsep.eq_nil_or_exists h with hnil | ⟨tail, hbetween⟩
    · exact hnil
    · refine absurd ⟨xs, tail, ?_⟩ hy
      rw [hys, hbetween, List.append_assoc]
  have hxy : xs = ys := by
    rcases List.append_eq_append_iff.mp h with ⟨between, hys, hrest⟩ | ⟨between, hxs, hrest⟩
    · rw [hys, key hy hys hrest, List.append_nil]
    · rw [hxs, key hx hxs hrest, List.append_nil]
  subst hxy
  exact ⟨rfl, List.append_cancel_left (List.append_cancel_left h)⟩

end Unbordered

/-! ## Boundaries between blocks -/

/-- What ends a name in the heading of its block. -/
def nameEnd : List Char := "`\n".toList

/-- What closes a block. -/
def blockEnd : List Char := "\n```\n---\n".toList

/-- What stands between the text of a block and the name of the next one. -/
def blockBoundary : List Char := blockEnd ++ "## File: `".toList

theorem unbordered_nameEnd : Unbordered nameEnd := by decide

theorem unbordered_blockBoundary : Unbordered blockBoundary := by decide

/-- The text holds a block boundary, a name, and the beginning of a fence below that name. The last
four characters may be those of the fence that closes the text's own block. -/
def Forges (text : List Char) : Prop :=
  ∃ name, ¬nameEnd <:+: name ∧
    blockBoundary ++ (name ++ (nameEnd ++ "```".toList)) <:+: text ++ "\n```".toList

/-- A text without a block boundary, its own closing fence counted to it, forges none. -/
theorem not_forges {text : List Char} (h : ¬blockBoundary <:+: text ++ "\n```".toList) :
    ¬Forges text := fun ⟨_, _, hinfix⟩ => h (((List.prefix_append ..).isInfix).trans hinfix)

variable {name between rest rest' : List Char}

/-- A name without a name end that is followed by a fence cannot reach over the beginning of a
block boundary: the fence there would have to be one of three hyphens. -/
theorem length_lt_of_boundary (hname : ¬nameEnd <:+: name)
    (h : name ++ (nameEnd ++ ("```".toList ++ rest)) = between ++ (blockBoundary ++ rest')) :
    name.length < between.length := by
  refine Nat.lt_of_not_le fun hle => ?_
  obtain ⟨tail, hsplit⟩ : between <+: name :=
    List.prefix_of_prefix_length_le (h.symm ▸ List.prefix_append between _)
      (List.prefix_append name _) hle
  have hfence : "```".toList = ['\x60', '\x60', '\x60'] := by decide
  have hnameEnd : nameEnd = ['\x60', '\n'] := by decide
  have hboundary : blockBoundary =
      '\n' :: '\x60' :: '\x60' :: '\x60' :: '\n' :: '-' :: "--\n## File: `".toList := by decide
  rw [← hsplit, List.append_assoc, List.append_cancel_left_eq, hfence, hnameEnd, hboundary] at h
  rcases tail with _ | ⟨a, _ | ⟨b, _ | ⟨c, _ | ⟨d, _ | ⟨e, tail⟩⟩⟩⟩⟩
  iterate 5 simp at h
  -- The name goes on behind the line end of the boundary's fence, and so holds a name end.
  simp only [List.cons_append, List.cons.injEq] at h
  obtain ⟨rfl, rfl, rfl, rfl, rfl, -⟩ := h
  refine hname ⟨between ++ ['\n', '\x60', '\x60'], tail, ?_⟩
  rw [← hsplit, hnameEnd]
  simp

/-- A text that goes on behind a block boundary, a name and a fence of the same document, up to a
block boundary of its own, holds them. -/
theorem Forges.of_boundary {text : List Char} (hname : ¬nameEnd <:+: name) (hne : between ≠ [])
    (h : blockBoundary ++ (name ++ (nameEnd ++ ("```".toList ++ rest))) =
      between ++ (blockBoundary ++ rest')) :
    Forges (text ++ between) := by
  obtain ⟨tail, rfl⟩ := (unbordered_blockBoundary.eq_nil_or_exists h).resolve_left hne
  rw [List.append_assoc, List.append_cancel_left_eq] at h
  have hlength := length_lt_of_boundary hname h
  have hboundary : blockBoundary = "\n```".toList ++ "\n---\n## File: `".toList := by decide
  -- Both stand at the front of one text, and the name with its fence is not the longer one.
  have hfence : name ++ (nameEnd ++ "```".toList) <+: tail ++ (blockBoundary ++ rest') :=
    ⟨rest, by rw [← h]; simp⟩
  have hclosed : tail ++ "\n```".toList <+: tail ++ (blockBoundary ++ rest') :=
    ⟨"\n---\n## File: `".toList ++ rest', by rw [hboundary]; simp⟩
  have hprefix : name ++ (nameEnd ++ "```".toList) <+: tail ++ "\n```".toList := by
    refine List.prefix_of_prefix_length_le hfence hclosed ?_
    simp [nameEnd]
    omega
  obtain ⟨after, hafter⟩ := hprefix
  refine ⟨name, hname, text, after, ?_⟩
  rw [List.append_assoc, List.append_assoc, hafter]
  simp

end Text

/-! ## Bundles read back from their documents -/

open Text (nameEnd blockEnd blockBoundary Forges)

/-- Every name ends at the first name end behind it, and every text but the last ends at the first
block boundary behind it. -/
structure Bundle.Unambiguous (entries : List Snapshot) : Prop where
  names : ∀ snapshot ∈ entries, ¬nameEnd <:+: snapshot.name.toList
  texts : ∀ snapshot ∈ entries.dropLast, ¬Forges snapshot.text.toList

namespace Snapshot

variable {language : String}

theorem toList_blocks_cons (language : String) (snapshot : Snapshot) (rest : List Snapshot) :
    (blocks language (snapshot :: rest)).toList =
      "## File: `".toList ++ (snapshot.name.toList ++ (nameEnd ++ ("```".toList ++
        ((language ++ "\n").toList ++
          (snapshot.text.toList ++ (blockEnd ++ (blocks language rest).toList)))))) := by
  have hopen : "`\n```".toList = nameEnd ++ "```".toList := by decide
  have hclose : "\n```\n---\n".toList = blockEnd := rfl
  rw [blocks, block]
  simp only [String.toList_append, List.append_assoc]
  rw [hopen, hclose]
  simp only [List.append_assoc]

/-- The text of a block that another block follows ends where it seems to. -/
theorem text_eq_of_append_eq {text text' : List Char} {next next' : Snapshot}
    {more more' : List Snapshot} (hname : ¬nameEnd <:+: next.name.toList)
    (hname' : ¬nameEnd <:+: next'.name.toList) (htext : ¬Forges text) (htext' : ¬Forges text')
    (h : text ++ (blockEnd ++ (blocks language (next :: more)).toList) =
      text' ++ (blockEnd ++ (blocks language (next' :: more')).toList)) :
    text = text' := by
  rw [toList_blocks_cons, toList_blocks_cons, ← List.append_assoc blockEnd,
    ← List.append_assoc blockEnd] at h
  rcases List.append_eq_append_iff.mp h with ⟨between, hsplit, hrest⟩ | ⟨between, hsplit, hrest⟩
  · refine (Decidable.byContradiction fun hne => htext' ?_)
    rw [hsplit]
    exact Forges.of_boundary hname (fun hnil => hne (by rw [hsplit, hnil, List.append_nil])) hrest
  · refine (Decidable.byContradiction fun hne => htext ?_)
    rw [hsplit]
    exact Forges.of_boundary hname' (fun hnil => hne (by rw [hsplit, hnil, List.append_nil])) hrest

/-- As many blocks as are known to be there are read back one after the other. -/
theorem eq_of_blocks_eq {entries : List Snapshot} : ∀ {entries' : List Snapshot},
    entries.length = entries'.length → Bundle.Unambiguous entries → Bundle.Unambiguous entries' →
    blocks language entries = blocks language entries' → entries = entries' := by
  induction entries with
  | nil => intro entries' hlength _ _ _; exact (List.eq_nil_of_length_eq_zero hlength.symm).symm
  | cons snapshot rest ih =>
    rintro (_ | ⟨snapshot', rest'⟩) hlength hentries hentries' h
    · cases hlength
    have hlist := congrArg String.toList h
    rw [toList_blocks_cons, toList_blocks_cons, List.append_cancel_left_eq] at hlist
    obtain ⟨hname, hlist⟩ := Text.unbordered_nameEnd.append_inj
      (hentries.names _ List.mem_cons_self) (hentries'.names _ List.mem_cons_self) hlist
    rw [List.append_cancel_left_eq, List.append_cancel_left_eq] at hlist
    have hsnapshot (htext : snapshot.text.toList = snapshot'.text.toList) :
        snapshot = snapshot' := by
      cases snapshot; cases snapshot'
      rw [Snapshot.mk.injEq]
      exact ⟨String.toList_inj.mp hname, String.toList_inj.mp htext⟩
    match rest, rest', hlength with
    | [], [], _ => rw [hsnapshot (List.append_cancel_right hlist)]
    | next :: more, next' :: more', hlength =>
      have htext := text_eq_of_append_eq (hentries.names next (by simp))
        (hentries'.names next' (by simp)) (hentries.texts snapshot (by simp))
        (hentries'.texts snapshot' (by simp)) hlist
      rw [htext, List.append_cancel_left_eq, List.append_cancel_left_eq] at hlist
      have htail {snapshot : Snapshot} {rest : List Snapshot} (hne : rest ≠ [])
          (h : Bundle.Unambiguous (snapshot :: rest)) : Bundle.Unambiguous rest :=
        ⟨fun other hmem => h.names other (List.mem_cons_of_mem _ hmem), fun other hmem =>
          h.texts other (by
            rw [List.dropLast_cons_of_ne_nil hne]
            exact List.mem_cons_of_mem _ hmem)⟩
      rw [hsnapshot htext, ih (Nat.succ.inj hlength) (htail (by simp) hentries)
        (htail (by simp) hentries') (String.toList_inj.mp hlist)]

end Snapshot

/-- The number of files in front of the blocks can be read back. -/
theorem DocumentOptions.eq_of_layout_eq {options : DocumentOptions} {bundle bundle' : Bundle}
    (h : options.layout bundle = options.layout bundle') :
    bundle.size = bundle'.size ∧ Snapshot.blocks options.language bundle.entries =
      Snapshot.blocks options.language bundle'.entries := by
  have hdigits (n : Nat) : (toString n).toList = Nat.toDigits 10 n := Nat.toList_repr
  have hline (n : Nat) : ¬['\n'] <:+: (toString n).toList := by
    intro hinfix
    have hmem : '\n' ∈ Nat.toDigits 10 n := hdigits n ▸ hinfix.subset (List.mem_singleton_self _)
    exact absurd (Nat.isDigit_of_mem_toDigits (by decide) (by decide) hmem) (by decide)
  have hlist := congrArg String.toList h
  have hbreak : "\n\n".toList = ['\n'] ++ ['\n'] := by decide
  simp only [layout, String.toList_append, List.append_assoc, List.append_cancel_left_eq,
    hbreak] at hlist
  have hunbordered : Text.Unbordered ['\n'] := by decide
  obtain ⟨hsize, hblocks⟩ := hunbordered.append_inj (hline _) (hline _) hlist
  have hvalue := congrArg (Nat.ofDigitChars 10 · 0) hsize
  simp only [hdigits] at hvalue
  rw [Nat.ofDigitChars_toDigits (by decide) (by decide),
    Nat.ofDigitChars_toDigits (by decide) (by decide)] at hvalue
  exact ⟨hvalue, String.toList_inj.mp (List.append_cancel_left hblocks)⟩

namespace Bundle

/-- Only one unambiguous bundle has a document. The bundles may be rendered over different file
systems, which the built-in template does not look at. -/
theorem eq_of_render_eq [TemplateEngine] (hengine : TemplateEngine.RendersPlain)
    {title language : String} {fs fs' : FileSystem} {bundle bundle' : Bundle}
    (hbundle : Unambiguous bundle.entries) (hbundle' : Unambiguous bundle'.entries)
    (h : (DocumentOptions.builtin title language).render fs bundle =
      (DocumentOptions.builtin title language).render fs' bundle') :
    bundle = bundle' := by
  have hentries (h : bundle.entries = bundle'.entries) : bundle = bundle' := by
    cases bundle; cases bundle'; rw [Bundle.mk.injEq]; exact h
  have hlayout (bundle : Bundle) :
      (DocumentOptions.builtin title language).layout bundle ≠ "" := by
    intro hempty
    have hlist := congrArg String.toList hempty
    simp [DocumentOptions.layout] at hlist
  rw [DocumentOptions.render_builtin _ _ hengine, DocumentOptions.render_builtin _ _ hengine,
    Except.ok.injEq] at h
  cases hempty : bundle.isEmpty <;> cases hempty' : bundle'.isEmpty <;>
    simp only [hempty, hempty', if_true, if_false, Bool.false_eq_true] at h
  · obtain ⟨hsize, hblocks⟩ := DocumentOptions.eq_of_layout_eq h
    exact hentries (Snapshot.eq_of_blocks_eq hsize hbundle hbundle' hblocks)
  · exact absurd h (hlayout bundle)
  · exact absurd h.symm (hlayout bundle')
  · exact hentries ((List.isEmpty_iff.mp hempty).trans (List.isEmpty_iff.mp hempty').symm)

/-- The first text holds the lines that stand around blocks, without the heading that would make
them a boundary; the last one holds a whole block. The first file is staged twice. -/
def fencedBundle : Bundle :=
  ofList [⟨"A.cs", "old"⟩, ⟨"B.cs", "y\n```\n---\n## File: `C.cs`\n```csharp\nz"⟩,
    ⟨"A.cs", "```\n---\n## File: `B.cs`\n```\n---\n"⟩]

/-- The same snapshots, each staged once. -/
def fencedBundleInOrder : Bundle :=
  ofList [⟨"A.cs", "```\n---\n## File: `B.cs`\n```\n---\n"⟩,
    ⟨"B.cs", "y\n```\n---\n## File: `C.cs`\n```csharp\nz"⟩]

theorem unambiguous_fencedBundleInOrder : Unambiguous fencedBundleInOrder.entries where
  names := by decide +kernel
  texts := by
    intro snapshot hmem
    have htexts : fencedBundleInOrder.entries.dropLast =
        [⟨"A.cs", "```\n---\n## File: `B.cs`\n```\n---\n"⟩] := by decide +kernel
    rw [htexts, List.mem_singleton] at hmem
    rw [hmem]
    exact Text.not_forges (by decide +kernel)

theorem eq_of_render_eq_fencedBundle :
    (DocumentOptions.builtin "" "").render (.emptyAt []) fencedBundle =
      (DocumentOptions.builtin "" "").render (.emptyAt []) fencedBundleInOrder ∧
    fencedBundle = fencedBundleInOrder := by
  have hentries : fencedBundle.entries = fencedBundleInOrder.entries := by decide +kernel
  have hsame : fencedBundle.isEmpty = fencedBundleInOrder.isEmpty ∧
      (DocumentOptions.builtin "" "").layout fencedBundle =
        (DocumentOptions.builtin "" "").layout fencedBundleInOrder := by
    decide +kernel
  have hrender : (DocumentOptions.builtin "" "").render (.emptyAt []) fencedBundle =
      (DocumentOptions.builtin "" "").render (.emptyAt []) fencedBundleInOrder := by
    rw [DocumentOptions.render_builtin _ _ Template.Body.rendersPlain,
      DocumentOptions.render_builtin _ _ Template.Body.rendersPlain, hsame.1, hsame.2]
  exact ⟨hrender, eq_of_render_eq Template.Body.rendersPlain
    (hentries ▸ unambiguous_fencedBundleInOrder) unambiguous_fencedBundleInOrder hrender⟩

/-! ## Ambiguous documents -/

/-- The second text holds a block of its own. -/
def forgedBundle : Bundle :=
  ofList [⟨"A.cs", "x"⟩, ⟨"B.cs", "y\n```\n---\n## File: `B.cs`\n```csharp\nz"⟩]

/-- The blocks of `forgedBundle`, with the middle one counted to the first text. -/
def shiftedBundle : Bundle :=
  ofList [⟨"A.cs", "x\n```\n---\n## File: `B.cs`\n```csharp\ny"⟩, ⟨"B.cs", "z"⟩]

/-- The text holds a name end and a fence. -/
def fenceInTextBundle : Bundle := ofList [⟨"A.cs", "x`\n```csharp\ny"⟩]

/-- The block of `fenceInTextBundle`, with the fence in the text counted as the one that opens
it. -/
def fenceInNameBundle : Bundle := ofList [⟨"A.cs`\n```csharp\nx", "y"⟩]

/-- Two bundles that differ, with one document that is not empty. -/
def Confused (options : DocumentOptions) (bundle bundle' : Bundle) : Prop :=
  bundle.isEmpty = false ∧ bundle'.isEmpty = false ∧
    options.render (.emptyAt []) bundle = options.render (.emptyAt []) bundle' ∧ bundle ≠ bundle'

theorem confused_of_layout_eq {title language : String} {bundle bundle' : Bundle}
    (hempty : bundle.isEmpty = false) (hempty' : bundle'.isEmpty = false)
    (hlayout : (DocumentOptions.builtin title language).layout bundle =
      (DocumentOptions.builtin title language).layout bundle')
    (hentries : bundle.entries ≠ bundle'.entries) :
    Confused (.builtin title language) bundle bundle' := by
  refine ⟨hempty, hempty', ?_, fun heq => hentries (congrArg entries heq)⟩
  rw [DocumentOptions.render_builtin _ _ Template.Body.rendersPlain,
    DocumentOptions.render_builtin _ _ Template.Body.rendersPlain, hempty, hempty', hlayout]

/-- Names and texts stand in a document as they are. So there are two bundles of the same names
with one document, and two of one file each. -/
theorem confused_forgedBundle :
    Confused (.builtin "Project bundle for AI" "csharp") forgedBundle shiftedBundle ∧
    Confused (.builtin "Project bundle for AI" "csharp") fenceInTextBundle fenceInNameBundle :=
  ⟨confused_of_layout_eq rfl rfl (by decide +kernel) (by decide +kernel),
    confused_of_layout_eq rfl rfl (by decide +kernel) (by decide +kernel)⟩

end Bundle

end RedactedBundle
