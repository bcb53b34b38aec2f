import RedactedBundle.Proofs.Redaction.EditScript

/-!
# What a redaction reveals

A redaction is determined by the text outside the outermost hidden regions and by the indentation
of the closing braces of collapsed classes. So two sources that agree in these look the same when
they are redacted, whatever stands in the hidden regions and however long it is.

## Main definitions

- `Decl.Alike`, `AllAlike`: same shape and names from the top down to collapsed classes
- `Source.visibleTexts`: the text outside the outermost hidden regions
- `Source.collapsedIndents`: the indentations of the closing braces of collapsed classes

## Main statements

- `AllAlike.map_isClass_outermost`: alike declarations have outermost hidden regions of the same
  sorts
- `redact?_eq_of_alike`: alike sources with the same visible text have the same redaction
-/

namespace RedactedBundle

mutual

/-- Two declarations are of the same shape, have the same names, and have bodies in the same places,
as far as can be seen without looking into a hidden class. -/
def Decl.Alike (hidden : Hidden) : Decl → Decl → Prop
  | .bareClass name _ _, .bareClass name' _ _ => name = name'
  | .fullClass name _ _ _ members, .fullClass name' _ _ _ members' =>
    name = name' ∧ (name ∉ hidden.classes → AllAlike hidden members members')
  | .method m, .method m' => m.name = m'.name ∧ m.body.isSome = m'.body.isSome
  | _, _ => False

/-- The declarations of two lists are alike, one by one. -/
def AllAlike (hidden : Hidden) : List Decl → List Decl → Prop
  | [], [] => True
  | decl :: rest, decl' :: rest' => decl.Alike hidden decl' ∧ AllAlike hidden rest rest'
  | _, _ => False

end

/-- The region is the inside of a class, not the body of a method. -/
def Region.isClass : Region → Bool
  | classInside .. => true
  | methodBody .. => false

/-- The indentations of the closing braces of the classes among some regions. -/
def classIndents (text : List Char) (regions : List Region) : List (List Char) :=
  (regions.filter Region.isClass).map fun region => Text.indentAt text region.span.stop

/-- The indentations of the closing braces of collapsed classes, in order. -/
def Source.collapsedIndents (hidden : Hidden) (source : Source) : List (List Char) :=
  classIndents source.text.toList (source.hiddenRegions hidden)

/-- The stretches of text outside the outermost hidden regions, in order. -/
def Source.visibleTexts (hidden : Hidden) (source : Source) : List (Option (List Char)) :=
  (Text.gaps 0 (Text.byteLength source.text.toList)
    ((source.hiddenRegions hidden).map Region.span)).map (Text.slice? source.text.toList)

variable {hidden : Hidden}

/-- If alike declarations have outermost hidden regions of the same sorts one by one, so they have
as lists. -/
theorem map_isClass_regionsOf {around around' : List Region} {decls : List Decl}
    (hsorts : ∀ decl ∈ decls, ∀ decl', decl.Alike hidden decl' →
      (outermost hidden (decl.regions around)).map Region.isClass =
        (outermost hidden (decl'.regions around')).map Region.isClass)
    {decls' : List Decl} (h : AllAlike hidden decls decls') :
    (outermost hidden (regionsOf around decls)).map Region.isClass =
      (outermost hidden (regionsOf around' decls')).map Region.isClass := by
  induction decls generalizing decls' with
  | nil =>
    cases decls' with
    | nil => rfl
    | cons decl' rest' => exact absurd h id
  | cons decl rest ih =>
    cases decls' with
    | nil => exact absurd h id
    | cons decl' rest' =>
      obtain ⟨hdecl, hrest⟩ := h
      have hhead := hsorts decl List.mem_cons_self decl' hdecl
      have htail := ih (fun other hmem => hsorts other (List.mem_cons_of_mem _ hmem)) hrest
      simp only [regionsOf, outermost_append, List.map_append, hhead, htail]

/-- Alike declarations have outermost hidden regions of the same sorts. -/
theorem Decl.Alike.map_isClass_outermost {decl decl' : Decl} (h : decl.Alike hidden decl')
    {around around' : List Region} (haround : ∀ outer ∈ around, ¬ outer.IsHidden hidden)
    (haround' : ∀ outer ∈ around', ¬ outer.IsHidden hidden) :
    (outermost hidden (decl.regions around)).map Region.isClass =
      (outermost hidden (decl'.regions around')).map Region.isClass := by
  induction decl generalizing decl' around around' with
  | bareClass name kind span =>
    cases decl' with
    | bareClass => rfl
    | fullClass => exact absurd h id
    | method => exact absurd h id
  | fullClass name kind span inner members ih =>
    cases decl' with
    | bareClass => exact absurd h id
    | method => exact absurd h id
    | fullClass name' kind' span' inner' members' =>
      obtain ⟨rfl, hmembers⟩ := h
      rw [outermost_regions_fullClass _ _ _ _ _ haround,
        outermost_regions_fullClass _ _ _ _ _ haround']
      by_cases hname : name ∈ hidden.classes
      · -- Nothing is known of the members here, and nothing is asked of them.
        rw [if_pos hname, if_pos hname]
        rfl
      · rw [if_neg hname, if_neg hname]
        refine map_isClass_regionsOf (fun member hmember member' halike => ?_) (hmembers hname)
        exact ih member hmember halike (not_isHidden_classInside_cons _ hname haround)
          (not_isHidden_classInside_cons _ hname haround')
  | method m =>
    cases decl' with
    | bareClass => exact absurd h id
    | fullClass => exact absurd h id
    | method m' =>
      obtain ⟨hname, hbody⟩ := h
      rw [outermost_regions_method m haround, outermost_regions_method m' haround', hname]
      cases hm : m.body with
      | none =>
        rw [hm] at hbody
        rw [Option.isNone_iff_eq_none.mp (Option.isSome_eq_false_iff.mp hbody.symm)]
      | some body =>
        rw [hm] at hbody
        obtain ⟨body', hm'⟩ := Option.isSome_iff_exists.mp hbody.symm
        rw [hm']
        by_cases hhidden : m'.name ∈ hidden.methods
        · simp [hhidden, Region.isClass]
        · simp [hhidden]

theorem AllAlike.map_isClass_outermost {decls decls' : List Decl}
    (h : AllAlike hidden decls decls') :
    (outermost hidden (regionsOf [] decls)).map Region.isClass =
      (outermost hidden (regionsOf [] decls')).map Region.isClass := by
  refine map_isClass_regionsOf (fun decl _ decl' halike => ?_) h
  exact halike.map_isClass_outermost (List.forall_mem_nil _) (List.forall_mem_nil _)

/-- Regions of the same sorts whose classes have the same indentations have the same comments. -/
theorem map_comment_eq {text text' : List Char} {regions regions' : List Region}
    (hsorts : regions.map Region.isClass = regions'.map Region.isClass)
    (hindents : classIndents text regions = classIndents text' regions')
    (placeholders : Placeholders) :
    regions.map (Region.comment placeholders text) =
      regions'.map (Region.comment placeholders text') := by
  induction regions generalizing regions' with
  | nil =>
    cases regions' with
    | nil => rfl
    | cons => simp at hsorts
  | cons region rest ih =>
    cases regions' with
    | nil => simp at hsorts
    | cons region' rest' =>
      obtain ⟨hsort, hrest⟩ := List.cons.inj hsorts
      cases region with
      | classInside name span =>
        cases region' with
        | methodBody => simp [Region.isClass] at hsort
        | classInside name' span' =>
          obtain ⟨hindent, hindents⟩ := List.cons.inj hindents
          have hhead : Region.comment placeholders text (.classInside name span) =
              Region.comment placeholders text' (.classInside name' span') :=
            congrArg placeholders.inClass hindent
          rw [List.map_cons, List.map_cons, hhead, ih hrest hindents]
      | methodBody name span =>
        cases region' with
        | classInside => simp [Region.isClass] at hsort
        | methodBody name' span' =>
          rw [List.map_cons, List.map_cons, ih hrest hindents]
          rfl

/-- The redaction of a well-formed source is woven from its visible text and the comments. -/
theorem Source.WellFormed.exists_woven {source : Source} (h : source.WellFormed)
    (placeholders : Placeholders) (hidden : Hidden) :
    ∃ kept, source.visibleTexts hidden = kept.map some ∧
      source.redact? placeholders hidden = some (String.ofList (Text.weave kept
        ((source.hiddenRegions hidden).map (Region.comment placeholders source.text.toList)))) := by
  obtain ⟨out, hout, hedited⟩ := h.exists_edited placeholders hidden
  obtain ⟨kept, hkept, rfl⟩ := hedited.exists_kept [] rfl
  have hspans : (source.edits placeholders hidden).map Text.Edit.span =
      (source.hiddenRegions hidden).map Region.span := by
    rw [Source.edits, List.map_map]
    rfl
  have hnew : (source.edits placeholders hidden).map Text.Edit.text =
      (source.hiddenRegions hidden).map (Region.comment placeholders source.text.toList) := by
    rw [Source.edits, List.map_map]
    rfl
  rw [hspans, Nat.zero_add, List.nil_append] at hkept
  rw [hnew] at hout
  exact ⟨kept, hkept, hout⟩

/-- Two well-formed sources that are alike, with the same text outside the outermost hidden regions
and the same indentations of the closing braces of collapsed classes, have the same redaction. -/
theorem redact?_eq_of_alike {a b : Source} (ha : a.WellFormed) (hb : b.WellFormed)
    (halike : AllAlike hidden a.decls b.decls)
    (hvisible : a.visibleTexts hidden = b.visibleTexts hidden)
    (hindents : a.collapsedIndents hidden = b.collapsedIndents hidden)
    (placeholders : Placeholders) :
    ∃ out, a.redact? placeholders hidden = some out ∧
      b.redact? placeholders hidden = some out := by
  obtain ⟨kept, hkept, houta⟩ := ha.exists_woven placeholders hidden
  obtain ⟨kept', hkept', houtb⟩ := hb.exists_woven placeholders hidden
  have hkepts : kept = kept' := by
    have hsome : kept.map some = kept'.map some := by rw [← hkept, hvisible, hkept']
    exact List.map_inj_right (fun _ _ => Option.some.inj) |>.mp hsome
  have hcomments : (a.hiddenRegions hidden).map (Region.comment placeholders a.text.toList) =
      (b.hiddenRegions hidden).map (Region.comment placeholders b.text.toList) :=
    map_comment_eq halike.map_isClass_outermost hindents placeholders
  refine ⟨_, houta, ?_⟩
  rw [houtb, hcomments, hkepts]

/-- The sample with other code of other length in the hidden regions. -/
def nestedSampleElsewise : Source :=
  ⟨"class Ä\x7b\n\tclass B\x7b\n\t\x7d\n\tint G()=>2+2;void F()\x7bx\x7d\x7d;",
    [.fullClass "Ä" .plain ⟨0, 50⟩ ⟨9, 48⟩
      [.fullClass "B" .plain ⟨11, 22⟩ ⟨19, 21⟩ [],
        .method ⟨"G", "int", ⟨24, 37⟩, some ⟨⟨31, 37⟩, .expression⟩⟩,
        .method ⟨"F", "void", ⟨37, 48⟩, some ⟨⟨45, 48⟩, .block⟩⟩]]⟩

/-- The inside of a class and the body of a method differ, and the redactions do not. -/
theorem redact?_eq_of_alike_nestedSample :
    nestedSample.WellFormed ∧ nestedSampleElsewise.WellFormed ∧
      AllAlike (.ofLists ["B"] ["G"]) nestedSample.decls nestedSampleElsewise.decls ∧
      ∃ out, nestedSample.redact? .standard (.ofLists ["B"] ["G"]) = some out ∧
        nestedSampleElsewise.redact? .standard (.ofLists ["B"] ["G"]) = some out := by
  have hwell : nestedSample.WellFormed := by decide
  have hwell' : nestedSampleElsewise.WellFormed := by decide
  have halike : AllAlike (.ofLists ["B"] ["G"]) nestedSample.decls nestedSampleElsewise.decls :=
    ⟨⟨rfl, fun _ => ⟨⟨rfl, fun hvisible => absurd (by decide) hvisible⟩, ⟨rfl, rfl⟩, ⟨rfl, rfl⟩,
      trivial⟩⟩, trivial⟩
  exact ⟨hwell, hwell', halike,
    redact?_eq_of_alike hwell hwell' halike (by decide) (by decide) .standard⟩

end RedactedBundle
