import RedactedBundle.Proofs.Source.WellFormed
import RedactedBundle.Proofs.Text.Edited
import RedactedBundle.Redaction

/-!
# Regions that can be hidden

The inside of each class with a body and the body of each method is a region that hiding a name
can make disappear. Regions nest as the declarations do. Of the regions that are hidden, those
inside another hidden class go with that class; each of the others gives way to one comment.

## Main definitions

- `Region`, `NestedRegion`: a region, with the insides of classes around it
- `Source.regions`: all regions of a source, in preorder
- `Source.hiddenRegions`: the outermost hidden regions
- `Region.comment`, `Source.edits`: what stands in their place

## Main statements

- `Source.WellFormed.within_around`: a region lies inside all regions around it
- `Source.WellFormed.regions_pairwise`: two regions nest, or one lies wholly before the other
-/

namespace RedactedBundle

/-- A stretch of a source that disappears when a name is hidden. -/
inductive Region where
  /-- What stands between the braces of a class. -/
  | classInside (name : String) (span : Span)
  | methodBody (name : String) (span : Span)
  deriving Repr, DecidableEq

namespace Region

def span : Region → Span
  | classInside _ span => span
  | methodBody _ span => span

/-- The name of the region is among the hidden names of its sort. -/
def IsHidden (hidden : Hidden) : Region → Prop
  | classInside name _ => name ∈ hidden.classes
  | methodBody name _ => name ∈ hidden.methods

instance (hidden : Hidden) : DecidablePred (IsHidden hidden)
  | classInside name _ => inferInstanceAs (Decidable (name ∈ hidden.classes))
  | methodBody name _ => inferInstanceAs (Decidable (name ∈ hidden.methods))

theorem not_isHidden_empty (region : Region) : ¬ region.IsHidden Hidden.empty := by
  cases region <;> simp [IsHidden, Hidden.empty]

end Region

/-- A region with the insides of the classes around it, from the innermost outwards. -/
structure NestedRegion where
  region : Region
  around : List Region
  deriving Repr, DecidableEq

/-- The region is hidden, and not inside a class that is hidden itself. -/
def NestedRegion.IsOutermost (hidden : Hidden) (r : NestedRegion) : Prop :=
  r.region.IsHidden hidden ∧ ∀ outer ∈ r.around, ¬ outer.IsHidden hidden

instance (hidden : Hidden) : DecidablePred (NestedRegion.IsOutermost hidden) := fun r =>
  inferInstanceAs (Decidable (r.region.IsHidden hidden ∧ ∀ outer ∈ r.around, ¬ outer.IsHidden hidden))

mutual

/-- The regions of a declaration that stands inside some classes: its own one first, and behind it
those of its members. -/
def Decl.regions (around : List Region) : Decl → List NestedRegion
  | .bareClass .. => []
  | .fullClass name _ _ inner members =>
    ⟨.classInside name inner, around⟩ :: regionsOf (.classInside name inner :: around) members
  | .method m =>
    match m.body with
    | some body => [⟨.methodBody m.name body.span, around⟩]
    | none => []

/-- The regions of some declarations, one after the other. -/
def regionsOf (around : List Region) : List Decl → List NestedRegion
  | [] => []
  | decl :: rest => decl.regions around ++ regionsOf around rest

end

/-- The regions of a source, whatever is hidden. -/
def Source.regions (source : Source) : List NestedRegion := regionsOf [] source.decls

/-- The outermost hidden ones among some regions. -/
def outermost (hidden : Hidden) (regions : List NestedRegion) : List Region :=
  (regions.filter (NestedRegion.IsOutermost hidden)).map NestedRegion.region

/-- The outermost hidden regions of a source, in the order of the text. -/
def Source.hiddenRegions (hidden : Hidden) (source : Source) : List Region :=
  outermost hidden source.regions

/-- The blanks that the line of a position starts with, if only blanks stand before it. -/
def Text.indentAt (text : List Char) (position : Nat) : List Char :=
  ((Text.takeBytes? text position).map Text.lineIndent).getD []

/-- What stands between the braces of a collapsed class whose closing brace has an indentation. -/
def Placeholders.inClass (placeholders : Placeholders) (indent : List Char) : List Char :=
  "\n".toList ++ indent ++ "    /* ".toList ++ placeholders.classComment.toList ++
    " */\n".toList ++ indent

/-- What stands in place of the body of a hidden method. -/
def Placeholders.inMethod (placeholders : Placeholders) : List Char :=
  "\x7b /* ".toList ++ placeholders.methodComment.toList ++ " */ \x7d".toList

/-- What stands in place of a hidden region of a text. -/
def Region.comment (placeholders : Placeholders) (text : List Char) : Region → List Char
  | classInside _ span => placeholders.inClass (Text.indentAt text span.stop)
  | methodBody _ _ => placeholders.inMethod

/-- The replacement of a region by its comment. -/
def Region.edit (placeholders : Placeholders) (text : List Char) (region : Region) : Text.Edit :=
  ⟨region.span, region.comment placeholders text⟩

/-- The replacements of the outermost hidden regions. -/
def Source.edits (placeholders : Placeholders) (hidden : Hidden) (source : Source) :
    List Text.Edit :=
  (source.hiddenRegions hidden).map (Region.edit placeholders source.text.toList)

variable {hidden : Hidden} {around : List Region} {text : List Char}

@[simp] theorem outermost_nil : outermost hidden [] = [] := rfl

@[simp] theorem outermost_append (xs ys : List NestedRegion) :
    outermost hidden (xs ++ ys) = outermost hidden xs ++ outermost hidden ys := by
  simp [outermost]

theorem regionsOf_eq_flatMap (decls : List Decl) :
    regionsOf around decls = decls.flatMap (Decl.regions around) := by
  induction decls with
  | nil => rfl
  | cons decl rest ih => rw [regionsOf, List.flatMap_cons, ih]

theorem mem_regionsOf {r : NestedRegion} {decls : List Decl} :
    r ∈ regionsOf around decls ↔ ∃ decl ∈ decls, r ∈ decl.regions around := by
  rw [regionsOf_eq_flatMap, List.mem_flatMap]

/-- What is around a declaration is around each of its regions. -/
theorem around_subset_of_mem_regions {decl : Decl} {r : NestedRegion}
    (h : r ∈ decl.regions around) : around ⊆ r.around := by
  induction decl generalizing around with
  | bareClass => simp [Decl.regions] at h
  | fullClass name kind span inner members ih =>
    rw [Decl.regions, List.mem_cons] at h
    rcases h with rfl | h
    · exact fun _ hmem => hmem
    · obtain ⟨member, hmember, hr⟩ := mem_regionsOf.mp h
      exact fun outer hmem => ih member hmember hr (List.mem_cons_of_mem _ hmem)
  | method m =>
    rw [Decl.regions] at h
    split at h
    · rw [List.mem_singleton] at h
      rw [h]
      exact fun _ hmem => hmem
    · simp at h

/-- Inside a hidden class no region is outermost. -/
theorem outermost_regionsOf_eq_nil (decls : List Decl) {outer : Region} (hmem : outer ∈ around)
    (hhidden : outer.IsHidden hidden) : outermost hidden (regionsOf around decls) = [] := by
  rw [outermost, List.map_eq_nil_iff, List.filter_eq_nil_iff]
  intro r hr
  obtain ⟨decl, _, hr⟩ := mem_regionsOf.mp hr
  have hround := around_subset_of_mem_regions hr hmem
  simp only [decide_eq_true_eq]
  exact fun houtermost => houtermost.2 outer hround hhidden

/-- A class that is not hidden adds nothing hidden to what is around its members. -/
theorem not_isHidden_classInside_cons {name : String} (inner : Span)
    (hname : name ∉ hidden.classes) (haround : ∀ outer ∈ around, ¬ outer.IsHidden hidden) :
    ∀ outer ∈ Region.classInside name inner :: around, ¬ outer.IsHidden hidden := by
  intro outer hmem
  rcases List.mem_cons.mp hmem with rfl | hmem
  · exact hname
  · exact haround outer hmem

/-- With nothing hidden around it, a class is the only outermost hidden region of its own if it is
hidden, and has those of its members otherwise. -/
theorem outermost_regions_fullClass (name : String) (kind : ClassKind) (span inner : Span)
    (members : List Decl) (haround : ∀ outer ∈ around, ¬ outer.IsHidden hidden) :
    outermost hidden ((Decl.fullClass name kind span inner members).regions around) =
      if name ∈ hidden.classes then [.classInside name inner]
      else outermost hidden (regionsOf (.classInside name inner :: around) members) := by
  rw [Decl.regions]
  by_cases hname : name ∈ hidden.classes
  · -- The class is around all regions of its members, so none of these is outermost.
    have hhidden : (Region.classInside name inner).IsHidden hidden := hname
    have houtermost : NestedRegion.IsOutermost hidden ⟨.classInside name inner, around⟩ :=
      ⟨hhidden, haround⟩
    have hmembers : outermost hidden (regionsOf (.classInside name inner :: around) members) = [] :=
      outermost_regionsOf_eq_nil members List.mem_cons_self hhidden
    rw [if_pos hname, ← List.singleton_append, outermost_append, hmembers]
    simp [outermost, houtermost]
  · have houtermost : ¬ NestedRegion.IsOutermost hidden ⟨.classInside name inner, around⟩ :=
      fun houtermost => hname houtermost.1
    rw [if_neg hname]
    simp [outermost, houtermost]

/-- With nothing hidden around it, the body of a method is outermost if the method is hidden. -/
theorem outermost_regions_method (m : Method)
    (haround : ∀ outer ∈ around, ¬ outer.IsHidden hidden) :
    outermost hidden ((Decl.method m).regions around) =
      match m.body with
      | some body => if m.name ∈ hidden.methods then [.methodBody m.name body.span] else []
      | none => [] := by
  rw [Decl.regions]
  cases m.body with
  | none => rfl
  | some body =>
    by_cases hname : m.name ∈ hidden.methods
    · have houtermost : NestedRegion.IsOutermost hidden ⟨.methodBody m.name body.span, around⟩ :=
        ⟨hname, haround⟩
      simp [outermost, houtermost, hname]
    · have houtermost : ¬ NestedRegion.IsOutermost hidden ⟨.methodBody m.name body.span, around⟩ :=
        fun houtermost => hname houtermost.1
      simp [outermost, houtermost, hname]

/-- A region of a well-formed declaration lies inside it, and inside all that is around the region
but not around the declaration. -/
theorem Decl.WellFormed.region_within {decl : Decl} (hdecl : decl.WellFormed text)
    {r : NestedRegion} (h : r ∈ decl.regions around) :
    r.region.span.Within decl.span ∧
      ∀ outer ∈ r.around, outer ∈ around ∨ r.region.span.Within outer.span := by
  induction decl generalizing around with
  | bareClass => simp [Decl.regions] at h
  | fullClass name kind span inner members ih =>
    obtain ⟨_, _, hinner, horder, hmembers⟩ := hdecl
    rw [Decl.regions, List.mem_cons] at h
    rcases h with rfl | h
    · exact ⟨hinner, fun outer hmem => .inl hmem⟩
    · -- What is around a region of a member is around the member, or the class itself, or further in.
      obtain ⟨member, hmember, hr⟩ := mem_regionsOf.mp h
      obtain ⟨hin, haround⟩ := ih member hmember (allWellFormed_iff.mp hmembers member hmember) hr
      have hrange := horder.within_range member.span (List.mem_map_of_mem hmember)
      have hinside : r.region.span.Within inner := hin.trans hrange
      refine ⟨hinside.trans hinner, fun outer hmem => ?_⟩
      rcases haround outer hmem with hmem | hwithin
      · rcases List.mem_cons.mp hmem with rfl | hmem
        · exact .inr hinside
        · exact .inl hmem
      · exact .inr hwithin
  | method m =>
    rw [Decl.regions] at h
    split at h
    · next body hbody =>
      rw [List.mem_singleton] at h
      rw [h]
      exact ⟨(hdecl.2 body hbody).2, fun outer hmem => .inl hmem⟩
    · simp at h

/-- The relation of two regions in preorder: the first is around the second, or it ends before the
second begins. -/
def NestedRegion.AroundOrBefore (first second : NestedRegion) : Prop :=
  first.region ∈ second.around ∨ first.region.span.Before second.region.span

theorem regionsOf_pairwise {decls : List Decl} {range : Span}
    (hdecls : ∀ decl ∈ decls, decl.WellFormed text)
    (horder : Span.InOrder range (decls.map Decl.span))
    (hpair : ∀ decl ∈ decls, (decl.regions around).Pairwise NestedRegion.AroundOrBefore) :
    (regionsOf around decls).Pairwise NestedRegion.AroundOrBefore := by
  rw [regionsOf_eq_flatMap, List.pairwise_flatMap]
  refine ⟨hpair, ?_⟩
  have hbefore := List.pairwise_map.mp horder.pairwise_before
  refine hbefore.imp_of_mem fun {first second} hfirst hsecond hle r hr s hs => ?_
  -- Regions of different declarations lie as far apart as the declarations do.
  have hr := ((hdecls first hfirst).region_within hr).1
  have hs := ((hdecls second hsecond).region_within hs).1
  exact .inr (Nat.le_trans hr.stop_le (Nat.le_trans hle hs.start_le))

theorem Decl.WellFormed.regions_pairwise {decl : Decl} (h : decl.WellFormed text) :
    (decl.regions around).Pairwise NestedRegion.AroundOrBefore := by
  induction decl generalizing around with
  | bareClass => simp [Decl.regions]
  | fullClass name kind span inner members ih =>
    obtain ⟨_, _, _, horder, hmembers⟩ := h
    have hmembers := allWellFormed_iff.mp hmembers
    rw [Decl.regions, List.pairwise_cons]
    constructor
    · intro r hr
      obtain ⟨member, _, hr⟩ := mem_regionsOf.mp hr
      exact .inl (around_subset_of_mem_regions hr List.mem_cons_self)
    · exact regionsOf_pairwise hmembers horder fun member hmember =>
        ih member hmember (hmembers member hmember)
  | method m =>
    rw [Decl.regions]
    split <;> simp

namespace Source.WellFormed

variable {source : Source}

/-- A region lies inside all regions around it. -/
theorem within_around (h : source.WellFormed) {r : NestedRegion} (hr : r ∈ source.regions)
    {outer : Region} (houter : outer ∈ r.around) : r.region.span.Within outer.span := by
  obtain ⟨decl, hdecl, hr⟩ := mem_regionsOf.mp hr
  rcases ((allWellFormed_iff.mp h.decls decl hdecl).region_within hr).2 outer houter with hmem | hin
  · simp at hmem
  · exact hin

/-- Of two regions one is around the other, or the first ends before the second begins. -/
theorem regions_pairwise (h : source.WellFormed) :
    source.regions.Pairwise NestedRegion.AroundOrBefore := by
  have hdecls := allWellFormed_iff.mp h.decls
  exact regionsOf_pairwise hdecls h.inOrder fun decl hdecl => (hdecls decl hdecl).regions_pairwise

end Source.WellFormed

end RedactedBundle
