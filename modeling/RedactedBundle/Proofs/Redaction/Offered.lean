import RedactedBundle.Proofs.Redaction.Kept
import RedactedBundle.Source.Outline

/-!
# Names that are worth hiding

What a redaction does is decided by the hidden names of the classes with a body and of the methods
with a body that stand in the source. Each class has a row in the outline, and so has each method in
a class. So of the hidden names only those matter that the outline lists, and those of methods that
stand outside all classes, which an outline leaves out.

## Main definitions

- the names that two sets of hidden names share
- `Hidden.ofRows`: the names in the rows of an outline
- `Source.strayNames`: the names of the methods with a body outside all classes
- `Region.IsListed`: a row has the name of a region

## Main statements

- `Source.pieces_eq_of_isHidden_iff`: a layout is decided by which regions are hidden
- `Source.isListed_or_stray`: the regions that an outline lists
- `Source.redact?_inter_rows`: what of the hidden names matters
-/

namespace RedactedBundle

namespace NameSet

instance : Inter NameSet :=
  ⟨fun set other => ⟨set.names.filter (· ∈ other), set.ascending.filter _⟩⟩

@[simp] theorem mem_inter {name : String} {set other : NameSet} :
    name ∈ set ∩ other ↔ name ∈ set ∧ name ∈ other := by
  rw [mem_def, mem_def]
  exact List.mem_filter.trans (and_congr_right fun _ => decide_eq_true_iff)

end NameSet

namespace OutlineRow

/-- The name of a class, if the row is one of a class. -/
def className? : OutlineRow → Option String
  | .class name _ _ => some name
  | .method .. => none

/-- The name of a method, if the row is one of a method. -/
def methodName? : OutlineRow → Option String
  | .class .. => none
  | .method name _ _ => some name

theorem exists_of_className?_eq_some {row : OutlineRow} {name : String}
    (h : row.className? = some name) : ∃ kind depth, row = .class name kind depth := by
  cases row with
  | «class» name' kind depth =>
    obtain rfl := Option.some.inj h
    exact ⟨kind, depth, rfl⟩
  | method => cases h

theorem exists_of_methodName?_eq_some {row : OutlineRow} {name : String}
    (h : row.methodName? = some name) :
    ∃ returnType owner, row = .method name returnType owner := by
  cases row with
  | «class» => cases h
  | method name' returnType owner =>
    obtain rfl := Option.some.inj h
    exact ⟨returnType, owner, rfl⟩

end OutlineRow

namespace Hidden

instance : Inter Hidden := ⟨fun a b => ⟨a.classes ∩ b.classes, a.methods ∩ b.methods⟩⟩

/-- All names in the rows of an outline, each among those of its sort. -/
def ofRows (rows : List OutlineRow) : Hidden :=
  ofLists (rows.filterMap OutlineRow.className?) (rows.filterMap OutlineRow.methodName?)

variable {rows : List OutlineRow} {name : String}

theorem mem_classes_ofRows :
    name ∈ (ofRows rows).classes ↔ ∃ kind depth, OutlineRow.class name kind depth ∈ rows := by
  rw [ofRows, ofLists, NameSet.mem_ofList, List.mem_filterMap]
  constructor
  · rintro ⟨row, hrow, hname⟩
    obtain ⟨kind, depth, rfl⟩ := OutlineRow.exists_of_className?_eq_some hname
    exact ⟨kind, depth, hrow⟩
  · rintro ⟨kind, depth, hrow⟩
    exact ⟨_, hrow, rfl⟩

theorem mem_methods_ofRows :
    name ∈ (ofRows rows).methods ↔
      ∃ returnType owner, OutlineRow.method name returnType owner ∈ rows := by
  rw [ofRows, ofLists, NameSet.mem_ofList, List.mem_filterMap]
  constructor
  · rintro ⟨row, hrow, hname⟩
    obtain ⟨returnType, owner, rfl⟩ := OutlineRow.exists_of_methodName?_eq_some hname
    exact ⟨returnType, owner, hrow⟩
  · rintro ⟨returnType, owner, hrow⟩
    exact ⟨_, hrow, rfl⟩

end Hidden

variable {a b hidden : Hidden} {around : List Region}

/-! ## Layouts -/

/-- The layout of a range with declarations in it is the same if that of each declaration is. -/
theorem piecesFrom_congr {decls : List Decl}
    (h : ∀ decl ∈ decls, decl.pieces a = decl.pieces b) (stop start : Nat) :
    piecesFrom a stop start decls = piecesFrom b stop start decls := by
  induction decls generalizing start with
  | nil => rfl
  | cons decl rest ih =>
    have hdecl := h decl List.mem_cons_self
    have hrest := ih (fun other hmem => h other (List.mem_cons_of_mem _ hmem)) decl.span.stop
    rw [piecesFrom, piecesFrom, hdecl, hrest]

/-- The layout of a declaration is decided by which of its regions are hidden. -/
theorem Decl.pieces_eq_of_isHidden_iff {decl : Decl}
    (h : ∀ r ∈ decl.regions around, r.region.IsHidden a ↔ r.region.IsHidden b) :
    decl.pieces a = decl.pieces b := by
  induction decl generalizing around with
  | bareClass => rfl
  | fullClass name kind span inner members ih =>
    rw [Decl.regions] at h
    have hself : name ∈ a.classes ↔ name ∈ b.classes := h _ List.mem_cons_self
    have hmembers : ∀ member ∈ members, member.pieces a = member.pieces b := by
      intro member hmember
      have hmember' : ∀ r ∈ member.regions (.classInside name inner :: around),
          r.region.IsHidden a ↔ r.region.IsHidden b := fun r hr =>
        h r (List.mem_cons_of_mem _ (mem_regionsOf.mpr ⟨member, hmember, hr⟩))
      exact ih member hmember hmember'
    rw [Decl.pieces, Decl.pieces, piecesFrom_congr hmembers]
    exact if_congr hself rfl rfl
  | method m =>
    rw [Decl.regions] at h
    rw [Decl.pieces, Decl.pieces]
    cases hbody : m.body with
    | none => rfl
    | some body =>
      rw [hbody] at h
      have hself : m.name ∈ a.methods ↔ m.name ∈ b.methods := h _ List.mem_cons_self
      exact if_congr hself rfl rfl

/-- So is that of a source, and with it the text that is shown. -/
theorem Source.pieces_eq_of_isHidden_iff {source : Source}
    (h : ∀ r ∈ source.regions, r.region.IsHidden a ↔ r.region.IsHidden b) :
    source.pieces a = source.pieces b := by
  refine piecesFrom_congr (fun decl hdecl => ?_) _ _
  exact decl.pieces_eq_of_isHidden_iff fun r hr => h r (mem_regionsOf.mpr ⟨decl, hdecl, hr⟩)

/-! ## Rows -/

/-- A row of the sort of the region has its name. -/
def Region.IsListed (rows : List OutlineRow) : Region → Prop
  | classInside name _ => ∃ kind depth, OutlineRow.class name kind depth ∈ rows
  | methodBody name _ => ∃ returnType owner, OutlineRow.method name returnType owner ∈ rows

theorem Region.IsListed.mono {rows others : List OutlineRow} {region : Region}
    (h : region.IsListed rows) (hsub : rows ⊆ others) : region.IsListed others := by
  cases region with
  | classInside name span =>
    obtain ⟨kind, depth, hrow⟩ := h
    exact ⟨kind, depth, hsub hrow⟩
  | methodBody name span =>
    obtain ⟨returnType, owner, hrow⟩ := h
    exact ⟨returnType, owner, hsub hrow⟩

theorem Region.isHidden_ofRows_iff {rows : List OutlineRow} {region : Region} :
    region.IsHidden (Hidden.ofRows rows) ↔ region.IsListed rows := by
  cases region with
  | classInside => exact Hidden.mem_classes_ofRows
  | methodBody => exact Hidden.mem_methods_ofRows

theorem rows_subset_classRows {decl : Decl} {decls : List Decl} (h : decl ∈ decls) (depth : Nat) :
    decl.rows depth ⊆ classRows depth decls := by
  induction decls with
  | nil => cases h
  | cons other rest ih =>
    rw [classRows]
    rcases List.mem_cons.mp h with rfl | h
    · exact List.subset_append_left _ _
    · exact List.subset_append_of_subset_right _ (ih h)

theorem mem_methodRows {m : Method} {members : List Decl} (h : .method m ∈ members)
    (owner : String) : OutlineRow.method m.name m.returnType owner ∈ methodRows owner members := by
  induction members with
  | nil => cases h
  | cons other rest ih =>
    rcases List.mem_cons.mp h with rfl | h
    · exact List.mem_cons_self
    · have hrest := ih h
      cases other with
      | bareClass => exact hrest
      | fullClass => exact hrest
      | method => exact List.mem_cons_of_mem _ hrest

/-- The regions of a class are listed: its own one by its own row, and the body of a method in it by
the row of that method. -/
theorem Decl.isListed_of_mem_regions {decl : Decl} {r : NestedRegion}
    (hclass : ∀ m, decl ≠ .method m) (h : r ∈ decl.regions around) (depth : Nat) :
    r.region.IsListed (decl.rows depth) := by
  induction decl generalizing around depth with
  | bareClass => cases h
  | fullClass name kind span inner members ih =>
    rw [Decl.rows]
    rw [Decl.regions] at h
    rcases List.mem_cons.mp h with rfl | h
    · exact ⟨kind, depth, List.mem_cons_self⟩
    · obtain ⟨member, hmember, hr⟩ := mem_regionsOf.mp h
      by_cases hmethod : ∃ m, member = .method m
      · obtain ⟨m, rfl⟩ := hmethod
        rw [Decl.regions] at hr
        split at hr
        · obtain rfl := List.mem_singleton.mp hr
          have hrow := mem_methodRows hmember name
          exact ⟨m.returnType, name, List.mem_cons_of_mem _ (List.mem_append_left _ hrow)⟩
        · cases hr
      · have hlisted := ih member hmember (fun m heq => hmethod ⟨m, heq⟩) hr (depth + 1)
        refine hlisted.mono fun row hrow => List.mem_cons_of_mem _ (List.mem_append_right _ ?_)
        exact rows_subset_classRows hmember (depth + 1) hrow
  | method m => exact absurd rfl (hclass m)

/-- The name of a method with a body. -/
def Decl.methodName? : Decl → Option String
  | .bareClass .. => none
  | .fullClass .. => none
  | .method m => m.body.map fun _ => m.name

/-- The names of the methods with a body that stand outside all classes. -/
def Source.strayNames (source : Source) : List String :=
  source.decls.filterMap Decl.methodName?

theorem Source.mem_strayNames {source : Source} {name : String} :
    name ∈ source.strayNames ↔
      ∃ m body, .method m ∈ source.decls ∧ m.name = name ∧ m.body = some body := by
  rw [Source.strayNames, List.mem_filterMap]
  constructor
  · rintro ⟨decl, hdecl, hname⟩
    cases decl with
    | bareClass => cases hname
    | fullClass => cases hname
    | method m =>
      obtain ⟨body, hbody, hname⟩ := Option.map_eq_some_iff.mp hname
      exact ⟨m, body, hdecl, hname, hbody⟩
  · rintro ⟨m, body, hdecl, rfl, hbody⟩
    exact ⟨_, hdecl, by rw [Decl.methodName?, hbody, Option.map_some]⟩

/-- Each region of a source is listed in its outline, or is the body of a method outside all
classes. -/
theorem Source.isListed_or_stray {source : Source} {r : NestedRegion} (h : r ∈ source.regions) :
    r.region.IsListed source.outline ∨ r.region.IsHidden (.ofLists [] source.strayNames) := by
  obtain ⟨decl, hdecl, hr⟩ := mem_regionsOf.mp h
  by_cases hmethod : ∃ m, decl = .method m
  · obtain ⟨m, rfl⟩ := hmethod
    rw [Decl.regions] at hr
    split at hr
    · next body hbody =>
      obtain rfl := List.mem_singleton.mp hr
      exact .inr (NameSet.mem_ofList.mpr (Source.mem_strayNames.mpr ⟨m, body, hdecl, rfl, hbody⟩))
    · cases hr
  · have hlisted := decl.isListed_of_mem_regions (fun m heq => hmethod ⟨m, heq⟩) hr 0
    exact .inl (hlisted.mono (rows_subset_classRows hdecl 0))

/-- A redaction is the same for two sets of hidden names that agree on the names in the rows of the
outline and on those of the methods outside all classes. -/
theorem Source.redact?_congr {source : Source} (placeholders : Placeholders)
    (hclasses : ∀ name ∈ (Hidden.ofRows source.outline).classes,
      name ∈ a.classes ↔ name ∈ b.classes)
    (hmethods : ∀ name, name ∈ (Hidden.ofRows source.outline).methods ∨ name ∈ source.strayNames →
      (name ∈ a.methods ↔ name ∈ b.methods)) :
    source.redact? placeholders a = source.redact? placeholders b := by
  have hpieces : source.pieces a = source.pieces b := by
    refine source.pieces_eq_of_isHidden_iff fun r hr => ?_
    have hr := source.isListed_or_stray hr
    rw [← Region.isHidden_ofRows_iff] at hr
    generalize r.region = region at hr
    cases region with
    | classInside name span =>
      -- The methods outside all classes do not make a class one that is listed.
      exact hclasses name (hr.resolve_right NameSet.not_mem_empty)
    | methodBody name span => exact hmethods name (hr.imp_right NameSet.mem_ofList.mp)
  rw [Source.redact?, Source.redact?, hpieces]

/-- Of the hidden names only those matter that stand in a row of their sort, and those of methods
outside all classes; without such methods only the former. So a class whose hiding makes a
difference has a row in the outline, and a method has one unless it stands outside all classes. -/
theorem Source.redact?_inter_rows (source : Source) (placeholders : Placeholders)
    (hidden : Hidden) :
    source.redact? placeholders
        (hidden ∩ (.ofRows source.outline ∪ .ofLists [] source.strayNames)) =
      source.redact? placeholders hidden ∧
    (source.strayNames = [] → source.redact? placeholders (hidden ∩ .ofRows source.outline) =
      source.redact? placeholders hidden) ∧
    (∀ name, source.redact? placeholders (hidden.setClass name true) ≠
        source.redact? placeholders (hidden.setClass name false) →
      ∃ kind depth, OutlineRow.class name kind depth ∈ source.outline) ∧
    ∀ name, source.redact? placeholders (hidden.setMethod name true) ≠
        source.redact? placeholders (hidden.setMethod name false) →
      (∃ returnType owner, OutlineRow.method name returnType owner ∈ source.outline) ∨
        ∃ m body, .method m ∈ source.decls ∧ m.name = name ∧ m.body = some body := by
  refine ⟨?_, fun hnone => ?_, fun name hne => ?_, fun name hne => ?_⟩
  · refine source.redact?_congr placeholders (fun name hname => ?_) fun name hname => ?_
    · have hoffered :
          name ∈ (Hidden.ofRows source.outline ∪ .ofLists [] source.strayNames).classes :=
        NameSet.mem_union.mpr (.inl hname)
      exact NameSet.mem_inter.trans (and_iff_left hoffered)
    · have hoffered :
          name ∈ (Hidden.ofRows source.outline ∪ .ofLists [] source.strayNames).methods :=
        NameSet.mem_union.mpr (hname.imp_right NameSet.mem_ofList.mpr)
      exact NameSet.mem_inter.trans (and_iff_left hoffered)
  · refine source.redact?_congr placeholders (fun name hname => ?_) fun name hname => ?_
    · exact NameSet.mem_inter.trans (and_iff_left hname)
    · rw [hnone] at hname
      exact NameSet.mem_inter.trans (and_iff_left (hname.resolve_right (List.not_mem_nil)))
  · by_contra hrow
    refine hne (source.redact?_congr placeholders (fun other hother => ?_) fun _ _ => Iff.rfl)
    have hother : other ≠ name := by
      rintro rfl
      exact hrow (Hidden.mem_classes_ofRows.mp hother)
    rw [Hidden.mem_classes_setClass, Hidden.mem_classes_setClass, if_neg hother, if_neg hother]
  · by_contra hrow
    rw [not_or] at hrow
    refine hne (source.redact?_congr placeholders (fun _ _ => Iff.rfl) fun other hother => ?_)
    have hother : other ≠ name := by
      rintro rfl
      rcases hother with hlisted | hstray
      · exact hrow.1 (Hidden.mem_methods_ofRows.mp hlisted)
      · exact hrow.2 (Source.mem_strayNames.mp hstray)
    rw [Hidden.mem_methods_setMethod, Hidden.mem_methods_setMethod, if_neg hother, if_neg hother]

/-- Of the names of the outer class and of a method only the former has a row of its sort. -/
theorem redact?_inter_rows_nestedSample :
    nestedSample.strayNames = [] ∧
      nestedSample.redact? .standard (.ofLists ["B", "F", "X"] ["B", "G"] ∩
          .ofRows nestedSample.outline) =
        nestedSample.redact? .standard (.ofLists ["B", "F", "X"] ["B", "G"]) := by
  have hnone : nestedSample.strayNames = [] := by decide
  have h := nestedSample.redact?_inter_rows .standard (.ofLists ["B", "F", "X"] ["B", "G"])
  exact ⟨hnone, h.2.1 hnone⟩

/-- A method directly in a namespace, outside all classes. -/
def straySource : Source :=
  ⟨"namespace N \x7b void F() \x7b x(); \x7d \x7d",
    [.method ⟨"F", "void", ⟨14, 31⟩, some ⟨⟨23, 31⟩, .block⟩⟩]⟩

/-- So the rows of the outline do not tell all names whose hiding makes a difference. -/
theorem not_forall_redact?_inter_rows :
    (¬ ∀ (source : Source) (hidden : Hidden), source.WellFormed →
      source.redact? .standard (hidden ∩ .ofRows source.outline) =
        source.redact? .standard hidden) ∧
    straySource.outline = [] ∧
    straySource.redact? .standard (.ofLists [] ["F"]) =
      some "namespace N \x7b void F() \x7b /* logic hidden */ \x7d \x7d" := by
  have hshown : straySource.redact? .standard (.ofLists [] ["F"]) =
      some "namespace N \x7b void F() \x7b /* logic hidden */ \x7d \x7d" := by decide +kernel
  refine ⟨fun hall => ?_, rfl, hshown⟩
  have hkept : straySource.redact? .standard (.ofLists [] ["F"] ∩ .ofRows straySource.outline) =
      some straySource.text := by decide +kernel
  have heq := hall straySource (.ofLists [] ["F"]) (by decide)
  rw [hkept, hshown] at heq
  exact absurd heq (by decide)

end RedactedBundle
