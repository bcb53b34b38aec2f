import RedactedBundle.Proofs.Source.Address

/-!
# Which declarations are found

A type or a method of a syntax tree is found if a way leads to it through named nodes that goes into
no method, and into a type only by its first list of declarations. Whatever other nodes lie on the
way, be they namespaces, properties or errors, is passed through. Each type and each method that is
found becomes one declaration, in the order of the text. It is a member of the nearest type on the
way, or stands at the top.

## Main definitions

- `Node.leads`, `Node.found`: the ways to types and methods
- `Node.typesAround`, `Node.foundIn`: the types on a way, and what is found with a nearest type
- `Node.declaredAt?`: the declaration of the type or method at an address
- `Node.Nests`: the range of each node holds those of its children, in order

## Main statements

- `Node.flatMap_outermostAt`: what is found outside all types in a node are its declarations
- `Node.flatMap_reachedAt`: all that is found in a node are its declarations and those in them
- `Node.decls_found`: the declarations of a syntax tree are those that are found, each in its place
-/

namespace RedactedBundle

namespace NodeKind

def isType : NodeKind → Bool
  | typeDecl _ => true
  | _ => false

/-- Types and methods are declarations of a source; what is inside of other nodes counts. -/
def isDeclared : NodeKind → Bool
  | typeDecl _ => true
  | methodDecl => true
  | _ => false

end NodeKind

namespace Node

/-- A way may go on from the node to its child at an index: from a type to the first list of
declarations, from a method or a mere mark not at all, and from any other node to all children. -/
def opens (node : Node) (i : Nat) : Bool :=
  match node.kind with
  | .typeDecl _ => node.children.findIdx? (·.kind = .declarationList) = some i
  | .methodDecl => false
  | kind => kind.isNamed

/-- A way leads by an address from the node to a type or a method. -/
def leads : Node → Address → Bool
  | node, [] => node.kind.isDeclared
  | node, i :: rest => node.opens i && node.children[i]?.any fun child => child.leads rest

/-- A way leads by an address from the root, whatever the root is, to a type or a method. -/
def finds (root : Node) : Address → Bool
  | [] => false
  | i :: rest => root.children[i]?.any fun child => child.leads rest

/-- The addresses of the types and methods that are found, in the order of the text. -/
def found (root : Node) : List Address := root.addresses.filter root.finds

/-- The addresses of the types that are passed on the way to an address, the outermost first. -/
def typesAround (root : Node) (site : Address) : List Address :=
  site.onTheWay.filter fun above => (root.at? above).any (·.kind.isType)

/-- What is found with the last type on the way being the one at an address, or with none. -/
def foundIn (root : Node) (owner : Option Address) : List Address :=
  root.found.filter fun site => (root.typesAround site).getLast? = owner

/-- The declaration of a type or a method. -/
def decl (text : List Char) (node : Node) : Decl :=
  match node.kind with
  | .typeDecl kind =>
    match node.child? .declarationList with
    | none => .bareClass (node.childText text .identifier) kind node.span
    | some list =>
      .fullClass (node.childText text .identifier) kind node.span list.braceInterior
        (list.decls text)
  | _ => .method (node.toMethod text)

/-- The declaration of the type or method that an address leads to. -/
def declaredAt? (text : List Char) (root : Node) (site : Address) : Option Decl :=
  (root.at? site).map (decl text)

variable {text : List Char} {node root child : Node} {i : Nat} {rest site : Address}

/-! ## Declarations of a node -/

theorem bodyOf_eq (children : List Node) :
    bodyOf text children = (children.find? (·.kind = .declarationList)).map
      fun list => (list.braceInterior, list.decls text) := by
  induction children with
  | nil => rfl
  | cons child rest ih =>
    obtain ⟨kind, span, children⟩ := child
    rw [bodyOf, List.find?_cons]
    by_cases hkind : kind = .declarationList
    · simp [Node.kind, hkind, decls, Node.children]
    · simp [Node.kind, hkind, ih]

theorem declsAt_of_isDeclared (h : node.kind.isDeclared) : node.declsAt text = [node.decl text] := by
  obtain ⟨kind, span, children⟩ := node
  have h : kind.isDeclared := h
  cases kind with
  | typeDecl classKind =>
    have hlist : (mk (.typeDecl classKind) span children).child? .declarationList =
        children.find? (·.kind = .declarationList) := rfl
    rw [declsAt, bodyOf_eq, decl, hlist]
    cases children.find? (·.kind = .declarationList) <;> rfl
  | methodDecl => rfl
  | _ => cases h

/-- Any other named node stands for the declarations of its children, and a mere mark for none. -/
theorem declsAt_of_not_isDeclared (h : node.kind.isDeclared = false) :
    node.declsAt text = if node.kind.isNamed then node.decls text else [] := by
  obtain ⟨kind, span, children⟩ := node
  have h : kind.isDeclared = false := h
  cases kind with
  | typeDecl => cases h
  | methodDecl => cases h
  | _ => rfl

/-- The members of a type are the declarations of its first list of declarations. -/
theorem members_decl (h : node.kind.isType) :
    (node.decl text).members =
      (node.child? .declarationList).toList.flatMap fun list => list.declsAt text := by
  obtain ⟨kind, span, children⟩ := node
  have h : kind.isType := h
  cases kind with
  | typeDecl classKind =>
    simp only [decl, Node.kind]
    cases hlist : (mk (.typeDecl classKind) span children).child? .declarationList with
    | none => rfl
    | some list =>
      have hkind : list.kind = .declarationList := by simpa using List.find?_some hlist
      have hdecls : list.declsAt text = list.decls text := by
        rw [declsAt_of_not_isDeclared (by rw [hkind]; rfl), hkind]
        rfl
      simp [Decl.members, hdecls]
  | _ => cases h

theorem members_decl_of_method (h : node.kind = .methodDecl) : (node.decl text).members = [] := by
  rw [decl, h]
  rfl

/-! ## Ways -/

theorem opens_of_isType (h : node.kind.isType) :
    node.opens i ↔ node.children.findIdx? (·.kind = .declarationList) = some i := by
  rw [opens]
  cases hkind : node.kind with
  | typeDecl => simp
  | _ => rw [hkind] at h; cases h

theorem opens_of_not_isDeclared (h : node.kind.isDeclared = false) :
    node.opens i = node.kind.isNamed := by
  rw [opens]
  cases hkind : node.kind with
  | typeDecl => rw [hkind] at h; cases h
  | methodDecl => rw [hkind] at h; cases h
  | _ => rfl

theorem not_leads_cons_of_method (h : node.kind = .methodDecl) : ¬ node.leads (i :: rest) := by
  simp [leads, opens, h]

theorem leads_cons (hchild : child ∈ node.children[i]?) :
    node.leads (i :: rest) = (node.opens i && child.leads rest) := by
  rw [leads, hchild, Option.any_some]

theorem finds_cons (hchild : child ∈ root.children[i]?) :
    root.finds (i :: rest) = child.leads rest := by
  rw [finds, hchild, Option.any_some]

theorem at?_cons (hchild : child ∈ node.children[i]?) : node.at? (i :: rest) = child.at? rest :=
  Address.follow?_cons hchild rest

theorem exists_child_of_leads (h : node.leads (i :: rest)) : ∃ child, child ∈ node.children[i]? := by
  rw [leads, Bool.and_eq_true, Option.any_eq_true] at h
  exact h.2.imp fun child hchild => hchild.1

theorem exists_child_of_finds (h : root.finds (i :: rest)) : ∃ child, child ∈ root.children[i]? := by
  rw [finds, Option.any_eq_true] at h
  exact h.imp fun child hchild => hchild.1

theorem exists_at?_of_leads (h : node.leads site) :
    ∃ target, node.at? site = some target ∧ target.kind.isDeclared := by
  induction site generalizing node with
  | nil => exact ⟨node, rfl, h⟩
  | cons i rest ih =>
    obtain ⟨child, hchild⟩ := exists_child_of_leads h
    rw [leads_cons hchild, Bool.and_eq_true] at h
    rw [at?_cons hchild]
    exact ih h.2

theorem exists_at?_of_finds (h : root.finds site) :
    ∃ target, root.at? site = some target ∧ target.kind.isDeclared := by
  cases site with
  | nil => cases h
  | cons i rest =>
    obtain ⟨child, hchild⟩ := exists_child_of_finds h
    rw [finds_cons hchild] at h
    rw [at?_cons hchild]
    exact exists_at?_of_leads h

/-- A way that leads to a node leads on from there. -/
theorem leads_append {target : Node} (h : node.leads site) (htarget : node.at? site = some target) :
    node.leads (site ++ rest) = target.leads rest := by
  induction site generalizing node with
  | nil =>
    obtain rfl := Option.some.inj htarget
    rfl
  | cons i site ih =>
    obtain ⟨child, hchild⟩ := exists_child_of_leads h
    rw [leads_cons hchild, Bool.and_eq_true] at h
    rw [at?_cons hchild] at htarget
    rw [List.cons_append, leads_cons hchild, h.1, Bool.true_and, ih h.2 htarget]

theorem finds_append {target : Node} (h : root.finds site) (htarget : root.at? site = some target) :
    root.finds (site ++ rest) = target.leads rest := by
  cases site with
  | nil => cases h
  | cons i site =>
    obtain ⟨child, hchild⟩ := exists_child_of_finds h
    rw [finds_cons hchild] at h
    rw [at?_cons hchild] at htarget
    rw [List.cons_append, finds_cons hchild, leads_append h htarget]

theorem mem_found_iff : site ∈ root.found ↔ root.finds site := by
  rw [found, List.mem_filter, enumerates_addresses.mem_iff]
  refine and_iff_right_of_imp fun h => ?_
  obtain ⟨target, htarget, -⟩ := exists_at?_of_finds h
  exact Option.isSome_iff_exists.mpr ⟨target, htarget⟩

/-! ## Types on the way -/

/-- The addresses of the types on the way from a node, the node itself counted in. -/
def typesOnWay (node : Node) (rest : Address) : List Address :=
  rest.inits.dropLast.filter fun above => (node.at? above).any (·.kind.isType)

@[simp] theorem typesOnWay_nil (node : Node) : node.typesOnWay [] = [] := rfl

theorem typesOnWay_cons (hchild : child ∈ node.children[i]?) :
    node.typesOnWay (i :: rest) =
      (if node.kind.isType then [[]] else []) ++ (child.typesOnWay rest).map (i :: ·) := by
  have hinits : (i :: rest).inits.dropLast = [] :: rest.inits.dropLast.map (i :: ·) := by
    rw [List.inits_cons, List.dropLast_cons_of_ne_nil (by cases rest <;> simp), List.map_dropLast]
  have hat : ∀ above, node.at? (i :: above) = child.at? above := fun above => at?_cons hchild
  rw [typesOnWay, hinits, List.filter_cons, List.filter_map, typesOnWay]
  simp only [Function.comp_def, hat]
  cases hkind : node.kind.isType <;> simp [at?, Address.follow?, hkind]

theorem typesAround_cons (hchild : child ∈ root.children[i]?) :
    root.typesAround (i :: rest) = (child.typesOnWay rest).map (i :: ·) := by
  have hway : Address.onTheWay (i :: rest) = rest.inits.dropLast.map (i :: ·) := by
    rw [Address.onTheWay, List.inits_cons, List.tail_cons, List.map_dropLast]
  have hat : ∀ above, root.at? (i :: above) = child.at? above := fun above => at?_cons hchild
  rw [typesAround, hway, List.filter_map, typesOnWay]
  simp only [Function.comp_def, hat]

/-- The types on a way that leads through a node come before that node or from there on. -/
theorem typesOnWay_append {target : Node} (htarget : node.at? site = some target) :
    node.typesOnWay (site ++ rest) =
      node.typesOnWay site ++ (target.typesOnWay rest).map (site ++ ·) := by
  induction site generalizing node with
  | nil =>
    obtain rfl := Option.some.inj htarget
    simp
  | cons i site ih =>
    obtain ⟨child, hchild, hrest⟩ := Option.bind_eq_some_iff.mp htarget
    rw [List.cons_append, typesOnWay_cons hchild, typesOnWay_cons hchild, ih hrest]
    simp

theorem typesAround_append {target : Node} (hne : site ≠ []) (htarget : root.at? site = some target) :
    root.typesAround (site ++ rest) =
      root.typesAround site ++ (target.typesOnWay rest).map (site ++ ·) := by
  cases site with
  | nil => exact absurd rfl hne
  | cons i site =>
    obtain ⟨child, hchild, hrest⟩ := Option.bind_eq_some_iff.mp htarget
    rw [List.cons_append, typesAround_cons hchild, typesAround_cons hchild, typesOnWay_append hrest]
    simp

/-! ## What is found in a node -/

/-- What is found at an address with no type on the way, the node itself counted in. -/
def outermostAt (text : List Char) (node : Node) (site : Address) : List (Option Decl) :=
  if node.leads site && (node.typesOnWay site).isEmpty then [node.declaredAt? text site] else []

/-- What is found at an address. -/
def reachedAt (text : List Char) (node : Node) (site : Address) : List (Option Decl) :=
  if node.leads site then [node.declaredAt? text site] else []

theorem declaredAt?_cons (hchild : child ∈ node.children[i]?) :
    node.declaredAt? text (i :: rest) = child.declaredAt? text rest := by
  rw [declaredAt?, at?_cons hchild, declaredAt?]

theorem isType_eq_false (h : node.kind.isDeclared = false) : node.kind.isType = false := by
  cases hkind : node.kind with
  | typeDecl => rw [hkind] at h; cases h
  | _ => rfl

theorem outermostAt_cons (h : node.kind.isDeclared = false) (hchild : child ∈ node.children[i]?) :
    node.outermostAt text (i :: rest) =
      if node.kind.isNamed then child.outermostAt text rest else [] := by
  rw [outermostAt, outermostAt, leads_cons hchild, typesOnWay_cons hchild,
    opens_of_not_isDeclared h, isType_eq_false h, declaredAt?_cons hchild]
  cases node.kind.isNamed <;> simp

theorem reachedAt_cons (hchild : child ∈ node.children[i]?) :
    node.reachedAt text (i :: rest) = if node.opens i then child.reachedAt text rest else [] := by
  rw [reachedAt, reachedAt, leads_cons hchild, declaredAt?_cons hchild]
  cases node.opens i <;> simp

theorem outermostAt_cons_of_isDeclared (h : node.kind.isDeclared)
    (hchild : child ∈ node.children[i]?) : node.outermostAt text (i :: rest) = [] := by
  rw [outermostAt]
  cases hkind : node.kind with
  | typeDecl =>
    have htypes : node.typesOnWay (i :: rest) ≠ [] := by
      simp [typesOnWay_cons hchild, hkind, NodeKind.isType]
    simp [htypes]
  | methodDecl => simp [not_leads_cons_of_method hkind]
  | _ => rw [hkind] at h; cases h

theorem flatMap_addresses (node : Node) {β : Type} (gather : Address → List β) :
    node.addresses.flatMap gather =
      gather [] ++ (Address.throughout addresses node.children).flatMap gather := by
  rw [enumerates_addresses, List.flatMap_cons]

/-- To prove a statement of all nodes, it may be assumed of the children of any node. -/
@[elab_as_elim]
theorem inductionBelow {motive : Node → Prop}
    (step : ∀ node, (∀ child ∈ node.children, motive child) → motive node) (node : Node) :
    motive node := by
  induction node with
  | mk kind span children ih => exact step _ ih

theorem decls_eq_flatMap (text : List Char) (node : Node) :
    node.decls text = node.children.flatMap (declsAt text) :=
  declsOf_eq_flatMap node.children

/-- What is gathered below a node that is passed through is gathered child by child, and below a node
that is not passed there is nothing. -/
theorem flatMap_addresses_of_cons {β : Type} {gather : Address → List β}
    {gatherFrom : Node → Address → List β} {gatherIn : Node → List β} {passes : Bool}
    (hnil : gather [] = [])
    (hcons : ∀ i, ∀ child ∈ node.children[i]?, ∀ rest,
      gather (i :: rest) = if passes then gatherFrom child rest else [])
    (hchildren : ∀ child ∈ node.children,
      child.addresses.flatMap (gatherFrom child) = gatherIn child) :
    node.addresses.flatMap gather = if passes then node.children.flatMap gatherIn else [] := by
  have hbelow : (Address.throughout addresses node.children).flatMap gather =
      node.children.flatMap fun child => if passes then gatherIn child else [] := by
    refine Address.flatMap_throughout_eq fun i child hchild => ?_
    simp only [hcons i child hchild]
    cases passes with
    | true => exact hchildren child (List.mem_of_getElem? hchild)
    | false => simp
  rw [flatMap_addresses, hnil, hbelow]
  cases passes <;> simp

/-- What is found in a node outside all types are the declarations that the node stands for. -/
theorem flatMap_outermostAt (node : Node) :
    node.addresses.flatMap (node.outermostAt text) = (node.declsAt text).map some := by
  induction node using inductionBelow with
  | step node ih =>
    cases h : node.kind.isDeclared with
    | true =>
      have hself : node.outermostAt text [] = [some (node.decl text)] :=
        if_pos (by simp [leads, h])
      have hbelow : (Address.throughout addresses node.children).flatMap
          (node.outermostAt text) = [] := by
        refine List.flatMap_eq_nil_iff.mpr fun site hsite => ?_
        obtain ⟨i, rest, rfl, child, hchild, -⟩ := Address.mem_throughout.mp hsite
        exact outermostAt_cons_of_isDeclared h hchild
      rw [flatMap_addresses, declsAt_of_isDeclared h, hself, hbelow]
      rfl
    | false =>
      have hself : node.outermostAt text [] = [] := if_neg (by simp [leads, h])
      rw [flatMap_addresses_of_cons hself (fun i child hchild rest => outermostAt_cons h hchild) ih,
        declsAt_of_not_isDeclared h, decls_eq_flatMap]
      cases node.kind.isNamed <;> simp [List.map_flatMap]

/-- Below a type what is found are the declarations of its first list of declarations, each with what
its body holds, and below a method there is nothing. -/
theorem flatMap_reachedAt_of_isDeclared (h : node.kind.isDeclared)
    (hchildren : ∀ child ∈ node.children,
      child.addresses.flatMap (child.reachedAt text) =
        (child.declsAt text).flatMap Decl.unfolded) :
    (Address.throughout addresses node.children).flatMap (node.reachedAt text) =
      (node.decl text).members.flatMap Decl.unfolded := by
  cases hkind : node.kind with
  | typeDecl classKind =>
    have htype : node.kind.isType := by rw [hkind]; rfl
    have hchild : ∀ entry ∈ node.children.zipIdx,
        (entry.1.addresses.flatMap fun rest => node.reachedAt text (entry.2 :: rest)) =
          if node.children.findIdx? (·.kind = .declarationList) = some entry.2 then
            (entry.1.declsAt text).flatMap Decl.unfolded
          else [] := by
      intro entry hentry
      have hentry := List.mem_zipIdx_iff_getElem?.mp hentry
      simp only [reachedAt_cons hentry, opens_of_isType htype]
      split
      · exact hchildren entry.1 (List.mem_of_getElem? hentry)
      · simp
    rw [Address.flatMap_throughout, List.flatMap_congr hchild, members_decl htype,
      List.flatMap_assoc]
    exact Address.flatMap_zipIdx_findIdx? (fun child : Node => decide (child.kind = .declarationList))
      fun child => (child.declsAt text).flatMap Decl.unfolded
  | methodDecl =>
    rw [members_decl_of_method hkind, List.flatMap_nil, List.flatMap_eq_nil_iff]
    intro site hsite
    obtain ⟨i, rest, rfl, -⟩ := Address.mem_throughout.mp hsite
    exact if_neg (not_leads_cons_of_method hkind)
  | _ => rw [hkind] at h; cases h

/-- All that is found in a node are the declarations that the node stands for, each with what its
body holds. -/
theorem flatMap_reachedAt (node : Node) :
    node.addresses.flatMap (node.reachedAt text) = (node.declsAt text).flatMap Decl.unfolded := by
  induction node using inductionBelow with
  | step node ih =>
    cases h : node.kind.isDeclared with
    | true =>
      have hself : node.reachedAt text [] = [some (node.decl text)] := if_pos h
      rw [flatMap_addresses, flatMap_reachedAt_of_isDeclared h ih, declsAt_of_isDeclared h, hself,
        List.flatMap_singleton, Decl.unfolded_eq]
      rfl
    | false =>
      have hself : node.reachedAt text [] = [] := if_neg (by simp [leads, h])
      have hcons : ∀ i, ∀ child ∈ node.children[i]?, ∀ rest, node.reachedAt text (i :: rest) =
          if node.kind.isNamed then child.reachedAt text rest else [] := by
        intro i child hchild rest
        rw [reachedAt_cons hchild, opens_of_not_isDeclared h]
      rw [flatMap_addresses_of_cons hself hcons ih, declsAt_of_not_isDeclared h, decls_eq_flatMap]
      cases node.kind.isNamed <;> simp [List.flatMap_assoc]

/-! ## What is found in a tree -/

theorem map_filter_eq_flatMap {α β : Type} (f : α → β) (holds : α → Bool) (xs : List α) :
    (xs.filter holds).map f = xs.flatMap fun x => if holds x then [f x] else [] := by
  induction xs with
  | nil => rfl
  | cons x rest ih =>
    rw [List.flatMap_cons, ← ih]
    cases h : holds x <;> simp [h]

/-- All that is found in a tree are its declarations, each with what its body holds. -/
theorem map_found (text : List Char) (root : Node) :
    root.found.map (root.declaredAt? text) =
      (placesIn (root.decls text)).map (declAt? (root.decls text)) := by
  have hcons : ∀ i, ∀ child ∈ root.children[i]?, ∀ rest,
      (if root.finds (i :: rest) then [root.declaredAt? text (i :: rest)] else []) =
        if true then child.reachedAt text rest else [] := by
    intro i child hchild rest
    rw [finds_cons hchild, declaredAt?_cons hchild]
    rfl
  rw [found, map_filter_eq_flatMap,
    flatMap_addresses_of_cons rfl hcons fun child _ => child.flatMap_reachedAt, if_pos rfl,
    map_declAt?_placesIn, decls_eq_flatMap, List.flatMap_assoc]

/-- What is found in a tree outside all types are its declarations. -/
theorem map_foundIn_none (text : List Char) (root : Node) :
    (root.foundIn none).map (root.declaredAt? text) = (root.decls text).map some := by
  have hcons : ∀ i, ∀ child ∈ root.children[i]?, ∀ rest,
      (if decide ((root.typesAround (i :: rest)).getLast? = none) && root.finds (i :: rest) then
        [root.declaredAt? text (i :: rest)] else []) =
        if true then child.outermostAt text rest else [] := by
    intro i child hchild rest
    rw [finds_cons hchild, declaredAt?_cons hchild, typesAround_cons hchild, outermostAt,
      Bool.and_comm]
    simp
  rw [foundIn, found, List.filter_filter, map_filter_eq_flatMap,
    flatMap_addresses_of_cons (by simp [finds]) hcons fun child _ => child.flatMap_outermostAt,
    if_pos rfl, decls_eq_flatMap, List.map_flatMap]

/-- Found with its nearest type being the one at an address is what is found below the first list of
declarations of that type and outside all types there. -/
theorem mem_foundIn_some_iff {owner : Address} {target : Node} (howner : root.finds owner)
    (htarget : root.at? owner = some target) :
    site ∈ root.foundIn (some owner) ↔
      target.kind.isType ∧ ∃ i rest, site = owner ++ i :: rest ∧ target.opens i ∧
        ∃ list ∈ target.children[i]?, list.leads rest ∧ list.typesOnWay rest = [] := by
  have hne : owner ≠ [] := by
    rintro rfl
    cases howner
  rw [foundIn, List.mem_filter, mem_found_iff, decide_eq_true_eq]
  constructor
  · rintro ⟨hfinds, hlast⟩
    obtain ⟨hway, htype⟩ := List.mem_filter.mp (List.mem_of_getLast? hlast)
    rw [htarget, Option.any_some] at htype
    obtain ⟨-, i, rest, rfl⟩ := Address.of_mem_onTheWay hway
    rw [finds_append howner htarget] at hfinds
    obtain ⟨list, hlist⟩ := exists_child_of_leads hfinds
    rw [leads_cons hlist, Bool.and_eq_true] at hfinds
    refine ⟨htype, i, rest, rfl, hfinds.1, list, hlist, hfinds.2, ?_⟩
    -- A type further down the way would be nearer than the owner.
    rw [typesAround_append hne htarget, typesOnWay_cons hlist, if_pos htype] at hlast
    rcases List.eq_nil_or_concat' (list.typesOnWay rest) with hnone | ⟨types, last, htypes⟩
    · exact hnone
    · simp [htypes, List.getLast?_cons] at hlast
  · rintro ⟨htype, i, rest, rfl, hopens, list, hlist, hleads, hnone⟩
    rw [finds_append howner htarget, leads_cons hlist, typesAround_append hne htarget,
      typesOnWay_cons hlist, hnone, htype]
    simp [hopens, hleads]

theorem pairwise_found (root : Node) : root.found.Pairwise (· < ·) :=
  (pairwise_addresses root).filter _

theorem exists_opens_of_child?_eq_some {list : Node} (htype : node.kind.isType)
    (hlist : node.child? .declarationList = some list) :
    ∃ i, (∀ j, node.opens j ↔ j = i) ∧ list ∈ node.children[i]? := by
  obtain ⟨hkind, i, hi, rfl, hbefore⟩ := List.find?_eq_some_iff_getElem.mp hlist
  have hindex : node.children.findIdx? (·.kind = .declarationList) = some i :=
    List.findIdx?_eq_some_iff_getElem.mpr
      ⟨hi, hkind, fun j hj => by simpa using hbefore j hj⟩
  refine ⟨i, fun j => ?_, List.getElem?_eq_getElem hi⟩
  rw [opens_of_isType htype, hindex, Option.some.injEq, eq_comm]

theorem not_opens_of_child?_eq_none (htype : node.kind.isType)
    (hlist : node.child? .declarationList = none) : ¬ node.opens i := by
  rw [opens_of_isType htype, List.findIdx?_eq_none_iff.mpr fun child hmem => by
    simpa using List.find?_eq_none.mp hlist child hmem]
  exact nofun

theorem at?_append {target : Node} (htarget : root.at? site = some target) :
    root.at? (site ++ rest) = target.at? rest := by
  have htarget : Address.follow? children root site = some target := htarget
  rw [at?, Address.follow?_append, htarget]
  rfl

/-- With a type that opens to a list of declarations what is found outside all types in that list. -/
theorem foundIn_some_eq {owner : Address} {target list : Node} (howner : root.finds owner)
    (htarget : root.at? owner = some target) (htype : target.kind.isType)
    (hopens : ∀ j, target.opens j ↔ j = i) (hlist : list ∈ target.children[i]?) :
    root.foundIn (some owner) =
      (list.addresses.filter fun rest => list.leads rest && (list.typesOnWay rest).isEmpty).map
        fun rest => owner ++ i :: rest := by
  refine List.Pairwise.eq_of_mem_iff ((pairwise_found root).filter _) ?_ fun site => ?_
  · rw [List.pairwise_map]
    exact ((pairwise_addresses list).filter _).imp fun hlt =>
      List.append_left_lt (List.cons_lt_cons_iff.mpr (.inr ⟨rfl, hlt⟩))
  · rw [mem_foundIn_some_iff howner htarget, List.mem_map]
    constructor
    · rintro ⟨-, j, rest, rfl, hj, other, hother, hleads, hnone⟩
      obtain rfl := (hopens j).mp hj
      obtain rfl := Option.mem_unique hother hlist
      obtain ⟨last, hlast, -⟩ := exists_at?_of_leads hleads
      refine ⟨rest, List.mem_filter.mpr ⟨?_, by simp [hleads, hnone]⟩, rfl⟩
      exact enumerates_addresses.mem_iff.mpr (Option.isSome_iff_exists.mpr ⟨last, hlast⟩)
    · rintro ⟨rest, hrest, rfl⟩
      obtain ⟨hleads, hnone⟩ := Bool.and_eq_true_iff.mp (List.mem_filter.mp hrest).2
      exact ⟨htype, i, rest, rfl, (hopens i).mpr rfl, list, hlist, hleads,
        List.isEmpty_iff.mp hnone⟩

/-- What is found with a nearest type being that at an address, if it is found itself, are the
members of the declaration there. Methods have none. -/
theorem map_foundIn_some {owner : Address} {target : Node} (howner : root.finds owner)
    (htarget : root.at? owner = some target) :
    (root.foundIn (some owner)).map (root.declaredAt? text) =
      (target.decl text).members.map some := by
  have hnil (h : ¬ ∃ i, target.kind.isType ∧ target.opens i) : root.foundIn (some owner) = [] := by
    refine List.eq_nil_iff_forall_not_mem.mpr fun site hsite => h ?_
    obtain ⟨htype, i, -, -, hopens, -⟩ := (mem_foundIn_some_iff howner htarget).mp hsite
    exact ⟨i, htype, hopens⟩
  by_cases htype : target.kind.isType
  · cases hlist : target.child? .declarationList with
    | none =>
      rw [hnil fun ⟨i, _, hopens⟩ => not_opens_of_child?_eq_none htype hlist hopens,
        members_decl htype, hlist]
      rfl
    | some list =>
      obtain ⟨i, hopens, hchild⟩ := exists_opens_of_child?_eq_some htype hlist
      have hdeclared : ∀ rest, root.declaredAt? text (owner ++ i :: rest) =
          list.declaredAt? text rest := by
        intro rest
        rw [declaredAt?, at?_append htarget, at?_cons hchild, declaredAt?]
      rw [foundIn_some_eq howner htarget htype hopens hchild, List.map_map, Function.comp_def]
      simp only [hdeclared]
      rw [map_filter_eq_flatMap, members_decl htype, hlist, Option.toList_some,
        List.flatMap_singleton]
      exact list.flatMap_outermostAt
  · obtain ⟨method, hmethod, hdeclared⟩ := exists_at?_of_finds howner
    obtain rfl := Option.some.inj (htarget.symm.trans hmethod)
    have hkind : target.kind = .methodDecl := by
      cases hkind : target.kind with
      | typeDecl => rw [hkind] at htype; exact absurd rfl htype
      | methodDecl => rfl
      | _ => rw [hkind] at hdeclared; cases hdeclared
    rw [hnil fun ⟨i, h, _⟩ => htype h, members_decl_of_method hkind]
    rfl

/-! ## The order of the text -/

theorem span_decl (text : List Char) (node : Node) : (node.decl text).span = node.span := by
  rw [decl]
  split
  · split <;> rfl
  · rfl

/-- The range of each node of the tree holds the ranges of its children, in order. -/
def Nests (root : Node) : Prop :=
  ∀ site target, root.at? site = some target →
    target.span.start ≤ target.span.stop ∧
      Span.InOrder target.span (target.children.map Node.span)

theorem Nests.of_mem (h : root.Nests) (hmem : child ∈ root.children) :
    child.Nests ∧ child.span.Within root.span := by
  obtain ⟨i, hchild⟩ := List.getElem?_of_mem hmem
  refine ⟨fun site target htarget => h (i :: site) target ((at?_cons hchild).trans htarget), ?_⟩
  exact (h [] root rfl).2.within_range child.span (List.mem_map_of_mem hmem)

theorem Nests.within_of_at? {target : Node} (h : root.Nests) (htarget : root.at? site = some target) :
    target.span.Within root.span := by
  have htarget : target.Nests ∧ target.span.Within root.span := by
    refine Address.of_follow? (motive := fun target => target.Nests ∧
      target.span.Within root.span) htarget ⟨h, Span.Within.refl _⟩ ?_
    rintro parent ⟨hparent, hin⟩ child hmem
    obtain ⟨hchild, hchildIn⟩ := hparent.of_mem hmem
    exact ⟨hchild, hchildIn.trans hin⟩
  exact htarget.2

/-- In a tree whose ranges nest a node with a later address starts at the same place or later. -/
theorem Nests.start_le_of_lt {other : Address} {first second : Node} (h : root.Nests)
    (hlt : site < other) (hfirst : root.at? site = some first)
    (hsecond : root.at? other = some second) : first.span.start ≤ second.span.start := by
  induction site generalizing root other with
  | nil =>
    obtain rfl := Option.some.inj hfirst
    exact (h.within_of_at? hsecond).start_le
  | cons i rest ih =>
    cases other with
    | nil => exact absurd hlt (List.not_lt_nil _)
    | cons j others =>
      obtain ⟨child, hchild, hrest⟩ := Option.bind_eq_some_iff.mp hfirst
      obtain ⟨child', hchild', hothers⟩ := Option.bind_eq_some_iff.mp hsecond
      have hnests := (h.of_mem (List.mem_of_getElem? hchild)).1
      rcases List.cons_lt_cons_iff.mp hlt with hij | ⟨rfl, hrests⟩
      · -- The ways part at this node, so one child lies before the other one.
        have hapart : child.span.stop ≤ child'.span.start := by
          obtain ⟨hi, rfl⟩ := List.getElem?_eq_some_iff.mp hchild
          obtain ⟨hj, rfl⟩ := List.getElem?_eq_some_iff.mp hchild'
          have hbefore := List.pairwise_map.mp (h [] root rfl).2.pairwise_before
          exact List.pairwise_iff_getElem.mp hbefore i j hi hj hij
        have hin := hnests.within_of_at? hrest
        have hin' := (h.of_mem (List.mem_of_getElem? hchild')).1.within_of_at? hothers
        calc first.span.start ≤ first.span.stop := (h _ first hfirst).1
          _ ≤ child.span.stop := hin.stop_le
          _ ≤ child'.span.start := hapart
          _ ≤ second.span.start := hin'.start_le
      · obtain rfl := Option.some.inj (hchild.symm.trans hchild')
        exact ih hnests hrests hrest hothers

theorem Nests.pairwise_start_le (h : root.Nests) (text : List Char) :
    (root.found.filterMap (root.declaredAt? text)).Pairwise
      fun first second => first.span.start ≤ second.span.start := by
  rw [List.pairwise_filterMap]
  refine (pairwise_found root).imp fun hlt first hfirst second hsecond => ?_
  obtain ⟨node, hnode, rfl⟩ := Option.map_eq_some_iff.mp hfirst
  obtain ⟨other, hother, rfl⟩ := Option.map_eq_some_iff.mp hsecond
  rw [span_decl, span_decl]
  exact h.start_le_of_lt hlt hnode hother

theorem Fits.of_at? {target : Node} (h : root.Fits text) (htarget : root.at? site = some target) :
    target.Fits text :=
  Address.of_follow? htarget h fun _ hparent => hparent.children

theorem Fits.nests (h : root.Fits text) : root.Nests := by
  intro site target htarget
  have hfits := h.of_at? htarget
  exact ⟨hfits.span_fitsIn.start_le_stop, hfits.inOrder⟩

/-- What is found in a syntax tree are the types and methods that a way leads to, each once and in
the order of the text. Its declarations, read with all that they hold in preorder, are theirs one by
one: those found outside all types stand at the top, and the members of a type are those of which it
is the nearest type on the way. -/
theorem decls_found (text : List Char) (root : Node) :
    root.found.Pairwise (· < ·) ∧ (∀ site, site ∈ root.found ↔ root.finds site) ∧
      (root.Nests → (root.found.filterMap (root.declaredAt? text)).Pairwise
        fun first second => first.span.start ≤ second.span.start) ∧
      root.found.map (root.declaredAt? text) =
        (placesIn (root.decls text)).map (declAt? (root.decls text)) ∧
      (root.foundIn none).map (root.declaredAt? text) = (root.decls text).map some ∧
      ∀ owner ∈ root.found, ∀ decl ∈ root.declaredAt? text owner,
        (root.foundIn (some owner)).map (root.declaredAt? text) = decl.members.map some := by
  refine ⟨root.pairwise_found, fun site => mem_found_iff,
    fun hnests => hnests.pairwise_start_le text, root.map_found text, root.map_foundIn_none text,
    fun owner howner decl hdecl => ?_⟩
  obtain ⟨target, htarget, rfl⟩ := Option.map_eq_some_iff.mp hdecl
  exact map_foundIn_some (mem_found_iff.mp howner) htarget

/-- The tree of a namespace with a class, which holds a class in an error node, and a method with
another class in its block. -/
def layeredTree : Node :=
  .mk .unit ⟨0, 50⟩
    [.mk .namespaceDecl ⟨0, 50⟩
      [.mk .identifier ⟨10, 11⟩ [],
        .mk .declarationList ⟨11, 50⟩
          [.mk .openingBrace ⟨11, 12⟩ [],
            .mk (.typeDecl .plain) ⟨12, 49⟩
              [.mk .identifier ⟨18, 19⟩ [],
                .mk .declarationList ⟨19, 49⟩
                  [.mk .openingBrace ⟨19, 20⟩ [],
                    .mk .error ⟨20, 29⟩
                      [.mk (.typeDecl .plain) ⟨20, 29⟩
                        [.mk .identifier ⟨26, 27⟩ [],
                          .mk .declarationList ⟨27, 29⟩
                            [.mk .openingBrace ⟨27, 28⟩ [], .mk .closingBrace ⟨28, 29⟩ []]]],
                    .mk .methodDecl ⟨29, 48⟩
                      [.mk .returnType ⟨29, 33⟩ [], .mk .identifier ⟨34, 35⟩ [],
                        .mk .block ⟨37, 48⟩
                          [.mk (.typeDecl .plain) ⟨38, 47⟩
                            [.mk .identifier ⟨44, 45⟩ [], .mk .declarationList ⟨45, 47⟩ []]]],
                    .mk .closingBrace ⟨48, 49⟩ []]],
            .mk .closingBrace ⟨49, 50⟩ []]]]

/-- The class in the namespace has the class in the error node and the method as its members; the
class in the block of the method is not found. -/
theorem decls_found_layeredTree :
    let text := "namespace N\x7bclass A\x7bclass B\x7b\x7dvoid F()\x7bclass C\x7b\x7d\x7d\x7d\x7d".toList
    layeredTree.Nests ∧
      (layeredTree.found.filterMap (layeredTree.declaredAt? text)).Pairwise
        (fun first second => first.span.start ≤ second.span.start) ∧
      layeredTree.found = [[0, 1, 1], [0, 1, 1, 1, 1, 0], [0, 1, 1, 1, 2]] ∧
      layeredTree.foundIn (some [0, 1, 1]) = [[0, 1, 1, 1, 1, 0], [0, 1, 1, 1, 2]] ∧
      ∃ decl ∈ layeredTree.declaredAt? text [0, 1, 1],
        (layeredTree.foundIn (some [0, 1, 1])).map (layeredTree.declaredAt? text) =
          decl.members.map some := by
  intro text
  have hfits : layeredTree.Fits text := by decide
  have hnests : layeredTree.Nests := hfits.nests
  obtain ⟨-, -, hstart, -, -, hmembers⟩ := decls_found text layeredTree
  refine ⟨hnests, hstart hnests, by decide, by decide, _, rfl, ?_⟩
  exact hmembers [0, 1, 1] (by decide) _ rfl

end Node

end RedactedBundle
