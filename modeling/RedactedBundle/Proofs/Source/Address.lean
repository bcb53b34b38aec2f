import Mathlib.Data.List.Infix
import Mathlib.Data.List.Sort
import RedactedBundle.Proofs.Source.Lowering

/-!
# Addresses in trees

A node of a tree is told by the way to it: the indices of the children on the way. A node comes
before what is below it, and what is below a child before what is below the next one; so addresses
that ascend like the words of a dictionary are nodes in the order of the text.

## Main definitions

- `Address`: the indices on the way to a node
- `Address.follow?`, `Address.followIn?`: what an address leads to in a tree and in a forest
- `Node.at?`, `Node.addresses`: the nodes of a syntax tree by their addresses
- `declAt?`, `placesIn`: the declarations of a list and all that they hold by their addresses

## Main statements

- `Address.Enumerates.mem_iff`: a list with all addresses in a tree
- `Node.pairwise_addresses`, `pairwise_placesIn`: each node and each declaration has one address
-/

namespace RedactedBundle

/-- The indices of the children on the way to a node of a tree. In a forest the index of the tree
comes first. -/
abbrev Address := List Nat

namespace Address

variable {α β : Type} {children : α → List α} {within : α → List Address} {forest : List α}

/-- What an address leads to from the root of a tree, given the children of each node. -/
def follow? (children : α → List α) : α → Address → Option α
  | tree, [] => some tree
  | tree, i :: rest => (children tree)[i]?.bind fun child => follow? children child rest

/-- What an address leads to in a forest. -/
def followIn? (children : α → List α) (forest : List α) : Address → Option α
  | [] => none
  | i :: rest => forest[i]?.bind fun tree => follow? children tree rest

theorem follow?_cons {tree child : α} {i : Nat} (hchild : child ∈ (children tree)[i]?)
    (rest : Address) : follow? children tree (i :: rest) = follow? children child rest := by
  rw [follow?, hchild, Option.bind_some]

theorem follow?_append (tree : α) (site rest : Address) :
    follow? children tree (site ++ rest) =
      (follow? children tree site).bind fun target => follow? children target rest := by
  induction site generalizing tree with
  | nil => rfl
  | cons i site ih =>
    rw [List.cons_append, follow?, follow?, Option.bind_assoc]
    exact Option.bind_congr fun child _ => ih child

/-- What holds of a tree and passes on to children holds of all that addresses lead to. -/
theorem of_follow? {motive : α → Prop} {tree target : α} {site : Address}
    (htarget : follow? children tree site = some target) (htree : motive tree)
    (hchildren : ∀ parent, motive parent → ∀ child ∈ children parent, motive child) :
    motive target := by
  induction site generalizing tree with
  | nil =>
    obtain rfl := Option.some.inj htarget
    exact htree
  | cons i rest ih =>
    obtain ⟨child, hchild, hrest⟩ := Option.bind_eq_some_iff.mp htarget
    exact ih hrest (hchildren tree htree child (List.mem_of_getElem? hchild))

/-- On the way to something in a forest each address but the empty one leads somewhere. -/
theorem isSome_followIn?_above {above rest : Address} (habove : above ≠ [])
    (h : (followIn? children forest (above ++ rest)).isSome) :
    (followIn? children forest above).isSome := by
  cases above with
  | nil => exact absurd rfl habove
  | cons i above =>
    rw [List.cons_append, followIn?] at h
    rw [followIn?]
    cases htree : forest[i]? with
    | none => rw [htree] at h; exact h
    | some tree =>
      rw [htree, Option.bind_some, follow?_append] at h
      exact Option.isSome_of_isSome_bind h

/-- The addresses that an address goes through, without the empty one and itself. -/
def onTheWay (site : Address) : List Address := site.inits.tail.dropLast

theorem of_mem_onTheWay {above site : Address} (h : above ∈ onTheWay site) :
    above ≠ [] ∧ ∃ i rest, site = above ++ i :: rest := by
  have hne : above ≠ [] := by
    rintro rfl
    have hmem := List.mem_of_mem_dropLast h
    cases site <;> simp at hmem
  refine ⟨hne, ?_⟩
  rcases List.eq_nil_or_concat' site with rfl | ⟨before, last, rfl⟩
  · simp [onTheWay] at h
  · -- The address itself is the last one that it goes through, and it is left out.
    have hway : onTheWay (before ++ [last]) = before.inits.tail := by
      rw [onTheWay, List.inits_append, List.tail_append_of_ne_nil (by cases before <;> simp)]
      simp
    rw [hway] at h
    obtain ⟨rest, rfl⟩ := (List.mem_inits above before).mp (List.mem_of_mem_tail h)
    cases rest with
    | nil => exact ⟨last, [], by simp⟩
    | cons i rest => exact ⟨i, rest ++ [last], by simp⟩

@[simp] theorem length_onTheWay (site : Address) : (onTheWay site).length = site.length - 1 := by
  simp [onTheWay, List.length_inits]

/-- The addresses in a forest, of which those in each tree are given. -/
def throughout (within : α → List Address) (forest : List α) : List Address :=
  forest.zipIdx.flatMap fun (tree, i) => (within tree).map (i :: ·)

theorem mem_throughout {site : Address} :
    site ∈ throughout within forest ↔
      ∃ i rest, site = i :: rest ∧ ∃ tree ∈ forest[i]?, rest ∈ within tree := by
  simp only [throughout, List.mem_flatMap, List.mem_map, Prod.exists,
    List.mem_zipIdx_iff_getElem?, Option.mem_def]
  constructor
  · rintro ⟨tree, i, htree, rest, hrest, rfl⟩
    exact ⟨i, rest, rfl, tree, htree, hrest⟩
  · rintro ⟨i, rest, rfl, tree, htree, hrest⟩
    exact ⟨tree, i, htree, rest, hrest, rfl⟩

/-- The addresses in each tree are listed: that of the root first, and behind it those below it. -/
def Enumerates (children : α → List α) (within : α → List Address) : Prop :=
  ∀ tree, within tree = [] :: throughout within (children tree)

theorem Enumerates.mem_iff (h : Enumerates children within) {tree : α} {site : Address} :
    site ∈ within tree ↔ (follow? children tree site).isSome := by
  induction site generalizing tree with
  | nil =>
    rw [h tree]
    exact iff_of_true List.mem_cons_self rfl
  | cons i rest ih =>
    rw [h tree, List.mem_cons, mem_throughout, follow?, Option.isSome_bind,
      Option.any_eq_true]
    constructor
    · rintro (hnil | ⟨_, _, hcons, child, hchild, hrest⟩)
      · cases hnil
      · cases hcons
        exact ⟨child, hchild, ih.mp hrest⟩
    · rintro ⟨child, hchild, hrest⟩
      exact .inr ⟨i, rest, rfl, child, hchild, ih.mpr hrest⟩

theorem Enumerates.mem_throughout_iff (h : Enumerates children within) {site : Address} :
    site ∈ throughout within forest ↔ (followIn? children forest site).isSome := by
  rw [mem_throughout]
  cases site with
  | nil => simp [followIn?]
  | cons i rest => simp [followIn?, h.mem_iff, Option.any_eq_true, Option.isSome_bind]

/-- In a forest the addresses ascend if those in each tree do. -/
theorem pairwise_throughout (h : ∀ tree ∈ forest, (within tree).Pairwise (· < ·)) :
    (throughout within forest).Pairwise (· < ·) := by
  rw [throughout, List.pairwise_flatMap]
  constructor
  · rintro ⟨tree, i⟩ hmem
    rw [List.pairwise_map]
    have htree := h tree (List.mem_of_getElem? (List.mem_zipIdx_iff_getElem?.mp hmem))
    exact htree.imp fun hlt => List.cons_lt_cons_iff.mpr (.inr ⟨rfl, hlt⟩)
  · -- The trees are numbered in their order, and the number comes first.
    have hnumbers : (forest.zipIdx.map Prod.snd).Pairwise (· < ·) := by
      rw [List.zipIdx_map_snd]
      exact List.pairwise_lt_range'
    refine (List.pairwise_map.mp hnumbers).imp fun hlt site hsite other hother => ?_
    obtain ⟨_, _, rfl⟩ := List.mem_map.mp hsite
    obtain ⟨_, _, rfl⟩ := List.mem_map.mp hother
    exact List.cons_lt_cons_iff.mpr (.inl hlt)

theorem Enumerates.pairwise (h : Enumerates children within) {tree : α}
    (hchildren : ∀ child ∈ children tree, (within child).Pairwise (· < ·)) :
    (within tree).Pairwise (· < ·) := by
  rw [h tree, List.pairwise_cons]
  refine ⟨fun site hsite => ?_, pairwise_throughout hchildren⟩
  obtain ⟨i, rest, rfl, -⟩ := mem_throughout.mp hsite
  exact List.nil_lt_cons i rest

theorem flatMap_throughout (gather : Address → List β) :
    (throughout within forest).flatMap gather =
      forest.zipIdx.flatMap fun (tree, i) =>
        (within tree).flatMap fun rest => gather (i :: rest) := by
  rw [throughout, List.flatMap_assoc]
  simp only [List.flatMap_map]

/-- What is gathered in a forest does not depend on how its trees are numbered, if that is so for
what is gathered in each tree. -/
theorem flatMap_throughout_eq {gather : Address → List β} {gatherIn : α → List β}
    (h : ∀ i, ∀ tree ∈ forest[i]?,
      ((within tree).flatMap fun rest => gather (i :: rest)) = gatherIn tree) :
    (throughout within forest).flatMap gather = forest.flatMap gatherIn := by
  have htrees : forest.zipIdx.flatMap (fun (tree, i) =>
      (within tree).flatMap fun rest => gather (i :: rest)) =
        forest.zipIdx.flatMap fun (tree, _) => gatherIn tree :=
    List.flatMap_congr fun ⟨tree, i⟩ hmem => h i tree (List.mem_zipIdx_iff_getElem?.mp hmem)
  rw [flatMap_throughout, htrees, ← List.flatMap_map Prod.fst, List.zipIdx_map_fst]

/-- What is gathered only in the first tree of a sort. -/
theorem flatMap_zipIdx_findIdx? (isSort : α → Bool) (gatherIn : α → List β) :
    (forest.zipIdx.flatMap fun (tree, i) =>
        if forest.findIdx? isSort = some i then gatherIn tree else []) =
      (forest.find? isSort).toList.flatMap gatherIn := by
  cases hfind : forest.find? isSort with
  | none =>
    have hnone : forest.findIdx? isSort = none := by
      simpa [List.findIdx?_eq_none_iff] using hfind
    simp [hnone]
  | some tree =>
    obtain ⟨hsort, before, behind, rfl, hbefore⟩ := List.find?_eq_some_iff_append.mp hfind
    have hnone : before.findIdx? isSort = none :=
      List.findIdx?_eq_none_iff.mpr fun other hmem => by simpa using hbefore other hmem
    have hindex : (before ++ tree :: behind).findIdx? isSort = some before.length := by
      rw [List.findIdx?_append, hnone, List.findIdx?_cons, if_pos hsort]
      simp
    let gather := fun (tree, i) => if some before.length = some i then gatherIn tree else []
    have hleft : before.zipIdx.flatMap gather = [] := by
      refine List.flatMap_eq_nil_iff.mpr fun entry hentry => if_neg fun heq => ?_
      have hlt := List.snd_lt_of_mem_zipIdx hentry
      have := Option.some.inj heq
      omega
    have hright : (behind.zipIdx (before.length + 1)).flatMap gather = [] := by
      refine List.flatMap_eq_nil_iff.mpr fun entry hentry => if_neg fun heq => ?_
      have hle := List.le_snd_of_mem_zipIdx hentry
      have := Option.some.inj heq
      omega
    rw [hindex, List.zipIdx_append, List.flatMap_append, Nat.zero_add, List.zipIdx_cons,
      List.flatMap_cons, hleft, hright]
    simp

end Address

/-! ## Syntax trees -/

namespace Node

/-- The node that an address leads to. -/
def at? (node : Node) (site : Address) : Option Node := Address.follow? children node site

mutual

/-- The addresses in a syntax tree. -/
def addresses : Node → List Address
  | mk _ _ children => [] :: addressesFrom 0 children

/-- The addresses in some trees, which are numbered from a first number on. -/
def addressesFrom (first : Nat) : List Node → List Address
  | [] => []
  | node :: rest => node.addresses.map (first :: ·) ++ addressesFrom (first + 1) rest

end

theorem addressesFrom_eq (first : Nat) (nodes : List Node) :
    addressesFrom first nodes =
      (nodes.zipIdx first).flatMap fun (node, i) => node.addresses.map (i :: ·) := by
  induction nodes generalizing first with
  | nil => rfl
  | cons node rest ih => rw [addressesFrom, List.zipIdx_cons, List.flatMap_cons, ih]

theorem enumerates_addresses : Address.Enumerates children addresses := by
  intro node
  cases node
  rw [addresses, addressesFrom_eq]
  rfl

theorem pairwise_addresses (node : Node) : node.addresses.Pairwise (· < ·) := by
  induction node with
  | mk kind span children ih => exact enumerates_addresses.pairwise ih

end Node

/-! ## Declarations -/

namespace Decl

/-- The declarations directly in the body of a class. -/
def members : Decl → List Decl
  | bareClass .. => []
  | fullClass _ _ _ _ members => members
  | method _ => []

mutual

/-- The addresses in a declaration: its own, and those of what its body holds. -/
def places : Decl → List Address
  | bareClass .. => [[]]
  | fullClass _ _ _ _ members => [] :: placesFrom 0 members
  | method _ => [[]]

/-- The addresses in some declarations, which are numbered from a first number on. -/
def placesFrom (first : Nat) : List Decl → List Address
  | [] => []
  | decl :: rest => decl.places.map (first :: ·) ++ placesFrom (first + 1) rest

end

theorem placesFrom_eq (first : Nat) (decls : List Decl) :
    placesFrom first decls =
      (decls.zipIdx first).flatMap fun (decl, i) => decl.places.map (i :: ·) := by
  induction decls generalizing first with
  | nil => rfl
  | cons decl rest ih => rw [placesFrom, List.zipIdx_cons, List.flatMap_cons, ih]

theorem enumerates_places : Address.Enumerates members places := by
  intro decl
  cases decl with
  | bareClass => rfl
  | fullClass => rw [places, placesFrom_eq]; rfl
  | method => rfl

theorem pairwise_places (decl : Decl) : decl.places.Pairwise (· < ·) := by
  induction decl with
  | bareClass => exact List.pairwise_singleton _ _
  | fullClass name kind span inner members ih => exact enumerates_places.pairwise ih
  | method => exact List.pairwise_singleton _ _

end Decl

/-- The addresses of some declarations and of all that they hold. -/
def placesIn (decls : List Decl) : List Address := Address.throughout Decl.places decls

/-- The declaration that an address leads to. -/
def declAt? (decls : List Decl) (place : Address) : Option Decl :=
  Address.followIn? Decl.members decls place

/-- What the addresses in a declaration lead to: itself, and what its body holds. -/
def Decl.unfolded (decl : Decl) : List (Option Decl) :=
  decl.places.map (Address.follow? members decl)

theorem declAt?_cons {decls : List Decl} {decl : Decl} {i : Nat} (hdecl : decl ∈ decls[i]?)
    (rest : Address) : declAt? decls (i :: rest) = Address.follow? Decl.members decl rest := by
  rw [declAt?, Address.followIn?, hdecl, Option.bind_some]

theorem map_declAt?_placesIn (decls : List Decl) :
    (placesIn decls).map (declAt? decls) = decls.flatMap Decl.unfolded := by
  rw [List.map_eq_flatMap]
  refine Address.flatMap_throughout_eq fun i decl hdecl => ?_
  rw [Decl.unfolded, List.map_eq_flatMap]
  exact List.flatMap_congr fun rest _ => congrArg ([·]) (declAt?_cons hdecl rest)

theorem Decl.unfolded_eq (decl : Decl) :
    decl.unfolded = some decl :: decl.members.flatMap unfolded := by
  rw [unfolded, enumerates_places, List.map_cons, ← map_declAt?_placesIn]
  refine congrArg _ (List.map_congr_left fun place hplace => ?_)
  obtain ⟨i, rest, rfl, -⟩ := Address.mem_throughout.mp hplace
  rfl

/-- The declarations around the one at an address, from the outermost inwards. Only classes hold
declarations, so all of them are classes. -/
def declsAround (decls : List Decl) (place : Address) : List Decl :=
  place.onTheWay.filterMap (declAt? decls)

@[simp] theorem declsAround_singleton (decls : List Decl) (i : Nat) : declsAround decls [i] = [] :=
  rfl

/-- Around a declaration in a class stand that class, and what is around the declaration in there. -/
theorem declsAround_cons {decls : List Decl} {decl : Decl} {i : Nat} {rest : Address}
    (hdecl : decl ∈ decls[i]?) (hrest : rest ≠ []) :
    declsAround decls (i :: rest) = decl :: declsAround decl.members rest := by
  obtain ⟨j, others, rfl⟩ := List.exists_cons_of_ne_nil hrest
  have hway : Address.onTheWay (i :: j :: others) =
      [i] :: (Address.onTheWay (j :: others)).map (i :: ·) := by
    simp only [Address.onTheWay, List.inits_cons, List.tail_cons, List.map_cons, List.map_dropLast]
    exact List.dropLast_cons_of_ne_nil (by cases others <;> simp)
  have hself : declAt? decls [i] = some decl := declAt?_cons hdecl []
  rw [declsAround, hway, List.filterMap_cons_some hself, List.filterMap_map, declsAround]
  refine congrArg _ (List.filterMap_congr fun above habove => ?_)
  obtain ⟨k, way, rfl⟩ := List.exists_cons_of_ne_nil (Address.of_mem_onTheWay habove).1
  exact declAt?_cons hdecl (k :: way)

theorem mem_placesIn_iff {decls : List Decl} {place : Address} :
    place ∈ placesIn decls ↔ (declAt? decls place).isSome :=
  Decl.enumerates_places.mem_throughout_iff

theorem length_declsAround {decls : List Decl} {place : Address} (h : place ∈ placesIn decls) :
    (declsAround decls place).length = place.length - 1 := by
  rw [← place.length_onTheWay, declsAround, List.filterMap_length_eq_length]
  intro above habove
  obtain ⟨hne, i, rest, rfl⟩ := Address.of_mem_onTheWay habove
  exact Address.isSome_followIn?_above hne (mem_placesIn_iff.mp h)

theorem pairwise_placesIn (decls : List Decl) : (placesIn decls).Pairwise (· < ·) :=
  Address.pairwise_throughout fun decl _ => decl.pairwise_places

end RedactedBundle
