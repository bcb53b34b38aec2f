/-!
# Finite sets of names

A set of names is kept as a strictly ascending list, so that two sets with the same members
are equal and listing a set gives its members in ascending order.

## Main definitions

- `NameSet`: a set of names
- `NameSet.insert`, `NameSet.erase`, `NameSet.ofList`: building sets
-/

namespace RedactedBundle

/-- The names of a set, each once and ascending by code point, which is also the order of
their UTF-8 bytes. -/
structure NameSet where
  names : List String
  ascending : names.Pairwise (· < ·)

namespace NameSet

/-- The set without members. -/
def empty : NameSet := ⟨[], List.Pairwise.nil⟩

instance : Inhabited NameSet := ⟨empty⟩

instance : Membership String NameSet := ⟨fun set name => name ∈ set.names⟩

theorem mem_def {name : String} {set : NameSet} : name ∈ set ↔ name ∈ set.names := Iff.rfl

instance (name : String) (set : NameSet) : Decidable (name ∈ set) :=
  inferInstanceAs (Decidable (name ∈ set.names))

/-- The members in ascending order. -/
def toList (set : NameSet) : List String := set.names

def isEmpty (set : NameSet) : Bool := set.names.isEmpty

/-- Puts a name before the first greater one, unless it is there already. -/
def insertName (name : String) : List String → List String
  | [] => [name]
  | other :: rest =>
    if name < other then name :: other :: rest
    else if name = other then other :: rest
    else other :: insertName name rest

theorem mem_insertName {name other : String} {names : List String} :
    other ∈ insertName name names ↔ other = name ∨ other ∈ names := by
  induction names with
  | nil => simp [insertName]
  | cons head rest ih => grind [insertName]

private theorem lt_of_not_lt_of_ne {a b : String} (hlt : ¬ a < b) (hne : a ≠ b) : b < a := by
  have hle : b ≤ a := String.not_lt.mp hlt
  exact String.not_le.mp fun h => hne (String.le_antisymm h hle)

theorem pairwise_insertName {name : String} {names : List String}
    (h : names.Pairwise (· < ·)) : (insertName name names).Pairwise (· < ·) := by
  induction names with
  | nil => simp [insertName]
  | cons head rest ih =>
    obtain ⟨hhead, hrest⟩ := List.pairwise_cons.mp h
    rw [insertName]
    split
    · next hlt =>
      refine List.pairwise_cons.mpr ⟨fun other hmem => ?_, h⟩
      rcases List.mem_cons.mp hmem with rfl | hmem
      · exact hlt
      · exact String.lt_trans hlt (hhead other hmem)
    · next hlt =>
      split
      · exact h
      · next hne =>
        refine List.pairwise_cons.mpr ⟨fun other hmem => ?_, ih hrest⟩
        rcases mem_insertName.mp hmem with rfl | hmem
        · exact lt_of_not_lt_of_ne hlt hne
        · exact hhead other hmem

/-- Adds a name; a set that holds it already is left as it is. -/
def insert (set : NameSet) (name : String) : NameSet :=
  ⟨insertName name set.names, pairwise_insertName set.ascending⟩

/-- Takes a name out, if it is there. -/
def erase (set : NameSet) (name : String) : NameSet :=
  ⟨set.names.filter (· ≠ name), set.ascending.filter _⟩

/-- The names of a list, whatever their order and repetitions. -/
def ofList (names : List String) : NameSet :=
  names.foldl insert empty

@[simp] theorem not_mem_empty {name : String} : ¬ name ∈ empty := by
  simp [mem_def, empty]

@[simp] theorem mem_insert {name other : String} {set : NameSet} :
    other ∈ set.insert name ↔ other = name ∨ other ∈ set :=
  mem_insertName

@[simp] theorem mem_erase {name other : String} {set : NameSet} :
    other ∈ set.erase name ↔ other ∈ set ∧ other ≠ name := by
  simp [mem_def, erase]

theorem mem_foldl_insert {name : String} {names : List String} {set : NameSet} :
    name ∈ names.foldl insert set ↔ name ∈ names ∨ name ∈ set := by
  induction names generalizing set with
  | nil => simp
  | cons head rest ih => simp only [List.foldl_cons, ih, mem_insert, List.mem_cons]; grind

@[simp] theorem mem_ofList {name : String} {names : List String} :
    name ∈ ofList names ↔ name ∈ names := by
  simp [ofList, mem_foldl_insert]

private theorem names_eq_of_mem_iff {xs ys : List String} (hx : xs.Pairwise (· < ·))
    (hy : ys.Pairwise (· < ·)) (h : ∀ name, name ∈ xs ↔ name ∈ ys) : xs = ys := by
  induction xs generalizing ys with
  | nil =>
    cases ys with
    | nil => rfl
    | cons y rest => exact absurd ((h y).mpr (by simp)) (by simp)
  | cons x xrest ih =>
    cases ys with
    | nil => exact absurd ((h x).mp (by simp)) (by simp)
    | cons y yrest =>
      obtain ⟨hx1, hx2⟩ := List.pairwise_cons.mp hx
      obtain ⟨hy1, hy2⟩ := List.pairwise_cons.mp hy
      have hxy : x = y := by
        rcases List.mem_cons.mp ((h x).mp (by simp)) with heq | hmem
        · exact heq
        · rcases List.mem_cons.mp ((h y).mpr (by simp)) with heq | hmem'
          · exact heq.symm
          · exact absurd (hx1 y hmem') (String.lt_asymm (hy1 x hmem))
      subst hxy
      congr 1
      refine ih hx2 hy2 fun name => ?_
      constructor
      · intro hmem
        rcases List.mem_cons.mp ((h name).mp (List.mem_cons_of_mem _ hmem)) with rfl | hm
        · exact absurd (hx1 name hmem) (String.lt_irrefl name)
        · exact hm
      · intro hmem
        rcases List.mem_cons.mp ((h name).mpr (List.mem_cons_of_mem _ hmem)) with rfl | hm
        · exact absurd (hy1 name hmem) (String.lt_irrefl name)
        · exact hm

/-- Two sets with the same members are equal. -/
theorem eq_of_mem_iff {a b : NameSet} (h : ∀ name, name ∈ a ↔ name ∈ b) : a = b := by
  obtain ⟨xs, hx⟩ := a
  obtain ⟨ys, hy⟩ := b
  obtain rfl := names_eq_of_mem_iff hx hy h
  rfl

end NameSet

end RedactedBundle
