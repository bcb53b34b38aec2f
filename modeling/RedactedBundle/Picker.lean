/-!
# Pickers

A list of items of which one is chosen, as long as there are any.

## Main definitions

- `Picker`: items with the position of the chosen one
- `Picker.next`, `Picker.previous`: choosing a neighbour
- `Picker.InRange`: the position is that of an item, if there are any
-/

namespace RedactedBundle

/-- Items with the position of the chosen one. -/
structure Picker (α : Type) where
  items : List α
  index : Nat
  deriving Repr, DecidableEq, Inhabited

namespace Picker

variable {α : Type}

/-- The picker of some items, with the first one chosen. -/
def ofList (items : List α) : Picker α := ⟨items, 0⟩

/-- The chosen item. -/
def chosen? (picker : Picker α) : Option α := picker.items[picker.index]?

/-- The item after the chosen one is chosen; the last one stays so. -/
def next (picker : Picker α) : Picker α :=
  if picker.index + 1 < picker.items.length then { picker with index := picker.index + 1 }
  else picker

/-- The item before the chosen one is chosen; the first one stays so. -/
def previous (picker : Picker α) : Picker α := { picker with index := picker.index - 1 }

/-- The position is that of an item, and 0 if there is no item. -/
def InRange (picker : Picker α) : Prop :=
  picker.index < picker.items.length ∨ picker.index = 0 ∧ picker.items = []

@[simp] theorem items_ofList (items : List α) : (ofList items).items = items := rfl

@[simp] theorem items_next (picker : Picker α) : picker.next.items = picker.items := by
  rw [next]; split <;> rfl

@[simp] theorem items_previous (picker : Picker α) : picker.previous.items = picker.items := rfl

theorem inRange_ofList (items : List α) : (ofList items).InRange := by
  cases items <;> simp [InRange, ofList]

theorem InRange.next {picker : Picker α} (h : picker.InRange) : picker.next.InRange := by
  rw [Picker.next]
  split
  · next hlt => exact .inl hlt
  · exact h

theorem InRange.previous {picker : Picker α} (h : picker.InRange) : picker.previous.InRange := by
  rcases h with hlt | ⟨hzero, hnil⟩
  · exact .inl (Nat.lt_of_le_of_lt (Nat.sub_le _ _) hlt)
  · exact .inr ⟨by simp [Picker.previous, hzero], hnil⟩

end Picker

end RedactedBundle
