/-!
# Values of TOML documents

The values of a TOML document, and the tables of a document while it is read. A table may be
opened by a header only once and may not be added to once it is complete, so it is recorded how
each table came about.

## Main definitions

- `Toml.Value`: a value
- `Toml.Slot`: what stands under a key while a document is read
- `Toml.insertDotted?`, `Toml.openTable?`, `Toml.openElement?`: adding to a document
-/

namespace RedactedBundle.Toml

/-- A value of a TOML document; dates and times are kept as they are written, and of a
floating-point number only its being one. -/
inductive Value where
  | string (text : String)
  | integer (n : Int)
  | float
  | boolean (b : Bool)
  | datetime (text : String)
  | array (elements : List Value)
  | table (entries : List (String × Value))
  deriving Repr, Inhabited

/-- How a table came about: by a header of its own, on the way to a table of another header, or
by a dotted key. -/
inductive Origin where
  | header
  | implied
  | dotted
  deriving Repr, DecidableEq, Inhabited

/-- What stands under a key: a finished value, a table, or the tables of an array of tables,
last one first. -/
inductive Slot where
  | value (v : Value)
  | table (origin : Origin) (entries : List (String × Slot))
  | tables (elements : List (List (String × Slot)))
  deriving Repr, Inhabited

/-- The keys of a table with what stands under them. -/
abbrev Slots := List (String × Slot)

/-- What stands under a key in a list of keys with values. -/
def find? {α : Type} (key : String) : List (String × α) → Option α
  | [] => none
  | (other, value) :: rest => if other = key then some value else find? key rest

/-- Puts a slot under a key, in the place of the one before. -/
def put (key : String) (slot : Slot) : Slots → Slots
  | [] => [(key, slot)]
  | (other, old) :: rest =>
    if other = key then (key, slot) :: rest else (other, old) :: put key slot rest

/-- Adds a value under a dotted key, given by the keys before the last and the last. A table on
the way is added to only if no header opened it, and the last one only if dotted keys made it. -/
def insertDotted? (key : String) (v : Value) : List String → Slots → Option Slots
  | [], slots =>
    match find? key slots with
    | none => some (put key (.value v) slots)
    | some _ => none
  | step :: rest, slots =>
    match find? step slots with
    | none => (insertDotted? key v rest []).map fun inner => put step (.table .dotted inner) slots
    | some (.table origin inner) =>
      if origin = .header || (rest.isEmpty && origin ≠ .dotted) then none
      else (insertDotted? key v rest inner).map fun inner => put step (.table origin inner) slots
    | some (.tables (last :: others)) =>
      if rest.isEmpty then none
      else (insertDotted? key v rest last).map fun last => put step (.tables (last :: others)) slots
    | some _ => none

/-- Changes the slots under a path of keys, through the last element of an array of tables;
tables that are missing on the way are made. -/
def change? (f : Slots → Option Slots) : List String → Slots → Option Slots
  | [], slots => f slots
  | step :: rest, slots =>
    match find? step slots with
    | none => (change? f rest []).map fun inner => put step (.table .implied inner) slots
    | some (.table origin inner) =>
      (change? f rest inner).map fun inner => put step (.table origin inner) slots
    | some (.tables (last :: others)) =>
      (change? f rest last).map fun last => put step (.tables (last :: others)) slots
    | some _ => none

/-- Opens the table of a header: a new one, or one that other headers have implied. -/
def openTable? (key : String) (slots : Slots) : Option Slots :=
  match find? key slots with
  | none => some (put key (.table .header []) slots)
  | some (.table .implied inner) => some (put key (.table .header inner) slots)
  | some _ => none

/-- Opens a new element of an array of tables. -/
def openElement? (key : String) (slots : Slots) : Option Slots :=
  match find? key slots with
  | none => some (put key (.tables [[]]) slots)
  | some (.tables elements) => some (put key (.tables ([] :: elements)) slots)
  | some _ => none

mutual

/-- The value that stands under a key of a finished document. -/
def Slot.toValue : Slot → Value
  | .value v => v
  | .table _ entries => .table (entriesOf entries)
  | .tables elements => .array (elementsOf elements).reverse

def entriesOf : List (String × Slot) → List (String × Value)
  | [] => []
  | (key, slot) :: rest => (key, slot.toValue) :: entriesOf rest

def elementsOf : List (List (String × Slot)) → List Value
  | [] => []
  | element :: rest => .table (entriesOf element) :: elementsOf rest

end

end RedactedBundle.Toml
