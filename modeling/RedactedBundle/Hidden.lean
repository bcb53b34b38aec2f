import RedactedBundle.NameSet

/-!
# Hidden names

Which classes and which methods of a file are hidden. Hiding goes by name alone: a hidden
method name hides every method of that name, whichever class declares it.

## Main definitions

- `Hidden`: the hidden class names and the hidden method names
- `Hidden.setClass`, `Hidden.setMethod`: hiding and showing one name
-/

namespace RedactedBundle

/-- The hidden class names and the hidden method names, kept apart. -/
structure Hidden where
  classes : NameSet
  methods : NameSet
  deriving Inhabited

namespace Hidden

/-- Nothing is hidden. -/
def empty : Hidden := ⟨NameSet.empty, NameSet.empty⟩

/-- The hidden names of two lists, whatever their order and repetitions. -/
def ofLists (classes methods : List String) : Hidden :=
  ⟨NameSet.ofList classes, NameSet.ofList methods⟩

def isEmpty (hidden : Hidden) : Bool :=
  hidden.classes.isEmpty && hidden.methods.isEmpty

/-- Hides or shows the classes of a name. -/
def setClass (hidden : Hidden) (name : String) (hide : Bool) : Hidden :=
  { hidden with
    classes := if hide then hidden.classes.insert name else hidden.classes.erase name }

/-- Hides or shows the methods of a name. -/
def setMethod (hidden : Hidden) (name : String) (hide : Bool) : Hidden :=
  { hidden with
    methods := if hide then hidden.methods.insert name else hidden.methods.erase name }

/-- Setting the class name to `hide` would change the set. -/
def changesClass (hidden : Hidden) (name : String) (hide : Bool) : Bool :=
  decide (name ∈ hidden.classes) != hide

/-- Setting the method name to `hide` would change the set. -/
def changesMethod (hidden : Hidden) (name : String) (hide : Bool) : Bool :=
  decide (name ∈ hidden.methods) != hide

@[simp] theorem mem_classes_setClass {hidden : Hidden} {name other : String} {hide : Bool} :
    other ∈ (hidden.setClass name hide).classes ↔
      if other = name then hide = true else other ∈ hidden.classes := by
  cases hide <;> by_cases h : other = name <;> simp [setClass, h]

@[simp] theorem mem_methods_setMethod {hidden : Hidden} {name other : String} {hide : Bool} :
    other ∈ (hidden.setMethod name hide).methods ↔
      if other = name then hide = true else other ∈ hidden.methods := by
  cases hide <;> by_cases h : other = name <;> simp [setMethod, h]

@[simp] theorem methods_setClass {hidden : Hidden} {name : String} {hide : Bool} :
    (hidden.setClass name hide).methods = hidden.methods := rfl

@[simp] theorem classes_setMethod {hidden : Hidden} {name : String} {hide : Bool} :
    (hidden.setMethod name hide).classes = hidden.classes := rfl

end Hidden

end RedactedBundle
