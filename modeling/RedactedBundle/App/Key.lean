/-!
# Keys

The keys of a terminal, as far as they have a use.

## Main definitions

- `KeyCode`, `Key`: a key that is pressed
-/

namespace RedactedBundle

/-- A key without the modifiers held down with it. -/
inductive KeyCode where
  | char (c : Char)
  | enter
  | escape
  | tab
  | backTab
  | backspace
  | up
  | down
  | left
  | right
  | pageUp
  | pageDown
  | home
  /-- A key that has no use. -/
  | other
  deriving Repr, DecidableEq, Inhabited

/-- A key with the modifiers held down with it. -/
structure Key where
  code : KeyCode
  control : Bool := false
  alt : Bool := false
  shift : Bool := false
  deriving Repr, DecidableEq, Inhabited

/-- A key without modifiers. -/
def Key.plain (code : KeyCode) : Key := { code }

end RedactedBundle
