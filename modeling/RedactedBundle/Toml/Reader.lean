import RedactedBundle.Toml.Value

/-!
# Readers of TOML documents

How a text is read as a TOML document is left to a reader. The fault of a text that it refuses is
told by the line with a mark under the place.

## Main definitions

- `Toml.Fault`: a place in a document with what is wrong there
- `Toml.Fault.report`: the fault in words
- `TomlReader`: a reader of documents
-/

namespace RedactedBundle

/-- A place in a document, given by the text before it and the text behind, with what is wrong
there. -/
structure Toml.Fault where
  before : List Char
  behind : List Char
  reason : String
  deriving Repr, DecidableEq, Inhabited

namespace Toml.Fault

/-- The number of the line, counted from one. -/
def line (fault : Fault) : Nat := fault.before.count '\n' + 1

/-- What stands before the place in its line. -/
def indent (fault : Fault) : List Char :=
  (fault.before.reverse.takeWhile (· ≠ '\n')).reverse

/-- The fault in words: the place, the line with a mark under the place, and what is wrong. -/
def report (fault : Fault) : String :=
  let number := toString fault.line
  let gutter := String.ofList (.replicate (number.length + 1) ' ')
  let text := String.ofList (fault.indent ++ fault.behind.takeWhile (· ≠ '\n'))
  let mark := String.ofList (.replicate (fault.indent.length + 1) ' ')
  "TOML parse error at line " ++ number ++ ", column " ++ toString (fault.indent.length + 1) ++
    "\n" ++ gutter ++ "|\n" ++ number ++ " | " ++ text ++ "\n" ++ gutter ++ "|" ++ mark ++ "^\n" ++
    fault.reason ++ "\n"

end Toml.Fault

/-- A reader of TOML documents. -/
class TomlReader where
  /-- The table of a document, unless the text is none. -/
  parse? : List Char → Option (List (String × Toml.Value))
  /-- The fault of a text, if it lies in what the document is made of. -/
  fault? : List Char → Option Toml.Fault

end RedactedBundle
