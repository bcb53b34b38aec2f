import RedactedBundle.Source.Outline
import RedactedBundle.Text.JsonString

/-!
# Outlines as text

An outline printed as an indented listing, or as JSON with one field a line.

## Main definitions

- `outlineText`: rows as an indented listing
- `outlineJson`: rows as JSON
-/

namespace RedactedBundle

/-- Two spaces for each level. -/
def indentation (depth : Nat) : String := String.ofList (List.replicate (2 * depth) ' ')

/-- A row as a line: a class by its depth, a method by four spaces. -/
def OutlineRow.line : OutlineRow → String
  | .class name kind depth => indentation depth ++ (OutlineRow.class name kind depth).label ++ "\n"
  | .method name returnType owner =>
    "    " ++ (OutlineRow.method name returnType owner).label ++ "\n"

/-- Rows as lines. -/
def outlineText (rows : List OutlineRow) : String := String.join (rows.map OutlineRow.line)

/-- The fields of a row with their values as JSON. -/
def OutlineRow.fields : OutlineRow → List (String × String)
  | .class name kind depth =>
    [("type", Text.jsonString "class"), ("name", Text.jsonString name),
      ("kind", Text.jsonString kind.keyword), ("depth", toString depth)]
  | .method name returnType owner =>
    [("type", Text.jsonString "method"), ("name", Text.jsonString name),
      ("return_type", Text.jsonString returnType), ("class", Text.jsonString owner)]

/-- A row as a JSON object within an array. -/
def OutlineRow.json (row : OutlineRow) : String :=
  "  \x7b\n" ++
    ",\n".intercalate (row.fields.map fun field =>
      "    " ++ Text.jsonString field.1 ++ ": " ++ field.2) ++
    "\n  \x7d"

/-- Rows as a JSON array. -/
def outlineJson (rows : List OutlineRow) : String :=
  if rows.isEmpty then "[]\n"
  else "[\n" ++ ",\n".intercalate (rows.map OutlineRow.json) ++ "\n]\n"

end RedactedBundle
