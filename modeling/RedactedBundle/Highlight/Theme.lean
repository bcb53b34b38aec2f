/-!
# Themes

The colour themes to choose from by name.

## Main definitions

- `themes`: the names of the themes
- `resolveTheme`: the theme that a name stands for
-/

namespace RedactedBundle

/-- The names of the themes, in ascending order. -/
def themes : List String :=
  ["InspiredGitHub", "Solarized (dark)", "Solarized (light)", "base16-eighties.dark",
    "base16-mocha.dark", "base16-ocean.dark", "base16-ocean.light"]

/-- The theme used for a name that is unknown. -/
def standardTheme : String := "base16-ocean.dark"

/-- Two texts are equal but for the case of ASCII letters. -/
def equalIgnoringCase (a b : String) : Bool :=
  a.toList.map Char.toLower = b.toList.map Char.toLower

/-- The theme that a name stands for: that of the very name, else the first one whose name is
equal but for case, else the standard one. -/
def resolveTheme (name : String) : String :=
  if themes.contains name then name
  else (themes.find? fun theme => equalIgnoringCase theme name).getD standardTheme

end RedactedBundle
