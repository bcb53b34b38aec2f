import RedactedBundle.Template.Value

/-!
# Engines for templates

How a template is compiled and rendered is left to an engine, which has to take the built-in
template.

## Main definitions

- `builtinTemplate`, `markdownTemplate`: the built-in template
- `TemplateSource`: a template before it is compiled
- `TemplateEngine`: an engine for templates
-/

namespace RedactedBundle

/-- The name of the built-in template. -/
def builtinTemplate : String := "bundle_markdown"

/-- The built-in template: a title, the number of files, and each file in a code block. -/
def markdownTemplate : String :=
  "# \x7b\x7b title \x7d\x7d\n" ++
  "**Total files:** \x7b\x7b count \x7d\x7d\n" ++
  "\n" ++
  "\x7b% for file in files %\x7d\n" ++
  "## File: `\x7b\x7b file.name \x7d\x7d`\n" ++
  "```\x7b\x7b language \x7d\x7d\n" ++
  "\x7b\x7b file.contents \x7d\x7d\n" ++
  "```\n" ++
  "---\n" ++
  "\x7b% endfor %\x7d\n"

/-- A template: the name under which it is compiled, and its text. -/
structure TemplateSource where
  name : String
  text : String
  deriving Repr, DecidableEq, Inhabited

/-- An engine for templates. -/
class TemplateEngine where
  /-- The template of a name that a text spells, as what it renders values to; `none` for a text
  that spells no template, or values that it cannot render. The flags ask for dropping the line end
  behind each block tag, and the indent in front of it. -/
  compile? (trimBlocks lstripBlocks : Bool) (name source : String) :
    Option (List (String × Template.Value) → Option String)
  /-- The text of the built-in template spells one, whatever its name is. -/
  takesBuiltin (name : String) : (compile? true true name markdownTemplate).isSome

end RedactedBundle
