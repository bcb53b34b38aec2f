import RedactedBundle.Prompt
import RedactedBundle.Screen.Frame

/-!
# Panel of the prompt

An open prompt lies over the middle of an area.

## Main definitions

- `Panel.prompt`: draws the panel
-/

namespace RedactedBundle

/-- The title of the panel. -/
def PromptKind.title : PromptKind → String
  | .folder => "Open folder · enter to confirm, esc to cancel"
  | .url => "GitHub URL · enter to confirm, esc to cancel"

namespace Panel

/-- Where a prompt over an area lies: ten columns are left free, but it is not wider than 80. -/
def promptArea (area : Area) : Area :=
  let width := min (area.width - 10) 80
  { x := area.x + (area.width - width) / 2
    y := area.y + (area.height - 4) / 2
    width
    height := min 3 area.height }

/-- Draws a prompt over an area, if it is open. -/
def prompt (prompt : Prompt) (area : Area) (screen : Screen) : Screen :=
  match prompt.kind with
  | none => screen
  | some kind =>
    let area := promptArea area
    (screen.clear area).writeFramed area ⟨kind.title, .ink .cyan⟩ (.ink .white)
      ((Text.lines (prompt.input.toList ++ ['▏'])).map fun line => [⟨line, .plain⟩])

end Panel

end RedactedBundle
