import RedactedBundle.Screen.Style

/-!
# Focus

How a panel looks with the focus and without it.

## Main definitions

- `Panel.frameStyle`, `Panel.chosenStyle`: the styles of a panel that can have the focus
-/

namespace RedactedBundle.Panel

/-- The frame of a panel. -/
def frameStyle (focused : Bool) : Style := .ink (if focused then .cyan else .darkGray)

/-- The chosen row of a panel. -/
def chosenStyle (focused : Bool) : Style :=
  { foreground := some .black
    background := some (if focused then .cyan else .gray)
    bold := true }

end RedactedBundle.Panel
