/-!
# Languages of name patterns

Files are chosen by patterns that their names match. How a pattern is spelled and what it matches is
left to a language of patterns; here is what the program makes of it: names are matched against
several patterns at once, each of which has to be valid.

## Main definitions

- `PatternLanguage`: a language of patterns
- `PatternLanguage.matcher`: matching names against several patterns
-/

namespace RedactedBundle

/-- A language of patterns for the names of files. -/
class PatternLanguage where
  /-- What is wrong with a text that spells no pattern. -/
  fault? : String → Option String
  /-- What keeps patterns, each of them valid, from being matched together. -/
  unbuildable? : List String → Option String
  /-- The pattern that a text spells matches a name. -/
  isMatch : String → String → Bool

/-- Why names cannot be matched against patterns. -/
inductive PatternFault where
  /-- A text spells no pattern. -/
  | invalid (text reason : String)
  | unbuildable (reason : String)
  deriving Repr, DecidableEq, Inhabited

def PatternFault.message : PatternFault → String
  | .invalid text reason => "invalid extension pattern '" ++ text ++ "': " ++ reason
  | .unbuildable reason => "failed to build extension matcher: " ++ reason

namespace PatternLanguage

variable [PatternLanguage]

/-- Tells of a name whether it matches one of several patterns. -/
def matcher (texts : List String) : Except PatternFault (String → Bool) :=
  match texts.findSome? fun text => (fault? text).map (PatternFault.invalid text) with
  | some fault => .error fault
  | none =>
    match unbuildable? texts with
    | some reason => .error (.unbuildable reason)
    | none => .ok fun name => texts.any (isMatch · name)

end PatternLanguage

end RedactedBundle
