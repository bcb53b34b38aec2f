/-!
# Prompts

A prompt asks for one line of text. It remembers what the text is for as long as it is open.

## Main definitions

- `Prompt`: what is asked for, and the text so far
- `Prompt.submit?`: taking the text
-/

namespace RedactedBundle

/-- What the text of a prompt is for. -/
inductive PromptKind where
  | folder
  | url
  deriving Repr, DecidableEq, Inhabited

/-- A prompt with the text so far; it is open if it asks for something. -/
structure Prompt where
  kind : Option PromptKind := none
  input : String := ""
  deriving Repr, DecidableEq, Inhabited

namespace Prompt

/-- The prompt that asks for nothing. -/
def closed : Prompt := {}

/-- A prompt for a text, with some of it given. -/
def ask (kind : PromptKind) (input : String) : Prompt := ⟨some kind, input⟩

def isOpen (prompt : Prompt) : Bool := prompt.kind.isSome

/-- The prompt with a character put at the end of the text. -/
def push (prompt : Prompt) (c : Char) : Prompt := { prompt with input := prompt.input.push c }

/-- The prompt without the last character of the text. -/
def dropLast (prompt : Prompt) : Prompt :=
  { prompt with input := String.ofList prompt.input.toList.dropLast }

/-- Closes an open prompt: what its text is for, and the text. -/
def submit? (prompt : Prompt) : Option (PromptKind × String) :=
  prompt.kind.map (·, prompt.input)

/-- The prompt after its text was taken; one that is not open stays as it is. -/
def submitted (prompt : Prompt) : Prompt := if prompt.isOpen then closed else prompt

end Prompt

end RedactedBundle
