import RedactedBundle.Template.Expression

/-!
# Bodies of templates

The tree of a template: its texts, outputs and blocks. A block that is unknown, not closed or
malformed makes the whole template invalid.

The language is that of the templates in use. It has no macros, no calls of them and no recursive
loops, so a template with one of these is invalid here although another engine may take it. What is
proved of documents holds of any engine that renders plain templates.

## Main definitions

- `Node`: a part of a template
- `Body.ofText?`: the parts of a template
-/

namespace RedactedBundle.Template

/-- A part of a template. -/
inductive Node where
  | text (s : String)
  | output (e : Expr)
  /-- Parts for each element of a value that passes a condition, or other parts if there is none. -/
  | loop (targets : List String) (items : Expr) (condition : Option Expr)
      (body otherwise : List Node)
  | branch (test : Expr) (yes no : List Node)
  | assign (targets : List String) (e : Expr)
  /-- The text of some parts under a name, sent through filters. -/
  | capture (target : String) (filters : Expr) (body : List Node)
  /-- The text of some parts, sent through filters. -/
  | filtered (filters : Expr) (body : List Node)
  /-- Parts with variables of their own. -/
  | scoped (targets : List (List String)) (values : List Expr) (body : List Node)
  /-- A reference to another template, which there is none of. -/
  | absent
  deriving Inhabited

namespace Body

/-- The name that stands for the text sent through filters. -/
def captured : String := ""

/-- Names that cannot be assigned to. -/
def reserved : List String :=
  ["true", "True", "false", "False", "none", "None", "loop", "self"]

/-- Reads the names that an assignment is to, separated by commas and perhaps in parentheses. The
first number bounds the number of names. -/
def targets? : Nat → List Token → Option (List String × List Token)
  | 0, _ => none
  | n + 1, tokens =>
    match tokens with
    | .word name :: rest =>
      if reserved.contains name then none
      else
        match rest with
        | .mark "," :: rest => (targets? n rest).map fun (names, rest) => (name :: names, rest)
        | rest => some ([name], rest)
    | .mark "(" :: rest =>
      match targets? n rest with
      | some (names, .mark ")" :: rest) => some (names, rest)
      | _ => none
    | _ => none

/-- Reads filters separated by bars that apply to the captured text. -/
def filters? (tokens : List Token) : Option Expr :=
  Expr.ofTokens? (.word captured :: .mark "|" :: tokens)

/-- Reads the assignments of a block with variables of its own. The first number bounds their
number. -/
def bindings? : Nat → List Token → Option (List (List String) × List Expr)
  | 0, _ => none
  | _, [] => some ([], [])
  | n + 1, tokens =>
    (targets? 1 tokens).bind fun (names, rest) =>
      (Expr.afterMark? "=" rest).bind fun rest =>
        (Expr.read? rest).bind fun (e, rest) =>
          match rest with
          | .mark "," :: rest =>
            if rest.isEmpty then none
            else (bindings? n rest).map fun (targets, values) => (names :: targets, e :: values)
          | [] => some ([names], [e])
          | _ => none

/-- Where a run of parts ends: at the end of the template, or at a block with a word. -/
inductive Ending where
  | template
  | word (text : String) (tokens : List Token) (rest : List Segment)

/-- The words of blocks that end a run of parts. -/
def endings : List String :=
  ["endfor", "else", "elif", "endif", "endset", "endwith", "endfilter", "endblock",
    "endautoescape", "endmacro", "endcall"]

/-- The tokens behind a loop's targets: the value to go through and the condition on its
elements. -/
def loopHead? (tokens : List Token) : Option (List String × Expr × Option Expr) :=
  (targets? tokens.length tokens).bind fun (names, rest) =>
    match rest with
    | .word "in" :: rest =>
      (Expr.readPlain? rest).bind fun (items, rest) =>
        match rest with
        | .word "if" :: rest =>
          (Expr.read? rest).bind fun (condition, rest) =>
            if rest.isEmpty then some (names, items, some condition) else none
        | [] => some (names, items, none)
        | _ => none
    | _ => none

/-- The rest of a template behind a block that must be a certain closing one. -/
def closed? (word : String) (bare : Bool) : Ending → Option (List Segment)
  | .word text tokens rest => if text = word && (!bare || tokens.isEmpty) then some rest else none
  | .template => none

mutual

/-- Reads parts up to the end of the template or to a block that ends them. The first number
bounds the number of steps. -/
def parts? : Nat → List Segment → Option (List Node × Ending)
  | 0, _ => none
  | _, [] => some ([], .template)
  | n + 1, .text cs :: rest =>
    (parts? n rest).map fun (nodes, ending) => (.text (String.ofList cs) :: nodes, ending)
  | n + 1, .output tokens :: rest =>
    (Expr.ofTokens? tokens).bind fun e =>
      (parts? n rest).map fun (nodes, ending) => (.output e :: nodes, ending)
  | n + 1, .block tokens :: rest =>
    match tokens with
    | .word word :: tokens =>
      if endings.contains word then some ([], .word word tokens rest)
      else
        (block? n word tokens rest).bind fun (node, rest) =>
          (parts? n rest).map fun (nodes, ending) => (node :: nodes, ending)
    | _ => none

/-- Reads a block behind its word, with all that belongs to it. -/
def block? : Nat → String → List Token → List Segment → Option (Node × List Segment)
  | 0, _, _, _ => none
  | n + 1, word, tokens, rest =>
    if word = "for" then
      (loopHead? tokens).bind fun (names, items, condition) =>
        (parts? n rest).bind fun (body, ending) =>
          match ending with
          | .word "else" [] rest =>
            (parts? n rest).bind fun (otherwise, ending) =>
              (closed? "endfor" true ending).map fun rest =>
                (.loop names items condition body otherwise, rest)
          | ending =>
            (closed? "endfor" true ending).map fun rest =>
              (.loop names items condition body [], rest)
    else if word = "if" then branch? n tokens rest
    else if word = "set" then
      (targets? tokens.length tokens).bind fun (names, after) =>
        match after with
        | .mark "=" :: value => (Expr.ofTokens? value).map fun e => (.assign names e, rest)
        | after =>
          let filters := match after with
            | [] => some (Expr.variable captured)
            | .mark "|" :: filters => filters? filters
            | _ => none
          match names, filters with
          | [name], some filters =>
            (parts? n rest).bind fun (body, ending) =>
              (closed? "endset" true ending).map fun rest => (.capture name filters body, rest)
          | _, _ => none
    else if word = "with" then
      (bindings? (tokens.length + 1) tokens).bind fun (targets, values) =>
        (parts? n rest).bind fun (body, ending) =>
          (closed? "endwith" true ending).map fun rest => (.scoped targets values body, rest)
    else if word = "filter" then
      (filters? tokens).bind fun filters =>
        (parts? n rest).bind fun (body, ending) =>
          (closed? "endfilter" true ending).map fun rest => (.filtered filters body, rest)
    else if word = "block" then
      match tokens with
      | [.word _] =>
        (parts? n rest).bind fun (body, ending) =>
          (closed? "endblock" false ending).map fun rest => (.scoped [] [] body, rest)
      | _ => none
    else if word = "autoescape" then
      (Expr.ofTokens? tokens).bind fun _ =>
        (parts? n rest).bind fun (body, ending) =>
          (closed? "endautoescape" true ending).map fun rest => (.scoped [] [] body, rest)
    else if word = "include" then
      (Expr.read? tokens).bind fun (_, tail) =>
        match tail with
        | [] => some (.absent, rest)
        | [.word "ignore", .word "missing"] => some (.text "", rest)
        | _ => none
    else if word = "extends" then (Expr.ofTokens? tokens).map fun _ => (.absent, rest)
    else if word = "import" || word = "from" then
      (Expr.read? tokens).map fun _ => (.absent, rest)
    else if word = "do" then
      (Expr.ofTokens? tokens).bind fun e =>
        match e with
        | .call .. => some (.assign [captured] e, rest)
        | _ => none
    else none

/-- Reads a condition with the parts that depend on it. -/
def branch? : Nat → List Token → List Segment → Option (Node × List Segment)
  | 0, _, _ => none
  | n + 1, tokens, rest =>
    (Expr.ofTokens? tokens).bind fun test =>
      (parts? n rest).bind fun (yes, ending) =>
        match ending with
        | .word "elif" tokens rest =>
          (branch? n tokens rest).map fun (node, rest) => (.branch test yes [node], rest)
        | .word "else" [] rest =>
          (parts? n rest).bind fun (no, ending) =>
            (closed? "endif" true ending).map fun rest => (.branch test yes no, rest)
        | ending => (closed? "endif" true ending).map fun rest => (.branch test yes [], rest)

end

/-- The parts of a template. -/
def ofText? (trimBlocks lstripBlocks : Bool) (source : String) : Option (List Node) :=
  (Segment.ofText? trimBlocks lstripBlocks source).bind fun segments =>
    match parts? (2 * segments.length + 2) segments with
    | some (nodes, .template) => some nodes
    | _ => none

end Body

end RedactedBundle.Template
