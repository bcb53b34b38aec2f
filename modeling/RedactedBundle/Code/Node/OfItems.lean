import RedactedBundle.Code.Item
import RedactedBundle.Code.Node

/-!
# Reading declarations

The items of a file are read into a syntax tree. Between the braces of a type or a namespace
each member is recognised by its first items: a type, a namespace, or a method, which is a
type and a name in front of parameters. Other members are passed over as a whole. At the top of
a file only types and namespaces are recognised.

## Main definitions

- `Node.ofItems`: the syntax tree of the items of a file
-/

namespace RedactedBundle

namespace Reading

/-- Words that cannot be names. -/
def reservedWords : List String :=
  ["abstract", "as", "base", "bool", "break", "byte", "case", "catch", "char", "checked",
    "class", "const", "continue", "decimal", "default", "delegate", "do", "double", "else",
    "enum", "event", "explicit", "extern", "false", "finally", "fixed", "float", "for",
    "foreach", "goto", "if", "implicit", "in", "int", "interface", "internal", "is", "lock",
    "long", "namespace", "new", "null", "object", "operator", "out", "override", "params",
    "private", "protected", "public", "readonly", "ref", "return", "sbyte", "sealed", "short",
    "sizeof", "stackalloc", "static", "string", "struct", "switch", "this", "throw", "true",
    "try", "typeof", "uint", "ulong", "unchecked", "unsafe", "ushort", "using", "virtual",
    "void", "volatile", "while"]

/-- Reserved words that name a type. -/
def typeWords : List String :=
  ["bool", "byte", "char", "decimal", "double", "float", "int", "long", "object", "sbyte",
    "short", "string", "uint", "ulong", "ushort", "void"]

/-- Words that may stand in front of any declaration. -/
def modifierWords : List String :=
  ["public", "private", "protected", "internal", "static", "abstract", "sealed", "virtual",
    "override", "readonly", "extern", "unsafe", "volatile", "new", "const", "fixed", "async",
    "partial", "required", "file"]

/-- The word of an item, if it can be a name. -/
def name? (item : Item) : Option String :=
  item.word?.bind fun text => if reservedWords.contains text then none else some text

/-- The items behind the attribute groups at the front. -/
def dropAttributes : List Item → List Item
  | .group .square _ _ _ :: rest => dropAttributes rest
  | items => items

/-- The items behind the modifiers at the front; `ref` is one in front of a struct. -/
def dropModifiers : List Item → List Item
  | [] => []
  | item :: rest =>
    match item.word? with
    | none => item :: rest
    | some text =>
      if modifierWords.contains text then dropModifiers rest
      else if text = "ref" && rest.head?.any fun next => next.isWord "struct" || next.isWord "partial" then
        dropModifiers rest
      else item :: rest

/-- The items behind attributes and modifiers. -/
def dropFront (items : List Item) : List Item := dropModifiers (dropAttributes items)

/-- The start of a type declaration: its sort, its name and the items behind the name. -/
def typeHead? : List Item → Option (ClassKind × Token × List Item)
  | first :: rest =>
    let named (kind : ClassKind) (items : List Item) : Option (ClassKind × Token × List Item) :=
      match items with
      | item :: rest => (name? item).map fun _ => (kind, item.first, rest)
      | [] => none
    match first.word? with
    | some "class" => named .plain rest
    | some "struct" => named .struct rest
    | some "interface" => named .interface rest
    | some "record" =>
      match rest with
      | second :: rest' =>
        if second.isWord "class" || second.isWord "struct" then named .record rest'
        else named .record rest
      | [] => none
    | _ => none
  | [] => none

/-- How the header of a type ends: in a group with its members, or in a semicolon. -/
inductive HeaderEnd where
  | members (opening : Token) (inner : List Item) (closing : Option Token)
  | semicolon (token : Token)

/-- The end of a type's header and the items behind it. Between `where` and the members a
keyword for a type is a constraint; anywhere else it shows that the header is broken off. -/
def headerEnd? (constraints : Bool) : List Item → Option (HeaderEnd × List Item)
  | [] => none
  | .group .curly opening inner closing :: rest => some (.members opening inner closing, rest)
  | .group .. :: rest => headerEnd? constraints rest
  | .token t :: rest =>
    match t.lexeme with
    | .mark ';' => some (.semicolon t, rest)
    -- No header has a value, so these items were no type.
    | .mark '=' | .arrow => none
    | .word text =>
      if text = "where" then headerEnd? true rest
      else if !constraints && ["class", "struct", "interface", "enum", "namespace"].contains text then
        none
      else headerEnd? constraints rest
    | _ => headerEnd? constraints rest

/-- The items behind type arguments, given the items behind their opening mark and the number
of further open marks. -/
def afterAngles? (depth : Nat) : List Item → Option (Nat × List Item)
  | [] => none
  | item :: rest =>
    match item.lexeme? with
    | some (.mark '<') => afterAngles? (depth + 1) rest
    | some (.mark '>') =>
      match depth with
      | 0 => some (item.stop, rest)
      | depth + 1 => afterAngles? depth rest
    | some (.mark ';') | some (.mark '=') | some .arrow => none
    | _ => if item.isGroup .curly then none else afterAngles? depth rest

/-- The items behind type arguments, if there are any at the front, and where they end. -/
def dropAngles (stop : Nat) : List Item → Nat × List Item
  | item :: rest =>
    if item.isMark '<' then (afterAngles? 0 rest).getD (stop, item :: rest) else (stop, item :: rest)
  | [] => (stop, [])

/-- The items behind the further parts of a dotted name, each with its type arguments, and
where the name ends. The first number bounds the number of parts. -/
def dropDotted : Nat → Nat → List Item → Nat × List Item
  | 0, stop, items => (stop, items)
  | n + 1, stop, items =>
    let (stop, items) := dropAngles stop items
    match items with
    | dot :: part :: rest =>
      if (dot.isMark '.' || dot.lexeme? = some .doubleColon) && (name? part).isSome then
        dropDotted n part.stop rest
      else (stop, items)
    | _ => (stop, items)

/-- The items behind the marks for nullable, pointer and array types, and where they end. -/
def dropSuffixes (stop : Nat) : List Item → Nat × List Item
  | item :: rest =>
    if item.isMark '?' || item.isMark '*' || item.isGroup .square then dropSuffixes item.stop rest
    else (stop, item :: rest)
  | [] => (stop, [])

/-- The items behind a type without the words for references, and where it ends. -/
def afterPlainType? : List Item → Option (Nat × List Item)
  | [] => none
  | item :: rest =>
    let finish (r : Nat × List Item) : Option (Nat × List Item) := some (dropSuffixes r.1 r.2)
    if item.isGroup .round then finish (item.stop, rest)
    else
      match item.word? with
      | none => none
      | some text =>
        if typeWords.contains text then finish (item.stop, rest)
        else if text = "delegate" then
          match rest with
          | star :: rest =>
            if star.isMark '*' then
              let rest := rest.dropWhile fun i => i.word?.isSome || i.isGroup .square
              finish (dropAngles star.stop rest)
            else none
          | [] => none
        else if reservedWords.contains text then none
        else finish (dropDotted rest.length item.stop rest)

/-- The items behind a type, and where it ends. -/
def afterType? (items : List Item) : Option (Nat × List Item) :=
  let items := if items.head?.any (·.isWord "scoped") then items.drop 1 else items
  let items := if items.head?.any (·.isWord "ref") then
      let rest := items.drop 1
      if rest.head?.any (·.isWord "readonly") then rest.drop 1 else rest
    else items
  afterPlainType? items

/-- The last part of a dotted name and the items behind it with its type parameters. The first
number bounds the number of parts. -/
def lastName? : Nat → List Item → Option (Token × List Item)
  | 0, _ => none
  | _, [] => none
  | n + 1, item :: rest =>
    if (name? item).isNone then none
    else
      let (_, rest) := dropAngles item.stop rest
      match rest with
      | dot :: after =>
        if dot.isMark '.' || dot.lexeme? = some .doubleColon then lastName? n after
        else some (item.first, rest)
      | [] => some (item.first, [])

/-- The items behind a member that is passed over: those behind its semicolon or its braces. A
value after an equals sign or an arrow goes on through braces up to the semicolon. -/
def afterMember (value : Bool) : List Item → List Item
  | [] => []
  | item :: rest =>
    if item.isMark ';' then rest
    else if item.isGroup .curly then
      if value || rest.head?.any (·.isMark '=') then afterMember true rest else rest
    else afterMember (value || item.isMark '=' || item.lexeme? = some .arrow) rest

/-- The items of a member from its parameters on, behind the word `operator`. -/
def fromParameters : List Item → List Item
  | [] => []
  | item :: rest => if item.isGroup .round then item :: rest else fromParameters rest

/-- The items up to a semicolon and those from it on. -/
def spanSemicolon : List Item → List Item × List Item
  | [] => ([], [])
  | item :: rest =>
    if item.isMark ';' then ([], item :: rest)
    else
      let (before, after) := spanSemicolon rest
      (item :: before, after)

/-- The items behind the constraints of type parameters. -/
def dropConstraints : List Item → List Item
  | [] => []
  | item :: rest =>
    if item.isGroup .curly || item.isMark ';' || item.lexeme? = some .arrow then item :: rest
    else dropConstraints rest

/-- The position behind the items of a list that are no longer in the rest of it. -/
def stopBefore (position : Nat) (items rest : List Item) : Nat :=
  Item.stopOf position (items.take (items.length - rest.length))

/-- The node of a comment or directive. -/
def commentNode (span : Span) : Node := .mk .comment span []

def leaf (kind : NodeKind) (t : Token) : Node := .mk kind t.span []

/-- The children of a method from behind its parameters on, the position where it ends and the
items behind it; nothing if its braces do not close. -/
def methodTail? (stop : Nat) (items : List Item) : Option (List Node × Nat × List Item) :=
  let tail := if items.head?.any (·.isWord "where") then dropConstraints items else items
  match tail with
  | .group .curly opening _ closing :: rest =>
    closing.map fun t => ([.mk .block ⟨opening.span.start, t.span.stop⟩ []], t.span.stop, rest)
  | .token t :: rest =>
    match t.lexeme with
    | .arrow =>
      let (value, after) := spanSemicolon rest
      let arrow := Node.mk .arrowClause ⟨t.span.start, Item.stopOf t.span.stop value⟩ []
      match after with
      | semicolon :: after =>
        -- Comments in front of the semicolon are children of their own between it and the arrow.
        let mark := semicolon.first
        some (arrow :: (mark.extras.map commentNode ++ [leaf .semicolon mark]), mark.span.stop,
          after)
      | [] => some ([arrow], arrow.span.stop, [])
    | .mark ';' => some ([leaf .semicolon t], t.span.stop, rest)
    | _ => some ([], stopBefore stop items tail, tail)
  | _ => some ([], stopBefore stop items tail, tail)

/-- What follows the attributes and modifiers of a member that is no type or namespace. -/
inductive Member where
  /-- A method, and the items behind it. -/
  | method (node : Node) (rest : List Item)
  /-- No method; reading goes on with these items. -/
  | other (rest : List Item)

/-- Reads a member that is no type and no namespace, given where its attributes begin. -/
def readMember (start : Nat) (items : List Item) : Member :=
  match items with
  | [] => .other []
  | first :: rest =>
    if first.isMark '~' || ["enum", "event", "using", "implicit", "explicit"].any first.isWord ||
        (first.isWord "delegate" && !rest.head?.any (·.isMark '*')) then
      .other (afterMember false
        (if first.isWord "implicit" || first.isWord "explicit" then fromParameters rest else rest))
    else
      match afterType? items with
      | none => .other rest
      | some (typeStop, afterType) =>
        let returns := Node.mk .returnType ⟨first.start, typeStop⟩ []
        match lastName? afterType.length afterType with
        | some (name, parameters :: tail) =>
          if parameters.isGroup .round then
            match methodTail? parameters.stop tail with
            | some (nodes, stop, rest) =>
              .method (.mk .methodDecl ⟨start, stop⟩ (returns :: leaf .identifier name :: nodes))
                rest
            | none => .other (afterMember false tail)
          else if parameters.isGroup .curly || parameters.isGroup .square ||
              parameters.isMark '=' || parameters.isMark ';' || parameters.isMark ',' ||
              parameters.lexeme? = some .arrow then
            .other (afterMember false (parameters :: tail))
          else if parameters.isWord "this" then .other (afterMember false tail)
          else .other (parameters :: tail)
        | some (_, []) => .other []
        | none =>
          match afterType with
          | [] => .other []
          | next :: tail =>
            if next.isWord "operator" then .other (afterMember false (fromParameters tail))
            else if next.isWord "this" || next.isGroup .round then .other (afterMember false tail)
            else .other afterType

/-- The semicolon directly behind a closing brace, with the items behind it. -/
def adjacentSemicolon (stop : Nat) : List Item → List Node × Nat × List Item
  | .token t :: rest =>
    if t.lexeme = .mark ';' && t.span.start = stop then ([leaf .semicolon t], t.span.stop, rest)
    else ([], stop, .token t :: rest)
  | items => ([], stop, items)

/-- The node of the members between two braces. -/
def memberList (opening : Token) (members : List Node) (closing : Token) : Node :=
  .mk .declarationList ⟨opening.span.start, closing.span.stop⟩
    (leaf .openingBrace opening :: (members ++ [leaf .closingBrace closing]))

/-- The node of a type declaration whose members have been read, and the items behind it. A
body that does not close makes it an error around its members. -/
def typeNode (start : Nat) (kind : ClassKind) (name : Token) (members : List Node) :
    HeaderEnd → List Item → Node × List Item
  | .semicolon t, rest =>
    (.mk (.typeDecl kind) ⟨start, t.span.stop⟩ [leaf .identifier name, leaf .semicolon t], rest)
  | .members opening inner none, rest =>
    (.mk .error ⟨start, Item.stopOf opening.span.stop inner⟩ members, rest)
  | .members opening _ (some closing), rest =>
    let (marks, stop, rest) := adjacentSemicolon closing.span.stop rest
    (.mk (.typeDecl kind) ⟨start, stop⟩
      (leaf .identifier name :: memberList opening members closing :: marks), rest)

/-- The items of a namespace behind its name. -/
def afterNamespaceName (items : List Item) : List Item :=
  items.dropWhile fun item => (name? item).isSome || item.isMark '.' || item.lexeme? = some .doubleColon

/-- The node of a namespace whose members have been read. -/
def namespaceNode (start : Nat) (opening : Token) (inner : List Item) (closing : Option Token)
    (members : List Node) : Node :=
  match closing with
  | some t =>
    .mk .namespaceDecl ⟨start, t.span.stop⟩ [memberList opening members t]
  | none => .mk .error ⟨start, Item.stopOf opening.span.stop inner⟩ members

/-- An attribute group for the whole file rather than for the declaration behind it. -/
def isFileAttribute : Item → Bool
  | .group .square _ (target :: colon :: _) _ =>
    (target.isWord "assembly" || target.isWord "module") && colon.isMark ':'
  | _ => false

mutual

/-- Reads the members between the braces of a type or a namespace. The first number bounds the
number of steps. -/
def readMembers : Nat → List Item → List Node
  | 0, _ => []
  | _, [] => []
  | n + 1, item :: items =>
    let front := dropFront (item :: items)
    match readDeclaration n item.start front with
    | some (node, rest) => node :: readMembers n rest
    | none =>
      match readMember item.start front with
      | .method node rest => node :: readMembers n rest
      | .other rest => readMembers n rest

/-- Reads the top of a file. The first number bounds the number of steps. -/
def readUnit : Nat → List Item → List Node
  | 0, _ => []
  | _, [] => []
  | n + 1, item :: items =>
    if isFileAttribute item then readUnit n items
    else
      match readDeclaration n item.start (dropFront (item :: items)) with
      | some (node, rest) => node :: readUnit n rest
      -- Statements at the top of a file may go on with a type; they are passed item by item.
      | none => readUnit n items

/-- Reads a type or a namespace behind its attributes and modifiers, given where they begin. A
namespace for the rest of the file takes in no items behind it. -/
def readDeclaration : Nat → Nat → List Item → Option (Node × List Item)
  | 0, _, _ => none
  | n + 1, start, items =>
    match typeHead? items with
    | some (kind, name, rest) =>
      (headerEnd? false rest).map fun (header, rest) =>
        let members := match header with
          | .members _ inner _ => readMembers n inner
          | .semicolon _ => []
        typeNode start kind name members header rest
    | none =>
      match items with
      | first :: rest =>
        if first.isWord "namespace" then
          match afterNamespaceName rest with
          | .group .curly opening inner closing :: rest =>
            some (namespaceNode first.start opening inner closing (readMembers n inner), rest)
          | _ => none
        else none
      | [] => none

end

end Reading

/-- The syntax tree of the items of a file, whose number of tokens is given. -/
def Node.ofItems (size : Nat) (items : List Item) : Node :=
  .mk .unit ⟨(items.head?.map Item.start).getD 0, Item.stopOf 0 items⟩
    (Reading.readUnit (2 * size + 2) items)

end RedactedBundle
