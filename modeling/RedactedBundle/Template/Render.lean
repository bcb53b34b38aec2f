import RedactedBundle.Template.Body
import RedactedBundle.Template.Engine
import RedactedBundle.Template.Filter

/-!
# Rendering of templates

The text of a template over named values. Rendering fails on a name of a filter, test or function
that is not known, on an attribute of something undefined, and on operands that do not fit.

## Main definitions

- `Scope`: the variables that can be seen, in frames
- `Expr.eval?`: the value of an expression
- `Node.render?`: the text of a part of a template
- `Body.render?`: the text of a whole template
- `Body.engine`: the engine for these templates
-/

namespace RedactedBundle.Template

/-- The variables that can be seen: frames of names with values, the innermost first. -/
abbrev Scope := List (List (String × Value))

namespace Scope

/-- The value of a variable. -/
def find? (name : String) : Scope → Option Value
  | [] => none
  | frame :: rest =>
    match Value.lookup? name frame with
    | some v => some v
    | none => find? name rest

/-- Gives a variable of the innermost frame a value. -/
def assign (name : String) (v : Value) : Scope → Scope
  | [] => [[(name, v)]]
  | frame :: rest => ((name, v) :: frame) :: rest

/-- Assigns a value to one name, or the elements of a list to as many names. -/
def assignAll? : List String → Value → Scope → Option Scope
  | [name], v, scope => some (scope.assign name v)
  | names, .list elements, scope =>
    if names.length = elements.length then
      some ((names.zip elements).foldl (fun scope (name, v) => scope.assign name v) scope)
    else none
  | _, _, _ => none

/-- The name that a loop's own facts have inside the loop. -/
def loopName : String := "loop"

/-- The number of loops around the place of a scope. -/
def loopDepth (scope : Scope) : Int :=
  match scope.find? loopName with
  | some (.map facts) =>
    match Value.lookup? "depth" facts with
    | some (.integer depth) => depth
    | _ => 0
  | _ => 0

/-- What a loop knows about its pass over one of its elements. -/
def loopFacts (depth index length : Nat) (previous next : Value) : Value :=
  .map
    [("depth", .integer (depth + 1)), ("depth0", .integer depth),
      ("first", .boolean (index = 0)), ("index", .integer (index + 1)),
      ("index0", .integer index), ("last", .boolean (index + 1 = length)),
      ("length", .integer length), ("nextitem", next), ("previtem", previous),
      ("revindex", .integer (length - index)), ("revindex0", .integer (length - index - 1))]

/-- The argument of a cycle that is due in the loop around the place of a scope. -/
def cycle? (args : List Value) (scope : Scope) : Option Value :=
  match scope.find? loopName with
  | some (.map facts) =>
    match Value.lookup? "index0" facts with
    | some (.integer index) => args[index.toNat % args.length]?
    | _ => none
  | _ => none

end Scope

/-- The arguments that have no name, and those that have one. -/
def Arguments.ofLists : List (Option String) → List Value → Arguments
  | some name :: names, v :: vs =>
    let rest := ofLists names vs
    { rest with named := (name, v) :: rest.named }
  | none :: names, v :: vs =>
    let rest := ofLists names vs
    { rest with positional := v :: rest.positional }
  | _, _ => ⟨[], []⟩

/-- A bound of a slice in whole numbers; `none` if it is left out. -/
def bound? : Value → Option (Option Int)
  | .none => some none
  | v => v.toInt?.map some

/-- Every element of a list at the multiples of a step. The number bounds the length. -/
def everyNth {α : Type} (step : Nat) : Nat → List α → List α
  | 0, _ => []
  | _, [] => []
  | n + 1, x :: rest => x :: everyNth step n (rest.drop (step - 1))

/-- The part of a list between two bounds, of which negative ones count from the end. -/
def slicePart {α : Type} (start stop : Option Int) (step : Nat) (xs : List α) : List α :=
  let place (i : Int) : Nat := if i < 0 then (xs.length + i).toNat else i.toNat
  let first := match start with
    | some i => place i
    | none => 0
  let upTo := match stop with
    | some i => place i
    | none => xs.length
  everyNth step xs.length ((xs.take upTo).drop first)

/-- A part of a text or list. -/
def slice? (v start stop step : Value) : Option Value :=
  (bound? start).bind fun start => (bound? stop).bind fun stop => (bound? step).bind fun step =>
    let step := step.getD 1
    if step ≤ 0 then none
    else
      match v with
      | .string s => some (ofChars (slicePart start stop step.toNat s.toList))
      | .list elements => some (.list (slicePart start stop step.toNat elements))
      | .undefined => some (.list [])
      | .none => some (.list [])
      | _ => none

namespace Expr

mutual

/-- The value of an expression. -/
def eval? : Expr → Scope → Option Value
  | value v, _ => some v
  | .variable name, scope => some ((scope.find? name).getD .undefined)
  | .attribute e name, scope => (eval? e scope).bind (Value.attribute? name)
  | item e index, scope =>
    (eval? e scope).bind fun v => (eval? index scope).bind fun i => v.item? i
  | slice e start stop step, scope =>
    (eval? e scope).bind fun v => (eval? start scope).bind fun start =>
      (eval? stop scope).bind fun stop => (eval? step scope).bind fun step =>
        slice? v start stop step
  | not e, scope => (eval? e scope).map fun v => .boolean (!v.truth)
  | negate e, scope => (eval? e scope).bind negate?
  | and a b, scope => (eval? a scope).bind fun v => if v.truth then eval? b scope else some v
  | or a b, scope => (eval? a scope).bind fun v => if v.truth then some v else eval? b scope
  | binary op a b, scope =>
    (eval? a scope).bind fun v => (eval? b scope).bind fun w => op.apply? v w
  | choice condition yes no, scope =>
    (eval? condition scope).bind fun v => if v.truth then eval? yes scope else eval? no scope
  | filter name e names args, scope =>
    (eval? e scope).bind fun v => (evalAll? args scope).bind fun vs =>
      filter? name v (.ofLists names vs)
  | test name e names args, scope =>
    (eval? e scope).bind fun v => (evalAll? args scope).bind fun vs =>
      (test? name v (.ofLists names vs)).map Value.boolean
  | call callee names args, scope =>
    (evalAll? args scope).bind fun vs =>
      match callee with
      | .variable name =>
        -- A variable hides the function of its name, and is none itself.
        if (scope.find? name).isSome then none else function? name (.ofLists names vs)
      | .attribute (.variable owner) name =>
        if owner = Scope.loopName && name = "cycle" then scope.cycle? vs else none
      | _ => none
  | list elements, scope => (evalAll? elements scope).map Value.list
  | map keys values, scope =>
    (evalAll? keys scope).bind fun ks => (evalAll? values scope).map fun vs =>
      Value.ofEntries ((ks.map Value.text).zip vs)

/-- The values of expressions. -/
def evalAll? : List Expr → Scope → Option (List Value)
  | [], _ => some []
  | e :: rest, scope => (eval? e scope).bind fun v => (evalAll? rest scope).map (v :: ·)

end

end Expr

/-- The elements that pass the condition of a loop. -/
def passing? (targets : List String) (condition : Option Expr) (scope : Scope) :
    List Value → Option (List Value)
  | [] => some []
  | v :: rest =>
    match condition with
    | none => some (v :: rest)
    | some test =>
      (Scope.assignAll? targets v ([] :: scope)).bind fun inner =>
        (test.eval? inner).bind fun verdict =>
          (passing? targets condition scope rest).map fun rest =>
            if verdict.truth then v :: rest else rest

/-- The texts of a loop's passes over its elements, of which `previous` and `index` tell what came
before. The innermost frame of the scope is the loop's own and lasts through all passes. -/
def passes? (targets : List String) (depth length : Nat) (body : Scope → Option (String × Scope)) :
    Value → Nat → List Value → Scope → Option String
  | _, _, [], _ => some ""
  | previous, index, v :: rest, scope =>
    let facts := Scope.loopFacts depth index length previous (rest.headD .undefined)
    (Scope.assignAll? targets v (scope.assign Scope.loopName facts)).bind fun scope =>
      (body scope).bind fun (text, scope) =>
        (passes? targets depth length body v (index + 1) rest scope).map (text ++ ·)

/-- The variables of a block with variables of its own, each seeing those before it. -/
def bindAll? : List (List String) → List Expr → Scope → Option Scope
  | names :: targets, e :: values, scope =>
    (e.eval? scope).bind fun v =>
      (Scope.assignAll? names v scope).bind fun scope => bindAll? targets values scope
  | _, _, scope => some scope

namespace Node

mutual

/-- The text of a part of a template, and the variables afterwards. -/
def render? : Node → Scope → Option (String × Scope)
  | text s, scope => some (s, scope)
  | output e, scope => (e.eval? scope).map fun v => (v.text, scope)
  | loop targets items condition body otherwise, scope =>
    (items.eval? scope).bind fun v => v.items?.bind fun elements =>
      (passing? targets condition scope elements).bind fun elements =>
        if elements.isEmpty then renderAll? otherwise scope
        else
          (passes? targets scope.loopDepth.toNat elements.length (fun scope => renderAll? body scope)
            .undefined 0 elements ([] :: scope)).map fun out => (out, scope)
  | branch test yes no, scope =>
    (test.eval? scope).bind fun v =>
      if v.truth then renderAll? yes scope else renderAll? no scope
  | assign targets e, scope =>
    (e.eval? scope).bind fun v => (Scope.assignAll? targets v scope).map fun scope => ("", scope)
  | capture target filters body, scope =>
    (renderAll? body scope).bind fun (out, scope) =>
      (filters.eval? ([(Body.captured, .string out)] :: scope)).map fun v =>
        ("", scope.assign target v)
  | filtered filters body, scope =>
    (renderAll? body scope).bind fun (out, scope) =>
      (filters.eval? ([(Body.captured, .string out)] :: scope)).map fun v => (v.text, scope)
  | .scoped targets values body, scope =>
    -- What the body assigns ends with it.
    (bindAll? targets values ([] :: scope)).bind fun inner =>
      (renderAll? body inner).map fun (out, _) => (out, scope)
  | absent, _ => none

/-- The text of parts of a template, and the variables afterwards. -/
def renderAll? : List Node → Scope → Option (String × Scope)
  | [], scope => some ("", scope)
  | node :: rest, scope =>
    (render? node scope).bind fun (out, scope) =>
      (renderAll? rest scope).map fun (more, scope) => (out ++ more, scope)

end

end Node

/-- The text of a whole template over named values. -/
def Body.render? (nodes : List Node) (values : List (String × Value)) : Option String :=
  (Node.renderAll? nodes [[], values]).map Prod.fst

theorem Body.isSome_markdownTemplate : (ofText? true true markdownTemplate).isSome := by
  decide +kernel

/-- The engine for these templates, to which their names make no difference. -/
instance Body.engine : TemplateEngine where
  compile? trimBlocks lstripBlocks _ source :=
    (ofText? trimBlocks lstripBlocks source).map render?
  takesBuiltin _ := Option.isSome_map.trans isSome_markdownTemplate

end RedactedBundle.Template
