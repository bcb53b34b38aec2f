import RedactedBundle.Files.PatternLanguage
import RedactedBundle.Text.Utf8

/-!
# Name patterns

Patterns for file names with wildcards, sets of characters and alternatives. Names are matched
byte by byte: a question mark stands for one byte, and a set of characters stands for any byte
of theirs, or for any other byte if it is negated.

## Main definitions

- `NamePattern`: a pattern
- `NamePattern.parse`: the pattern that a text spells
- `NamePattern.isMatch`: whether a pattern matches a name
- `NamePattern.language`: the language of these patterns
-/

namespace RedactedBundle

/-- Why a text spells no pattern. -/
inductive PatternError where
  | unclosedSet
  | invalidRange (first last : Char)
  | unopenedGroup
  | unclosedGroup
  | danglingEscape
  deriving Repr, DecidableEq, Inhabited

/-- What is wrong with a pattern. -/
def PatternError.message : PatternError → String
  | .unclosedSet => "unclosed character class; missing ']'"
  | .invalidRange first last =>
    "invalid range; '" ++ first.toString ++ "' > '" ++ last.toString ++ "'"
  | .unopenedGroup =>
    "unopened alternate group; missing '\x7b' (maybe escape '\x7d' with '[\x7d]'?)"
  | .unclosedGroup =>
    "unclosed alternate group; missing '\x7d' (maybe escape '\x7b' with '[\x7b]'?)"
  | .danglingEscape => "dangling '\\'"

/-- One part of a pattern. -/
inductive PatternPart where
  | literal (c : Char)
  | anyByte
  | anyBytes
  /-- Any folders in front of a name, or none. -/
  | anyFolders
  /-- Anything inside a folder. -/
  | insideFolder
  /-- Any folders in the middle of a path, or none. -/
  | betweenFolders
  | oneOf (negated : Bool) (ranges : List (Char × Char))
  /-- One of some sequences of parts. -/
  | alternatives (branches : List (List PatternPart))
  deriving Repr, Inhabited

/-- A pattern: its parts in order. -/
structure NamePattern where
  parts : List PatternPart
  deriving Repr, Inhabited

namespace NamePattern

/-- A group that is open: the alternatives before the current one and the parts of the current
one, both newest first. -/
structure OpenGroup where
  branches : List (List PatternPart)
  parts : List PatternPart

/-- What has been read: the parts of the current alternative, newest first, the open groups
around it, innermost first, and the last character. A group holds its earlier alternatives
and the parts in front of it. -/
structure Progress where
  parts : List PatternPart
  groups : List OpenGroup
  last : Option Char

namespace Progress

def start : Progress := ⟨[], [], none⟩

def add (progress : Progress) (part : PatternPart) : Progress :=
  { progress with parts := part :: progress.parts }

/-- Opens a group of alternatives. -/
def openGroup (progress : Progress) : Progress :=
  { progress with parts := [], groups := ⟨[], progress.parts⟩ :: progress.groups }

/-- Begins the next alternative of the innermost group, if one is open. -/
def nextBranch? (progress : Progress) : Option Progress :=
  match progress.groups with
  | [] => none
  | group :: outer =>
    some { progress with
      parts := []
      groups := { group with branches := progress.parts.reverse :: group.branches } :: outer }

/-- Closes the innermost group, if one is open. -/
def closeGroup? (progress : Progress) : Option Progress :=
  match progress.groups with
  | [] => none
  | group :: outer =>
    some { progress with
      parts := .alternatives (progress.parts.reverse :: group.branches).reverse :: group.parts
      groups := outer }

end Progress

/-- Reads the inside of a set up to its closing bracket, with the ranges so far newest first.
A hyphen makes a range of the character before it and the one behind it; at either end of the
set it stands for itself, as a closing bracket does at the start. -/
def readSet (first inRange : Bool) (ranges : List (Char × Char)) :
    List Char → Except PatternError (List (Char × Char) × List Char)
  | [] => .error .unclosedSet
  | c :: rest =>
    if c = ']' && !first then
      -- A hyphen that still waits for the end of its range stands for itself.
      .ok ((if inRange then ('-', '-') :: ranges else ranges).reverse, rest)
    else if c = '-' && !first && !inRange then readSet false true ranges rest
    else
      match inRange, ranges with
      | true, (low, _) :: others =>
        if c < low then .error (.invalidRange low c)
        else readSet false false ((low, c) :: others) rest
      | _, _ => readSet false false ((c, c) :: ranges) rest

/-- Reads what follows a first star: a second star beside slashes stands for folders. -/
def readStar (progress : Progress) (before : Option Char) :
    List Char → Progress × List Char
  | '*' :: rest =>
    let plain := { progress with last := some '*' }.add .anyBytes |>.add .anyBytes
    let grouped := !progress.groups.isEmpty
    if progress.parts.isEmpty then
      -- At the start of a pattern or alternative no slash is needed in front.
      match rest with
      | [] => ({ progress with last := none }.add .anyFolders, [])
      | '/' :: rest => ({ progress with last := some '/' }.add .anyFolders, rest)
      | rest => (plain, rest)
    else if before = some '/' || (grouped && (before = some ',' || before = some '\x7b')) then
      -- The slash in front belongs to the part, so it takes the place of the one read before.
      let replace (part : PatternPart) (last : Option Char) : Progress :=
        match progress.parts with
        | .anyFolders :: _ => { progress with last }
        | .insideFolder :: _ => { progress with last }
        | _ :: others => { progress with last, parts := part :: others }
        | [] => progress
      match rest with
      | [] => (replace .insideFolder none, [])
      | '/' :: rest => (replace .betweenFolders (some '/'), rest)
      | c :: more =>
        if grouped && (c = ',' || c = '\x7d') then (replace .insideFolder (some '*'), c :: more)
        else (plain, c :: more)
    else (plain, rest)
  | rest => ({ progress with last := some '*' }.add .anyBytes, rest)

/-- Reads one part at the front of a text that starts with a given character. -/
def readPart (progress : Progress) (c : Char) (rest : List Char) :
    Except PatternError (Progress × List Char) :=
  let before := progress.last
  let progress := { progress with last := some c }
  match c with
  | '?' => .ok (progress.add .anyByte, rest)
  | '*' => .ok (readStar progress before rest)
  | '[' =>
    let negated := rest.head? = some '!' || rest.head? = some '^'
    match readSet true false [] (if negated then rest.drop 1 else rest) with
    | .ok (ranges, rest) =>
      .ok ({ progress with last := some ']' }.add (.oneOf negated ranges), rest)
    | .error error => .error error
  | '\x7b' => .ok (progress.openGroup, rest)
  | '\x7d' =>
    match progress.closeGroup? with
    | some progress => .ok (progress, rest)
    | none => .error .unopenedGroup
  | ',' => .ok ((progress.nextBranch?).getD (progress.add (.literal ',')), rest)
  | '\\' =>
    match rest with
    | [] => .error .danglingEscape
    | e :: rest => .ok ({ progress with last := some e }.add (.literal e), rest)
  | c => .ok (progress.add (.literal c), rest)

/-- Reads the parts of a text. The first number bounds the number of parts. -/
def readParts : Nat → Progress → List Char → Except PatternError Progress
  | 0, progress, _ => .ok progress
  | _, progress, [] => .ok progress
  | n + 1, progress, c :: rest =>
    match readPart progress c rest with
    | .ok (progress, rest) => readParts n progress rest
    | .error error => .error error

/-- The pattern that a text spells. -/
def parse (text : String) : Except PatternError NamePattern :=
  match readParts text.toList.length Progress.start text.toList with
  | .ok progress =>
    if progress.groups.isEmpty then .ok ⟨progress.parts.reverse⟩ else .error .unclosedGroup
  | .error error => .error error

/-- The byte ranges of a range of characters: the bytes of both ends stand for themselves, but
for the last byte of the left end and the first one of the right end, which make a range. -/
def byteRanges (range : Char × Char) : List (UInt8 × UInt8) :=
  let low := String.utf8EncodeChar range.1
  let high := String.utf8EncodeChar range.2
  if range.1 = range.2 then low.map fun b => (b, b)
  else
    low.dropLast.map (fun b => (b, b)) ++
      [(low.getLastD 0, high.headD 0)] ++ (high.drop 1).map fun b => (b, b)

/-- The byte belongs to a set. -/
def inSet (negated : Bool) (ranges : List (Char × Char)) (b : UInt8) : Bool :=
  ((ranges.flatMap byteRanges).any fun range => range.1 ≤ b && b ≤ range.2) != negated

/-- The ends of a list, from the whole list to the empty one. -/
def ends : List UInt8 → List (List UInt8)
  | [] => [[]]
  | b :: rest => (b :: rest) :: ends rest

/-- The ends of a list that follow a slash. -/
def endsAfterSlash (bytes : List UInt8) : List (List UInt8) :=
  (ends bytes).filterMap fun
    | b :: rest => if b = 0x2F then some rest else none
    | [] => none

mutual

/-- The parts stand for nothing at all. -/
def isVoid : List PatternPart → Bool
  | [] => true
  | .alternatives branches :: rest => allVoid branches && isVoid rest
  | _ :: _ => false

def allVoid : List (List PatternPart) → Bool
  | [] => true
  | branch :: rest => isVoid branch && allVoid rest

end

mutual

/-- One part matches the start of some bytes, and the test holds of the bytes behind it. -/
def matchPart (bytes : List UInt8) (test : List UInt8 → Bool) : PatternPart → Bool
  | .literal c =>
    let own := String.utf8EncodeChar c
    own.isPrefixOf bytes && test (bytes.drop own.length)
  | .anyByte =>
    match bytes with
    | _ :: rest => test rest
    | [] => false
  | .anyBytes => (ends bytes).any test
  | .anyFolders => test bytes || (endsAfterSlash bytes).any test
  | .insideFolder =>
    match bytes with
    | b :: rest => b = 0x2F && (ends rest).any test
    | [] => false
  | .betweenFolders =>
    match bytes with
    | b :: rest => b = 0x2F && (test rest || (endsAfterSlash rest).any test)
    | [] => false
  | .oneOf negated ranges =>
    match bytes with
    | b :: rest => inSet negated ranges b && test rest
    | [] => false
  | .alternatives branches =>
    if allVoid branches then test bytes else matchBranch bytes test branches

/-- The parts match the start of some bytes, and the test holds of the bytes behind them. -/
def matchParts (bytes : List UInt8) (test : List UInt8 → Bool) : List PatternPart → Bool
  | [] => test bytes
  | part :: rest => matchPart bytes (fun bytes => matchParts bytes test rest) part

/-- One of the alternatives matches; those that stand for nothing do not count. -/
def matchBranch (bytes : List UInt8) (test : List UInt8 → Bool) :
    List (List PatternPart) → Bool
  | [] => false
  | branch :: rest =>
    (!isVoid branch && matchParts bytes test branch) || matchBranch bytes test rest

end

/-- The pattern matches a whole name. Two stars alone match any name. -/
def isMatch (pattern : NamePattern) (name : String) : Bool :=
  match pattern.parts with
  | [.anyFolders] => true
  | parts => matchParts (Utf8.encode name.toList) List.isEmpty parts

/-- The language of these patterns, any number of which can be matched together. -/
instance language : PatternLanguage where
  fault? text :=
    match parse text with
    | .ok _ => none
    | .error error => some ("error parsing glob '" ++ text ++ "': " ++ error.message)
  unbuildable? _ := none
  isMatch text :=
    match parse text with
    | .ok pattern => pattern.isMatch
    | .error _ => fun _ => false

end NamePattern

end RedactedBundle
