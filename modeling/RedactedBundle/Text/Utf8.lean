/-!
# UTF-8

Bytes are decoded one at a time. A byte that cannot continue the character begun before it
ends that character as broken and is then looked at afresh, so each longest beginning of a
character that goes wrong counts as one broken character.

## Main definitions

- `Utf8.encode`: the bytes of a text
- `Utf8.decode?`: the text of valid bytes
- `Utf8.decodeLossy`: the text of any bytes, a broken character read as U+FFFD
- `Utf8.dropMark`: the text behind a byte order mark
-/

namespace RedactedBundle.Utf8

/-- The bytes of a text. -/
def encode (cs : List Char) : List UInt8 := cs.flatMap String.utf8EncodeChar

/-- What is known of a character whose bytes are not complete: the number of bytes to come,
the bits read so far, and the range of the next byte. -/
structure Pending where
  missing : Nat
  bits : Nat
  low : Nat
  high : Nat
  deriving Repr, DecidableEq

/-- What a byte begins: a whole character, a longer character, or nothing valid. -/
inductive Beginning where
  | whole (c : Char)
  | longer (pending : Pending)
  | broken
  deriving Repr, DecidableEq

/-- What a byte begins. The range of the second byte leaves out overlong forms, surrogates and
numbers above the last code point. -/
def beginning (byte : UInt8) : Beginning :=
  let b := byte.toNat
  if b < 0x80 then .whole (Char.ofNat b)
  else if b < 0xC2 then .broken
  else if b < 0xE0 then .longer ⟨1, b - 0xC0, 0x80, 0xBF⟩
  else if b < 0xF0 then
    .longer ⟨2, b - 0xE0, if b = 0xE0 then 0xA0 else 0x80, if b = 0xED then 0x9F else 0xBF⟩
  else if b < 0xF5 then
    .longer ⟨3, b - 0xF0, if b = 0xF0 then 0x90 else 0x80, if b = 0xF4 then 0x8F else 0xBF⟩
  else .broken

/-- The characters of some bytes, `none` for a broken one, given what is pending. -/
def charsFrom : Option Pending → List UInt8 → List (Option Char)
  | none, [] => []
  | some _, [] => [none]
  | none, byte :: rest =>
    match beginning byte with
    | .whole c => some c :: charsFrom none rest
    | .longer pending => charsFrom (some pending) rest
    | .broken => none :: charsFrom none rest
  | some p, byte :: rest =>
    if p.low ≤ byte.toNat && byte.toNat ≤ p.high then
      let bits := p.bits * 64 + (byte.toNat - 0x80)
      if p.missing = 1 then some (Char.ofNat bits) :: charsFrom none rest
      else charsFrom (some ⟨p.missing - 1, bits, 0x80, 0xBF⟩) rest
    else
      none ::
        match beginning byte with
        | .whole c => some c :: charsFrom none rest
        | .longer pending => charsFrom (some pending) rest
        | .broken => none :: charsFrom none rest

/-- The characters of some bytes, `none` for a broken one. -/
def chars (bytes : List UInt8) : List (Option Char) := charsFrom none bytes

/-- All values of a list, if none is missing. -/
def allSome : List (Option Char) → Option (List Char)
  | [] => some []
  | none :: _ => none
  | some c :: rest => (allSome rest).map (c :: ·)

/-- The text of bytes that are valid throughout. -/
def decode? (bytes : List UInt8) : Option (List Char) := allSome (chars bytes)

/-- The text of any bytes; a broken character is read as U+FFFD. -/
def decodeLossy (bytes : List UInt8) : List Char :=
  (chars bytes).map (·.getD '\ufffd')

/-- The text behind one byte order mark at its start, if there is one. -/
def dropMark : List Char → List Char
  | '\ufeff' :: rest => rest
  | cs => cs

end RedactedBundle.Utf8
