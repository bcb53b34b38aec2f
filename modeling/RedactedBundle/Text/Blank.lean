/-!
# White space

The characters with the Unicode property `White_Space`.

## Main definitions

- `Text.isWhite`: white space
- `Text.trim`, `Text.trimStart`, `Text.trimEnd`: a text without the white space around it
-/

namespace RedactedBundle.Text

/-- A character with the Unicode property `White_Space`. -/
def isWhite (c : Char) : Bool :=
  let n := c.toNat
  (9 ≤ n && n ≤ 13) || n = 0x20 || n = 0x85 || n = 0xA0 || n = 0x1680 ||
    (0x2000 ≤ n && n ≤ 0x200A) || n = 0x2028 || n = 0x2029 || n = 0x202F || n = 0x205F ||
    n = 0x3000

def trimStart (cs : List Char) : List Char := cs.dropWhile isWhite

def trimEnd (cs : List Char) : List Char := (cs.reverse.dropWhile isWhite).reverse

def trim (cs : List Char) : List Char := trimEnd (trimStart cs)

end RedactedBundle.Text
