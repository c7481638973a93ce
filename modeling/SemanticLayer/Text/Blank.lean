/-
# Blank characters

The Unicode property `White_Space`, and cutting it off the ends of a text.
-/

namespace SemanticLayer.Text

/-- Whether a character is white space. -/
def isBlank (c : Char) : Bool :=
  let n := c.toNat
  (9 ≤ n && n ≤ 13) || n == 32 || n == 0x85 || n == 0xA0 || n == 0x1680 ||
    (0x2000 ≤ n && n ≤ 0x200A) || n == 0x2028 || n == 0x2029 || n == 0x202F ||
    n == 0x205F || n == 0x3000

/-- A text without the white space it starts with. -/
def skipBlank (cs : List Char) : List Char := cs.dropWhile isBlank

/-- A text without the white space at both ends. -/
def trim (s : String) : String :=
  String.ofList (skipBlank (skipBlank s.toList).reverse).reverse

/-- What is left of a text after trimming, if anything is. -/
def nonBlank? (s : String) : Option String :=
  let t := trim s
  if t.isEmpty then none else some t

/-- The number of bytes of a text. -/
def byteCount (cs : List Char) : Nat := cs.foldl (fun n c => n + c.utf8Size) 0

end SemanticLayer.Text
