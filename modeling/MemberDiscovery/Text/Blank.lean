/-! # Blank characters and trimming

Configuration values and wire numbers are read with surrounding blanks removed. Blank means the
Unicode property `White_Space`, which is wider than the blanks of `Char.isWhitespace`: it also has
the no-break spaces, the line and paragraph separators and the ideographic space.
-/

namespace MemberDiscovery.Text

/-- The characters with the Unicode property `White_Space`, as code point ranges. -/
def blankRanges : List (Nat × Nat) :=
  [(0x09, 0x0D), (0x20, 0x20), (0x85, 0x85), (0xA0, 0xA0), (0x1680, 0x1680), (0x2000, 0x200A),
   (0x2028, 0x2029), (0x202F, 0x202F), (0x205F, 0x205F), (0x3000, 0x3000)]

def inRanges (ranges : List (Nat × Nat)) (c : Char) : Bool :=
  ranges.any fun range => range.1 ≤ c.toNat && c.toNat ≤ range.2

def isBlank (c : Char) : Bool :=
  inRanges blankRanges c

/-- Removes the characters at the end that satisfy `p`. -/
def dropTrailing (p : Char → Bool) (chars : List Char) : List Char :=
  (chars.reverse.dropWhile p).reverse

def trimChars (chars : List Char) : List Char :=
  dropTrailing isBlank (chars.dropWhile isBlank)

def trim (text : String) : String :=
  String.ofList (trimChars text.toList)

/-- Equality of texts that ignores the case of the 26 Latin letters and of no other character. -/
def equalsIgnoringCase (left right : String) : Bool :=
  left.toList.map Char.toLower == right.toList.map Char.toLower

def isBlankText (text : String) : Bool :=
  text.toList.all isBlank

end MemberDiscovery.Text
