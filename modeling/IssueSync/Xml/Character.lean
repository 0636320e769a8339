/-! # Character classes of XML 1.0

The characters a document may hold, white space, and the characters that names
are made of (fifth edition).
-/

namespace IssueSync.Xml

/-- Whether `code` lies between the bounds of one of the ranges. -/
def inRanges (ranges : List (Nat × Nat)) (code : Nat) : Bool :=
  ranges.any fun (low, high) => low ≤ code && code ≤ high

/-- A character that a document may have. -/
def isXmlChar (character : Char) : Bool :=
  inRanges [(0x9, 0xA), (0xD, 0xD), (0x20, 0xD7FF), (0xE000, 0xFFFD), (0x10000, 0x10FFFF)]
    character.toNat

/-- A character that separates the parts of a tag. -/
def isSpace (character : Char) : Bool :=
  character == ' ' || character == '\t' || character == '\n' || character == '\r'

/-- The characters, other than the colon, that a name may begin with. -/
def isNameStart (character : Char) : Bool :=
  inRanges
    [(0x41, 0x5A), (0x5F, 0x5F), (0x61, 0x7A), (0xC0, 0xD6), (0xD8, 0xF6), (0xF8, 0x2FF),
      (0x370, 0x37D), (0x37F, 0x1FFF), (0x200C, 0x200D), (0x2070, 0x218F), (0x2C00, 0x2FEF),
      (0x3001, 0xD7FF), (0xF900, 0xFDCF), (0xFDF0, 0xFFFD), (0x10000, 0xEFFFF)]
    character.toNat

/-- The characters, other than the colon, that a name may go on with. -/
def isNamePart (character : Char) : Bool :=
  isNameStart character ||
    inRanges [(0x2D, 0x2E), (0x30, 0x39), (0xB7, 0xB7), (0x300, 0x36F), (0x203F, 0x2040)]
      character.toNat

/-- The characters of names that may hold colons. -/
def isNameCharacter (character : Char) : Bool :=
  character == ':' || isNamePart character

end IssueSync.Xml
