/-!
Sets of characters given by ranges of code points, the form in which character properties
are tabulated. Two of them are small: the blanks of running text, which `trim` removes where a
person may have typed the text, and the code points that show nothing where they are not
interpreted, such as joiners, selectors of variants and the fillers of Hangul.
-/

namespace SensorGateway.Text

structure Ranges where
  /-- The first and the last code point of each range. -/
  bounds : List (Nat × Nat)

def Ranges.contains (ranges : Ranges) (c : Char) : Bool :=
  ranges.bounds.any fun (first, last) => first ≤ c.toNat && c.toNat ≤ last

/-- The code points with the property `White_Space`. -/
def blankRanges : Ranges :=
  ⟨[(0x9, 0xd), (0x20, 0x20), (0x85, 0x85), (0xa0, 0xa0), (0x1680, 0x1680),
    (0x2000, 0x200a), (0x2028, 0x2029), (0x202f, 0x202f), (0x205f, 0x205f),
    (0x3000, 0x3000)]⟩

def isBlank (c : Char) : Bool :=
  blankRanges.contains c

def trim (text : List Char) : List Char :=
  ((text.dropWhile isBlank).reverse.dropWhile isBlank).reverse

/-- Inclusive ranges, in ascending order, of the code points with the property
`Default_Ignorable_Code_Point`. -/
def ignorableRanges : Ranges :=
  ⟨[(0xad, 0xad), (0x34f, 0x34f), (0x61c, 0x61c), (0x115f, 0x1160), (0x17b4, 0x17b5),
   (0x180b, 0x180f), (0x200b, 0x200f), (0x202a, 0x202e), (0x2060, 0x206f),
   (0x3164, 0x3164), (0xfe00, 0xfe0f), (0xfeff, 0xfeff), (0xffa0, 0xffa0),
   (0xfff0, 0xfff8), (0x1bca0, 0x1bca3), (0x1d173, 0x1d17a), (0xe0000, 0xe0fff)]⟩

def isIgnorable (c : Char) : Bool :=
  ignorableRanges.contains c

end SensorGateway.Text
