/-
Classes of code points as lists of closed ranges, and white space, the class that every
other scan needs.

The tables of this folder hold only what lies above ASCII: every class answers for
ASCII by a rule of its own, so a statement about plain identifiers never has to look
into a table. They are those of Unicode 14.
-/
namespace TypeShape

/-- A character is in a class when one of the class's ranges holds its code point. -/
def inRanges (ranges : List (Nat × Nat)) (c : Char) : Bool :=
  ranges.any fun (low, high) => low ≤ c.toNat && c.toNat ≤ high

/-- `isAscii` marks the code points that the rules, and not the tables, answer for. -/
def isAscii (c : Char) : Bool :=
  c.toNat < 128

-- ================================================================ blanks

/-- The blank characters above ASCII. -/
def blankRanges : List (Nat × Nat) :=
  [(0x85, 0x85), (0xA0, 0xA0), (0x1680, 0x1680), (0x2000, 0x200A), (0x2028, 0x2029),
   (0x202F, 0x202F), (0x205F, 0x205F), (0x3000, 0x3000)]

/-- The control characters that separate fields, groups, records and units. -/
def isSeparator (c : Char) : Bool :=
  28 ≤ c.toNat && c.toNat ≤ 31

/-- White space by bidirectional class and category: what trimming removes. These are the
separators, and the control characters that separate lines, paragraphs and segments; the
zero-width space is not one of them. -/
def isBlank (c : Char) : Bool :=
  if isAscii c then
    (9 ≤ c.toNat && c.toNat ≤ 13) || (28 ≤ c.toNat && c.toNat ≤ 32)
  else inRanges blankRanges c

end TypeShape
