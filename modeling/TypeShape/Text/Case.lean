/-
Upper, lower and title case.

A mapping may turn one character into several (`ß` into `SS`). A capital sigma that
ends a word is lowered to its final form; which characters count as the word's end is
told by the classes of letters with a case and of characters that are skipped.
-/
import TypeShape.Text.Basic
import TypeShape.Text.CaseTable

namespace TypeShape

-- ======================================================== one character

/-- The first run that maps the code point decides; without one it stays as it is. -/
def mapByRuns (runs : List (Nat × Nat × Nat × Int)) (c : Char) : Char :=
  match runs.find? fun (first, last, step, _) =>
      first ≤ c.toNat && c.toNat ≤ last && (c.toNat - first) % step == 0 with
  | some (_, _, _, shift) => Char.ofNat (Int.toNat (c.toNat + shift))
  | none => c

/-- A mapping to several characters comes before the simple one. -/
def mapCase (expansions : List (Nat × List Nat)) (runs : List (Nat × Nat × Nat × Int))
    (c : Char) : Text :=
  match expansions.find? fun (code, _) => code == c.toNat with
  | some (_, codes) => codes.map Char.ofNat
  | none => [mapByRuns runs c]

/-- The full upper-case form of a character. -/
def upperOf (c : Char) : Text :=
  if isAscii c then [c.toUpper] else mapCase upperExpansions upperRuns c

/-- The full title-case form of a character. -/
def titleOf (c : Char) : Text :=
  if isAscii c then [c.toUpper] else mapCase titleExpansions titleRuns c

/-- The full lower-case form of a character that stands by itself. -/
def lowerOf (c : Char) : Text :=
  if isAscii c then [c.toLower] else mapCase lowerExpansions lowerRuns c

/-- A letter that has a case. -/
def isCased (c : Char) : Bool :=
  if isAscii c then c.isAlpha else inRanges casedRanges c

/-- A character that the test for the end of a word passes over. -/
def isCaseIgnorable (c : Char) : Bool :=
  if isAscii c then c == '\'' || c == '.' || c == ':' || c == '^' || c == '`'
  else inRanges caseIgnorableRanges c

-- ============================================================ whole text

namespace Text

/-- Every character in its upper-case form. -/
def upper (t : Text) : Text :=
  t.flatMap upperOf

/-- Whether the next character that counts has a case; `before` of a sigma is reversed. -/
def meetsCased (t : Text) : Bool :=
  match t.dropWhile isCaseIgnorable with
  | [] => false
  | c :: _ => isCased c

/-- The lower-case form of `c` between what stands before it (reversed) and after it. -/
def lowerBetween (before : Text) (c : Char) (after : Text) : Text :=
  if c = 'Σ' then (if meetsCased before && !meetsCased after then ['ς'] else ['σ'])
  else lowerOf c

/-- The first letter of each run of letters in title case, the others in lower case. -/
def titleFrom (before : Text) : Text → Text
  | [] => []
  | c :: rest =>
    (match before with
      | [] => titleOf c
      | p :: _ => if isCased p then lowerBetween before c rest else titleOf c)
    ++ titleFrom (c :: before) rest

/-- The text in title case. -/
def title (t : Text) : Text :=
  titleFrom [] t

end Text

end TypeShape
