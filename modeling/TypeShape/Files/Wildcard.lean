/-
Patterns for one name: `*` for any run of characters, `?` for any character, and sets
in brackets, with ranges, and with `!` for everything else. A bracket that is never
closed stands for itself.
-/
import TypeShape.Text.Basic

namespace TypeShape

/-- A piece of a name's pattern. -/
inductive Wildcard
  | run
  | one
  | set (negated : Bool) (ranges : List (Char × Char))
  | literal (c : Char)
deriving DecidableEq

namespace Wildcard

-- =============================================================== reading

/-- The ranges of a set; a character by itself is a range of one. A hyphen at either end
stands for itself, and a range that ends before it starts is empty. -/
def ranges : Text → List (Char × Char)
  | first :: '-' :: last :: rest => (first, last) :: ranges rest
  | c :: rest => (c, c) :: ranges rest
  | [] => []

/-- The inside of a set and what follows its closing bracket. A bracket that comes first
is part of the set. -/
def setBody? : Text → Option (Text × Text)
  | ']' :: rest => (Text.cut? ']' rest).map fun (inside, after) => (']' :: inside, after)
  | t => Text.cut? ']' t

/-- A set, read after its opening bracket, and what follows. -/
def readSet? : Text → Option (Wildcard × Text)
  | '!' :: t => (setBody? t).map fun (inside, after) => (.set true (ranges inside), after)
  | t => (setBody? t).map fun (inside, after) => (.set false (ranges inside), after)

/-- Read at most so many pieces. -/
def readUpTo : Nat → Text → List Wildcard
  | 0, _ => []
  | _, [] => []
  | rounds + 1, c :: rest =>
    if c = '*' then .run :: readUpTo rounds rest
    else if c = '?' then .one :: readUpTo rounds rest
    else if c = '[' then
      match readSet? rest with
      | some (piece, after) => piece :: readUpTo rounds after
      | none => .literal c :: readUpTo rounds rest
    else .literal c :: readUpTo rounds rest

/-- The pieces of a name's pattern. -/
def read (t : Text) : List Wildcard :=
  readUpTo t.length t

/-- Whether a pattern has anything but literal characters, closed or not. -/
def isIn (t : Text) : Bool :=
  t.any fun c => c == '*' || c == '?' || c == '['

-- ============================================================== matching

/-- Whether a piece that stands for one character stands for the given one. -/
def accepts : Wildcard → Char → Bool
  | .run, _ => false
  | .one, _ => true
  | .set negated ranges, c =>
    (ranges.any fun (first, last) => first ≤ c && c ≤ last) != negated
  | .literal c, d => c == d

/-- Whether some end of a text, the text itself included, passes a test. -/
def someEnd (test : Text → Bool) : Text → Bool
  | [] => test []
  | c :: rest => test (c :: rest) || someEnd test rest

/-- Whether pieces match a whole name. -/
def matchesAll : List Wildcard → Text → Bool
  | [], name => name.isEmpty
  | .run :: pieces, name => someEnd (matchesAll pieces) name
  | _ :: _, [] => false
  | piece :: pieces, c :: name => piece.accepts c && matchesAll pieces name

end Wildcard

end TypeShape
