/-
Inline object types: `{...}`, `{...}[]` with any number of suffixes, and `[{...}]`.

Where the object ends is told by counting braces alone; strings and comments inside it
are not looked at.
-/
import TypeShape.Text.Basic

namespace TypeShape.TypeText

/-- The ending that makes a list of a type. -/
def listSuffix : Text := "[]"

/-- The shortest start of the text that closes `depth` open braces, and what follows. -/
def closeBraces? (depth : Nat) : Text → Option (Text × Text)
  | [] => none
  | c :: rest =>
    if c = '}' ∧ depth ≤ 1 then some ([c], rest)
    else
      let depth := if c = '{' then depth + 1 else if c = '}' then depth - 1 else depth
      (closeBraces? depth rest).map fun (inside, after) => (c :: inside, after)

/-- As many list suffixes as the text starts with, and what follows them. -/
def takeSuffixes : Text → Text × Text
  | '[' :: ']' :: rest =>
    let (taken, after) := takeSuffixes rest
    ('[' :: ']' :: taken, after)
  | t => ([], t)

/-- A leading inline object type and the text after it. -/
def splitObject? : Text → Option (Text × Text)
  | '{' :: t => do
    let (body, rest) ← closeBraces? 1 t
    let (suffixes, rest) := takeSuffixes rest
    some ('{' :: body ++ suffixes, rest)
  | '[' :: '{' :: t => do
    let (body, rest) ← closeBraces? 1 t
    let blanks := rest.takeWhile isBlank
    match rest.dropWhile isBlank with
    | ']' :: after => some ('[' :: '{' :: body ++ blanks ++ [']'], after)
    | _ => none
  | _ => none

end TypeShape.TypeText
