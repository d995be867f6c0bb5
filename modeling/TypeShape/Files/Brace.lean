/-
Groups in braces, such as `*.{ts,tsx}`. The first group of a pattern runs from the first
opening brace to the first closing one after it; the pattern stands for one pattern per
option, each of which may have further groups. Blank options are dropped, and a group
without options makes the whole pattern stand for itself.
-/
import TypeShape.Text.Basic

namespace TypeShape.Brace

/-- A pattern cut at its first group: what stands before it, its options, and what stands
after it. -/
structure Group where
  before : Text
  options : List Text
  after : Text
deriving DecidableEq

/-- The options between two braces. -/
def optionsIn (inside : Text) : List Text :=
  ((Text.pieces ',' inside).map Text.trim).filter fun option => !option.isEmpty

/-- Cut a pattern at its first group. -/
def Group.cut? (pattern : Text) : Option Group := do
  let (before, rest) ← Text.cut? '{' pattern
  let (inside, after) ← Text.cut? '}' rest
  return ⟨before, optionsIn inside, after⟩

/-- Expand at most so many groups, one inside the results of another. -/
def expandUpTo : Nat → Text → List Text
  | 0, pattern => [pattern]
  | rounds + 1, pattern =>
    match Group.cut? pattern with
    | none => [pattern]
    | some g =>
      if g.options.isEmpty then [pattern]
      else g.options.flatMap fun option => expandUpTo rounds (g.before ++ option ++ g.after)

/-- The patterns that a pattern with groups stands for, in the order of the options, the
first group varying slowest. A group's closing brace is gone after it is expanded. -/
def expand (pattern : Text) : List Text :=
  expandUpTo pattern.length pattern

end TypeShape.Brace
