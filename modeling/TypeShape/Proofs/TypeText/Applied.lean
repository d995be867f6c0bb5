/-
A name with a group of parameters, read from any text.

A group opens at the first `<`, unless the text begins with it, and closes at the first `>` that
leaves something inside, so that a `>` right after the `<` belongs to the parameters (`Grouped`).
Commas cut the group into its parameters, without the blanks around them; the other way round
the group is a way to print the parameters that were read. A text without a group is a name of
its own (`Applied.read_exact`).
-/
import TypeShape.Proofs.TypeText.Occurrence
import TypeShape.Proofs.TypeText.Printed

namespace TypeShape.TypeText

variable {t base inner after : Text} {ps : List Text}

/-- A text with a group in it: what stands before, inside and after. -/
structure Grouped (t base inner after : Text) : Prop where
  append : base ++ '<' :: inner ++ '>' :: after = t
  named : base ≠ []
  opens : '<' ∉ base
  filled : inner ≠ []
  closes : '>' ∉ inner.tail

/-- Every text prints its pieces, with the blanks around them that trimming takes away. -/
theorem printsParameters_pieces (t : Text) :
    PrintsParameters ((Text.pieces ',' t).map Text.trim) t := by
  by_cases comma : ',' ∈ t
  case pos =>
    obtain ⟨piece, rest, cut, absent⟩ := List.eq_append_cons_of_mem comma
    obtain ⟨l, r, before, after, append⟩ := exists_trim piece
    have others := printsParameters_pieces rest
    have more := PrintsParameters.more (p := Text.trim piece) before after others
    rw [List.append_assoc l, append] at more
    rwa [cut, pieces_append absent, List.map_cons]
  case neg =>
    obtain ⟨l, r, before, after, append⟩ := exists_trim t
    have last := PrintsParameters.last (p := Text.trim t) before after
    rw [List.append_assoc, append] at last
    rwa [pieces_of_notMem comma, List.map_singleton]
termination_by t.length
decreasing_by
  rw [cut, List.length_append, List.length_cons]
  omega

/-- A group is read as its pieces. -/
theorem Grouped.read (h : Grouped t base inner after) :
    Applied.read t = ⟨base ++ "<>", (Text.pieces ',' inner).map Text.trim⟩ := by
  obtain ⟨rfl, named, opens, filled, closes⟩ := h
  obtain ⟨first, inner, rfl⟩ := List.exists_cons_of_ne_nil filled
  exact Applied.read_group named opens closes

namespace Applied

/-- There is a group to read, or the text is the name. -/
theorem read_cases (t : Text) : Applied.read t = ⟨t, []⟩
    ∨ ∃ base inner after, Grouped t base inner after
      ∧ Applied.read t = ⟨base ++ "<>", (Text.pieces ',' inner).map Text.trim⟩ := by
  by_cases h : ∃ base inner after, Grouped t base inner after
  case pos =>
    obtain ⟨base, inner, after, group⟩ := h
    exact .inr ⟨base, inner, after, group, group.read⟩
  case neg =>
    refine .inl ?_
    unfold Applied.read
    split
    case h_1 b base first rest opened =>
      obtain ⟨append, opens⟩ := cut?_eq_some opened
      split
      case h_1 inner after closed =>
        obtain ⟨rfl, closes⟩ := cut?_eq_some closed
        exact absurd ⟨b :: base, first :: inner, after, by simp [append], by simp, opens,
          by simp, closes⟩ h
      case h_2 => rfl
    case h_2 => rfl

/-- Parameters are read from whatever prints them, past a name and before anything; and whenever
some are read, the text is a name, a group that prints them, and something more. -/
theorem read_exact :
    (∀ (base inner after : Text) (ps : List Text), base ≠ [] → '<' ∉ base →
      (∀ p ∈ ps, Text.trim p = p ∧ ',' ∉ p ∧ '>' ∉ p) → PrintsParameters ps inner → inner ≠ [] →
      Applied.read (base ++ '<' :: inner ++ '>' :: after) = ⟨base ++ "<>", ps⟩)
    ∧ ∀ t : Text,
      ((Applied.read t).parameters ≠ [] → ∃ base inner after, Grouped t base inner after
        ∧ (Applied.read t).name = base ++ "<>"
        ∧ (Applied.read t).parameters = (Text.pieces ',' inner).map Text.trim
        ∧ PrintsParameters (Applied.read t).parameters inner)
      ∧ ((Applied.read t).parameters = [] → (Applied.read t).name = t) := by
  constructor
  · intro base inner after ps named opens plain printed filled
    have closes : '>' ∉ inner :=
      printed.notMem (by decide) (by decide) fun p hp => (plain p hp).2.2
    have group : Grouped (base ++ '<' :: inner ++ '>' :: after) base inner after :=
      ⟨rfl, named, opens, filled, mt List.mem_of_mem_tail closes⟩
    have pieces : (Text.pieces ',' inner).map Text.trim = ps := by
      refine printed.trim_pieces fun p hp => ?_
      obtain ⟨trimmed, comma, -⟩ := plain p hp
      exact ⟨trimmed ▸ solid_trim p, comma⟩
    rw [group.read, pieces]
  · intro t
    rcases read_cases t with h | ⟨base, inner, after, group, h⟩
    · rw [h]
      exact ⟨fun hne => absurd rfl hne, fun _ => rfl⟩
    · rw [h]
      have printed := printsParameters_pieces inner
      exact ⟨fun _ => ⟨base, inner, after, group, rfl, rfl, printed⟩,
        fun hnil => absurd hnil printed.ne_nil⟩

/-- A parameter may be empty, and a `>` right after the `<` is one. -/
theorem read_exact_range :
    Applied.read "Range< 0, ,10 >[]<x>" = ⟨"Range<>", ["0", [], "10"]⟩
    ∧ (∃ base inner after, Grouped "Box<>>" base inner after
      ∧ (Applied.read "Box<>>").name = base ++ "<>"
      ∧ (Applied.read "Box<>>").parameters = (Text.pieces ',' inner).map Text.trim
      ∧ PrintsParameters (Applied.read "Box<>>").parameters inner)
    ∧ (Applied.read "Box<>").name = "Box<>" := by
  have printed : PrintsParameters ["0", [], "10"] " 0, ,10 " :=
    .more (l := " ") (r := []) (by decide) (by decide)
      (.more (l := " ") (r := []) (by decide) (by decide)
        (.last (l := []) (r := " ") (by decide) (by decide)))
  exact ⟨read_exact.1 "Range" _ "[]<x>" _ (by decide) (by decide) (by decide) printed (by decide),
    (read_exact.2 "Box<>>").1 (by decide), (read_exact.2 "Box<>").2 (by decide)⟩

end Applied

end TypeShape.TypeText
