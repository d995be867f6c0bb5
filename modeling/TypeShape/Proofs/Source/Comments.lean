/-
A comment before the type of a property is extracted in place of the type.

Of any text that is parsed, the type of a property is what comes after its colon: a comment, where
one comes next, and else the text of the type. So a comment there changes what is extracted, and
nothing but its types and lines: declarations are told apart from their plain forms, with blanks
in place of all gaps, exactly where there are such comments (`Spaced.unlined_eq_plain_iff`).
-/
import TypeShape.Proofs.Source.Program
import TypeShape.Proofs.Source.ReadBack

namespace TypeShape.Source

-- ================================================== statement vocabulary

/-- A declaration wherever it stands. -/
def unlined (d : Declaration) : Declaration :=
  { d with line := .null }

/-- The property with a blank in place of its gap. -/
def SpacedMember.plain (m : SpacedMember) : SpacedMember :=
  { m with gap := [blank] }

namespace Spaced

/-- The declaration with a blank in place of every gap. -/
def plain (s : Spaced) : Spaced :=
  { s with members := s.members.map SpacedMember.plain }

/-- A comment stands before the type of a property. -/
def Commented (s : Spaced) : Prop :=
  ∃ m ∈ s.members, firstComment? m.gap ≠ none

end Spaced

-- ============================================================ properties

/-- A comment opens with a slash. -/
theorem head?_firstComment {gap : List Spacer} {comment : Text}
    (h : firstComment? gap = some comment) : comment.head? = some '/' := by
  obtain ⟨s, -, hs⟩ := List.exists_of_findSome?_eq_some h
  cases s with
  | blank => cases hs
  | line => cases hs; rfl
  | block => cases hs; rfl

/-- A type opens with no slash. -/
theorem IsType.head?_ne {t : Text} (h : IsType t) : t.head? ≠ some '/' := by
  obtain ⟨d, hd, -, hslash⟩ := (h (t.length + 1) (Nat.lt_succ_self _)).opens
  rw [hd]
  simpa using hslash

/-- What is told of a property is the same without its gap if and only if there is no comment. -/
theorem SpacedMember.property_eq_plain_iff {m : SpacedMember} (hm : IsType m.type) :
    m.property = m.plain.property ↔ firstComment? m.gap = none := by
  have hplain : m.plain.property = { m.property with type := m.type } := rfl
  rw [hplain]
  constructor
  · intro h
    cases hcomment : firstComment? m.gap with
    | none => rfl
    | some comment =>
        have htype : (firstComment? m.gap).getD m.type = m.type := congrArg Property.type h
        rw [hcomment, Option.getD_some] at htype
        exact absurd (htype ▸ head?_firstComment hcomment) hm.head?_ne
  · intro h
    rw [property, h, Option.getD_none]

-- ========================================================== declarations

namespace Spaced

variable {s : Spaced} {ss : List Spaced}

theorem properties_eq_plain_iff (hs : s.IsTyped) :
    s.members.map SpacedMember.property = s.plain.members.map SpacedMember.property
      ↔ ¬ s.Commented := by
  unfold plain Commented
  push Not
  rw [List.map_map, List.map_inj_left]
  exact forall₂_congr fun m hm => SpacedMember.property_eq_plain_iff (hs m hm)

/-- Wherever declarations are printed, the same is told of each but for its line. -/
theorem map_unlined_listed (indent line : Nat) (ss : List Spaced) :
    (listed indent line ss).map unlined = ss.map fun s => unlined (s.declaration 0) := by
  induction ss generalizing line with
  | nil => rfl
  | cons s ss ih =>
      rw [listed, List.map_cons, List.map_cons, ih]
      rfl

/-- Lines aside, the same is told of declarations without their gaps if and only if there are no
comments in them. -/
theorem unlined_eq_plain_iff (indent : Nat) (hss : ∀ s ∈ ss, s.IsTyped) :
    (listed indent 1 ss).map unlined = (listed indent 1 (ss.map plain)).map unlined
      ↔ ∀ s ∈ ss, ¬ s.Commented := by
  rw [map_unlined_listed, map_unlined_listed, List.map_map, List.map_inj_left]
  refine forall₂_congr fun s hs => ?_
  rw [← properties_eq_plain_iff (hss s hs)]
  exact ⟨fun h => congrArg Declaration.properties h, fun h => by
    simp only [Function.comp_apply, unlined, declaration, h]
    rfl⟩

theorem isTyped_plain (hs : s.IsTyped) : s.plain.IsTyped := by
  intro _ hm
  obtain ⟨m, hmember, rfl⟩ := List.mem_map.1 hm
  exact hs m hmember

end Spaced

-- ================================================================= texts

/-- The types of properties that are parsed are what the annotations of the text say. -/
theorem typesIn_of_parseText {t path : Text} {file : ParsedFile}
    (h : parseText t path = .ok file) : ∀ d ∈ file.declarations, TypesIn t d.properties := by
  unfold parseText at h
  cases hds : declarations (markupSuffix.isSuffixOf path) t with
  | error line =>
      rw [hds] at h
      cases h
  | ok ds =>
      rw [hds] at h
      cases h
      intro d hd
      obtain ⟨before, body, rfl, -, htypes⟩ := roomFor_of_declarations hds d hd
      exact fun p hp => (htypes p hp).of_suffix (List.suffix_append_of_suffix
        (List.suffix_cons '{' body))

/-- Whatever text is parsed, the type of a property with an annotation is what comes after its
colon: a comment, where one comes next, and else the text of the type. Printed declarations with
blanks and comments there are read back with the first comments in place of the types, and so the
same is extracted as without them, lines aside, if and only if there are no comments. -/
theorem parseText_comments (path : Text) :
    (∀ t file, parseText t path = .ok file → ∀ d ∈ file.declarations, TypesIn t d.properties)
      ∧ ∀ indent ss, (∀ s ∈ ss, Spaced.IsTyped s) →
        ∃ file plain, parseText (Spaced.printAll indent ss) path = .ok file
          ∧ parseText (Spaced.printAll indent (ss.map Spaced.plain)) path = .ok plain
          ∧ file.declarations = Spaced.listed indent 1 ss
          ∧ (file.declarations.map unlined = plain.declarations.map unlined
            ↔ ∀ s ∈ ss, ¬ s.Commented) := by
  refine ⟨fun t file h => typesIn_of_parseText h, fun indent ss hss => ?_⟩
  have hplain : ∀ s ∈ ss.map Spaced.plain, s.IsTyped := by
    intro _ hs
    obtain ⟨s, hmem, rfl⟩ := List.mem_map.1 hs
    exact Spaced.isTyped_plain (hss s hmem)
  exact ⟨_, _, Spaced.parseText_spaced indent ss hss path,
    Spaced.parseText_spaced indent (ss.map Spaced.plain) hplain path, rfl,
    Spaced.unlined_eq_plain_iff indent hss⟩

/-- A class with one property, before whose type a block comment stands and then a line comment. -/
theorem parseText_comments_class :
    let name : Identifier := ⟨"A".toList, by decide, List.all_eq_true.1 (by decide), by decide⟩
    let type : TypeTree := .operands (.predefined ⟨"string".toList, by decide⟩) []
    let gap : List Spacer := [blank, .block " c ".toList (by decide),
      .line " d".toList '\n' (List.forall_mem_cons.2 ⟨rfl, List.forall_mem_singleton.2 rfl⟩) rfl]
    let s : Spaced := ⟨true, true, name, [⟨.plain name, true, gap, type.print⟩]⟩
    Spaced.printAll 2 [s] = "export class A \x7b\n  A?: /* c */// d\nstring;\n\x7d\n".toList
      ∧ ∃ file, parseText (Spaced.printAll 2 [s]) "a.ts" = .ok file
        ∧ (file.declarations.map fun d => d.properties) = [[⟨"A", "/* c */", true⟩]]
        ∧ Annotates (Spaced.printAll 2 [s]) "/* c */"
        ∧ ∃ plain, parseText (Spaced.printAll 2 [s.plain]) "a.ts" = .ok plain
          ∧ file.declarations.map unlined ≠ plain.declarations.map unlined := by
  intro name type gap s
  obtain ⟨hany, hprinted⟩ := parseText_comments "a.ts"
  have htyped : ∀ s' ∈ [s], Spaced.IsTyped s' := by
    intro s' hs' m hm
    rw [List.mem_singleton.1 hs'] at hm
    rw [List.mem_singleton.1 hm]
    exact type.isType
  obtain ⟨file, plain, hparse, hplain, hlisted, hiff⟩ := hprinted 2 [s] htyped
  have hcommented : s.Commented := ⟨_, List.mem_singleton_self _, Option.some_ne_none _⟩
  have htypes := hany _ file hparse
  rw [hlisted] at htypes
  refine ⟨by rfl, file, hparse, by rw [hlisted]; rfl, ?_, plain, hplain, fun h => ?_⟩
  · refine (htypes _ (List.mem_singleton_self _) _ (List.mem_singleton_self _)).resolve_left ?_
    intro h
    cases h
  · exact hiff.1 h s (List.mem_singleton_self _) hcommented

/-- With a comment before it, a type is not extracted. -/
theorem parseText_leadingComment :
    (parseText "interface A \x7b x: string \x7d" "<source>.ts").toOption.map
        (fun file => file.declarations.map fun d => d.properties)
      = some [[⟨"x", "string", false⟩]]
    ∧ (parseText "interface A \x7b x: /* c */ string \x7d" "<source>.ts").toOption.map
        (fun file => file.declarations.map fun d => d.properties)
      = some [[⟨"x", "/* c */", false⟩]] := by
  decide +kernel

end TypeShape.Source
