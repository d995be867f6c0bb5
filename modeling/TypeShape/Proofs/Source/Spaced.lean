/-
Declarations with blanks and comments between the colons of their properties and the types.

Such a declaration is printed like the one without, but for the gaps, and the same is told of it
but for the types: a comment before a type is told in its place.
-/
import TypeShape.Proofs.Source.Grammar

namespace TypeShape.Source

-- ============================================================ properties

/-- The colon of a property, with its question mark. -/
def colon (isOptional : Bool) : Text :=
  if isOptional then ['?', ':'] else [':']

/-- A property with blanks and comments between its colon and the text of its type. -/
structure SpacedMember where
  key : Key
  isOptional : Bool
  gap : List Spacer
  type : Text

namespace SpacedMember

variable (m : SpacedMember)

/-- A property as it is printed with its gap. -/
def print : Text :=
  m.key.print ++ (colon m.isOptional ++ (gapText m.gap ++ m.type))

/-- What is told of a property with a gap: the first comment stands for the type. -/
def property : Property :=
  { name := m.key.text, type := (firstComment? m.gap).getD m.type, isOptional := m.isOptional }

/-- The type of a property is shorter than the property with its gap. -/
theorem length_type_lt : m.type.length < m.print.length := by
  obtain ⟨d, s, hs, -⟩ := m.key.print_eq_cons
  simp only [print, hs, List.length_append, List.length_cons]
  omega

end SpacedMember

/-- A property with a blank before its type. -/
def Member.spaced (m : Member TypeTree) : SpacedMember :=
  { m with gap := [blank], type := m.type.print }

theorem marks_eq (isOptional : Bool) (t : Text) :
    marks isOptional ++ t = colon isOptional ++ (gapText [blank] ++ t) := by
  cases isOptional <;> rfl

theorem Member.print_spaced (m : Member TypeTree) : m.spaced.print = m.print := by
  rw [Member.print, marks_eq]
  rfl

@[simp]
theorem map_print_spaced (ms : List (Member TypeTree)) :
    (ms.map Member.spaced).map SpacedMember.print = ms.map Member.print := by
  rw [List.map_map]
  exact List.map_congr_left fun m _ => m.print_spaced

@[simp]
theorem map_property_spaced (ms : List (Member TypeTree)) :
    (ms.map Member.spaced).map SpacedMember.property = ms.map Member.property := by
  rw [List.map_map]
  rfl

-- ========================================================== declarations

/-- An interface or a class with such properties, exported or not. -/
structure Spaced where
  exported : Bool
  isClass : Bool
  name : Identifier
  members : List SpacedMember

namespace Spaced

variable (s : Spaced)

/-- The declaration without its properties. -/
def head : Written :=
  { s with members := [] }

/-- What stands after the name of a declaration. -/
def body (indent : Nat) : Text :=
  ' ' :: '{' :: (rows (Written.gap indent) true (s.members.map SpacedMember.print) ++ ['\n', '}'])

/-- A declaration as it is printed with its gaps. -/
def print (indent : Nat) : Text :=
  s.head.lead ++ (s.name.text ++ s.body indent)

/-- What is told of a declaration whose name stands on the line. -/
def declaration (line : Nat) : Declaration :=
  { s.head.declaration line with properties := s.members.map SpacedMember.property }

/-- Declarations, printed below each other. -/
def printAll (indent : Nat) : List Spaced → Text
  | [] => []
  | s :: ss => s.print indent ++ '\n' :: printAll indent ss

/-- What is told of declarations that are printed from a line on: the name of a declaration
stands on its first line, and the next one opens below its last line. -/
def listed (indent line : Nat) : List Spaced → List Declaration
  | [] => []
  | s :: ss => s.declaration line :: listed indent (line + (s.print indent).count '\n' + 1) ss

end Spaced

namespace Written

variable (w : Written) (indent : Nat)

/-- A printed declaration has a blank before every type. -/
def spaced : Spaced :=
  { w with members := w.members.map Member.spaced }

@[simp]
theorem print_spaced : w.spaced.print indent = w.print indent := by
  have hbody : w.spaced.body indent = w.body indent := by
    simp only [Spaced.body, body, spaced, map_print_spaced]
  rw [Spaced.print, hbody]
  rfl

@[simp]
theorem declaration_spaced (line : Nat) : w.spaced.declaration line = w.declaration line := by
  have hproperties : w.spaced.members.map SpacedMember.property = w.members.map Member.property :=
    map_property_spaced w.members
  rw [Spaced.declaration, hproperties]
  rfl

/-- Every property takes a line, and so does the closing brace. -/
theorem count_break_print : (w.print indent).count '\n' = w.members.length + 1 := by
  have hlead := w.count_break_lead
  have hbody := w.count_break_body indent
  rw [print, ← List.append_assoc, List.count_append, hlead, hbody, Nat.zero_add]

theorem printAll_spaced (ws : List Written) :
    Spaced.printAll indent (ws.map spaced) = printAll indent ws := by
  induction ws with
  | nil => rfl
  | cons w ws ih => rw [List.map_cons, Spaced.printAll, print_spaced, ih, printAll]

theorem listed_spaced (line : Nat) (ws : List Written) :
    Spaced.listed indent line (ws.map spaced) = listed line ws := by
  induction ws generalizing line with
  | nil => rfl
  | cons w ws ih =>
      rw [List.map_cons, Spaced.listed, declaration_spaced, print_spaced, count_break_print, ih]
      rfl

end Written

end TypeShape.Source
