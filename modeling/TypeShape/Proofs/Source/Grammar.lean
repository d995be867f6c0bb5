/-
Declarations as trees, and how they are printed.

The trees cover the plain part of the language: interfaces and classes whose members are
properties, with types made of names, lists, type arguments, object types, functions without
parameters and intersections. What may stand where is settled by the trees themselves: the
elements of lists and the operands of `&` have a sort of their own, and names carry the proof
that they are no words of the language. Every tree can be printed, each type on one line and
each property of a declaration on a line of its own.
-/
import TypeShape.Proofs.Source.Takes
import TypeShape.Source.Program

namespace TypeShape.Source

-- ================================================================= names

/-- A letter of plain names. -/
def isLetter (c : Char) : Bool :=
  c.isAlpha || c == '_' || c == '$'

/-- The words with a meaning where types or member names are expected. -/
def reserved : List Text :=
  Rules.plainWords ++ Rules.prefixWords ++ Rules.accessWords ++ others
where
  /-- Words that open types of their own, and modifiers of members. -/
  others : List Text :=
    ["typeof", "unique", "infer", "new", "abstract", "import", "asserts", "static", "override",
      "async", "get", "set", "declare", "accessor"]

/-- A name of ASCII characters that is no such word. -/
structure Identifier where
  text : Text
  opens : text.head?.any isLetter = true
  goesOn : ∀ c ∈ text, isLetter c || c.isDigit
  free : text ∉ reserved

/-- The names of the types that come with the language. -/
def predefinedNames : List Text :=
  ["any", "unknown", "never", "object", "string", "number", "boolean", "symbol", "void",
    "undefined", "null"]

/-- One of these names. -/
structure Predefined where
  text : Text
  known : text ∈ predefinedNames

/-- Text in quotes that needs no escapes. -/
structure Quoted where
  quote : Char
  text : Text
  isQuote : quote = '"' ∨ quote = '\''
  plain : ∀ c ∈ text, c ≠ quote ∧ c ≠ '\\' ∧ c ≠ '\n' ∧ c ≠ '\r'

/-- The key of a property. -/
inductive Key
  | plain (w : Identifier)
  | quoted (q : Quoted)

/-- What a key says. -/
def Key.text : Key → Text
  | .plain w => w.text
  | .quoted q => q.text

/-- A key as it is printed. -/
def Key.print : Key → Text
  | .plain w => w.text
  | .quoted q => q.quote :: (q.text ++ [q.quote])

-- ================================================================= types

/-- A property with its type. -/
structure Member (τ : Type) where
  key : Key
  isOptional : Bool
  type : τ

mutual

/-- A type that may be listed. -/
inductive Element
  | name (w : Identifier)
  | predefined (w : Predefined)
  | list (e : Element)
  | generic (w : Identifier) (first : TypeTree) (others : List TypeTree)
  | object (members : List (Member TypeTree))

/-- A type: elements with `&` between them, or a function without parameters. -/
inductive TypeTree
  | operands (first : Element) (others : List Element)
  | function (result : TypeTree)

end

/-- The marks between a key and its type. -/
def marks (isOptional : Bool) : Text :=
  if isOptional then ['?', ':', ' '] else [':', ' ']

/-- Parts, each after a separator. -/
def following (separator : Text) (parts : List Text) : Text :=
  parts.flatMap (separator ++ ·)

/-- Printed properties, each after a gap, with semicolons between them and perhaps after the
last one. -/
def rows (gap : Text) (closed : Bool) : List Text → Text
  | [] => []
  | [m] => gap ++ m ++ (if closed then [';'] else [])
  | m :: ms => gap ++ m ++ ';' :: rows gap closed ms

mutual

/-- A listable type as it is printed. -/
def Element.print : Element → Text
  | .name w => w.text
  | .predefined w => w.text
  | .list e => e.print ++ ['[', ']']
  | .generic w first others =>
    w.text ++ '<' :: (first.print ++ following [',', ' '] (printTypes others) ++ ['>'])
  | .object members => '{' :: (rows [' '] false (printMembers members) ++ [' ', '}'])

/-- A type as it is printed. -/
def TypeTree.print : TypeTree → Text
  | .operands first others => first.print ++ following [' ', '&', ' '] (printElements others)
  | .function result => '(' :: ')' :: ' ' :: '=' :: '>' :: ' ' :: result.print

/-- Listable types, printed one by one. -/
def printElements : List Element → List Text
  | [] => []
  | e :: es => e.print :: printElements es

/-- Types, printed one by one. -/
def printTypes : List TypeTree → List Text
  | [] => []
  | t :: ts => t.print :: printTypes ts

/-- Properties, printed one by one. -/
def printMembers : List (Member TypeTree) → List Text
  | [] => []
  | ⟨key, isOptional, type⟩ :: ms =>
    (key.print ++ (marks isOptional ++ type.print)) :: printMembers ms

end

/-- A property as it is printed. -/
def Member.print (m : Member TypeTree) : Text :=
  m.key.print ++ (marks m.isOptional ++ m.type.print)

/-- What is told of a property. -/
def Member.property (m : Member TypeTree) : Property :=
  { name := m.key.text, type := m.type.print, isOptional := m.isOptional }

@[simp]
theorem printElements_eq (es : List Element) : printElements es = es.map Element.print := by
  induction es with
  | nil => rw [printElements, List.map_nil]
  | cons e es ih => rw [printElements, List.map_cons, ih]

@[simp]
theorem printTypes_eq (ts : List TypeTree) : printTypes ts = ts.map TypeTree.print := by
  induction ts with
  | nil => rw [printTypes, List.map_nil]
  | cons t ts ih => rw [printTypes, List.map_cons, ih]

@[simp]
theorem printMembers_eq (ms : List (Member TypeTree)) : printMembers ms = ms.map Member.print := by
  induction ms with
  | nil => rw [printMembers, List.map_nil]
  | cons m ms ih => rw [printMembers, List.map_cons, ih]; rfl

-- ========================================================== declarations

/-- An interface or a class with its properties, exported or not. -/
structure Written where
  exported : Bool
  isClass : Bool
  name : Identifier
  members : List (Member TypeTree)

namespace Written

/-- The word that opens a declaration. -/
def word (w : Written) : Text :=
  if w.isClass then "class" else "interface"

/-- What stands before the name of a declaration. -/
def lead (w : Written) : Text :=
  (if w.exported then "export ".toList else []) ++ (w.word ++ [' '])

/-- The line break and the blanks before a property. -/
def gap (indent : Nat) : Text :=
  '\n' :: List.replicate indent ' '

/-- What stands after the name of a declaration: each property has a line of its own. -/
def body (w : Written) (indent : Nat) : Text :=
  ' ' :: '{' :: (rows (gap indent) true (w.members.map Member.print) ++ ['\n', '}'])

/-- A declaration as it is printed. -/
def print (w : Written) (indent : Nat) : Text :=
  w.lead ++ (w.name.text ++ w.body indent)

/-- What is told of a declaration whose name stands on the line. -/
def declaration (w : Written) (line : Nat) : Declaration :=
  { name := w.name.text
    kind := if w.isClass then Declaration.classKind else Declaration.interfaceKind
    properties := w.members.map Member.property
    line := .int line }

/-- Declarations, printed below each other. -/
def printAll (indent : Nat) : List Written → Text
  | [] => []
  | w :: ws => w.print indent ++ '\n' :: printAll indent ws

/-- What is told of declarations that are printed from a line on: the name of a declaration
stands on its first line, and its properties and closing brace take one line each. -/
def listed (line : Nat) : List Written → List Declaration
  | [] => []
  | w :: ws => w.declaration line :: listed (line + w.members.length + 2) ws

end Written

-- ======================================================== first characters

/-- Plain names are made of ASCII characters. -/
theorem toNat_lt_of_plain {c : Char} (h : (isLetter c || c.isDigit) = true) : c.toNat < 128 := by
  simp only [isLetter, Bool.or_eq_true, beq_iff_eq] at h
  rcases h with ((halpha | rfl) | rfl) | hdigit
  · rcases Bool.or_eq_true_iff.1 halpha with hupper | hlower
    · exact Nat.lt_of_le_of_lt (of_decide_eq_true hupper).2 (by decide)
    · exact Nat.lt_of_le_of_lt (of_decide_eq_true (Bool.and_eq_true_iff.1 hlower).2) (by decide)
  · decide
  · decide
  · exact Nat.lt_of_le_of_lt (of_decide_eq_true (Bool.and_eq_true_iff.1 hdigit).2) (by decide)

/-- The characters of plain names may stand in names, and their letters may open names. -/
theorem isNameChar_of_plain {c : Char} (h : (isLetter c || c.isDigit) = true) :
    isNameChar c = true ∧ (isLetter c = true → isNameStart c = true) := by
  have table : ∀ n < 128, (isLetter (Char.ofNat n) || (Char.ofNat n).isDigit) = true →
      isNameChar (Char.ofNat n) = true
        ∧ (isLetter (Char.ofNat n) = true → isNameStart (Char.ofNat n) = true) := by
    decide
  have hc := table c.toNat (toNat_lt_of_plain h)
  rw [Char.ofNat_toNat] at hc
  exact hc h

/-- A plain name is a word. -/
theorem Identifier.isWord (w : Identifier) : isWord w.text = true := by
  have hchars : ∀ c ∈ w.text, isNameChar c = true := fun c hc =>
    (isNameChar_of_plain (w.goesOn c hc)).1
  obtain ⟨text, opens, goesOn, _⟩ := w
  cases text with
  | nil => cases opens
  | cons c text =>
      have hstart : isNameStart c = true :=
        (isNameChar_of_plain (goesOn c List.mem_cons_self)).2 opens
      simp only [Source.isWord, List.head?_cons, Option.any_some, hstart, Bool.true_and,
        List.all_eq_true]
      exact hchars

theorem Predefined.isWord (w : Predefined) : isWord w.text = true := by
  have table : ∀ w ∈ predefinedNames, Source.isWord w = true := by decide
  exact table w.text w.known

/-- What opens a type of this grammar. -/
def opensType (d : Char) : Bool :=
  isNameStart d || d == '{' || d == '('

/-- What opens a key. -/
def opensKey (d : Char) : Bool :=
  isNameStart d || d == '"' || d == '\''

/-- A listable type opens with a letter or with a brace. -/
theorem Element.print_eq_cons (e : Element) :
    ∃ d s, e.print = d :: s ∧ (isNameStart d || d == '{') = true := by
  match e with
  | .name w =>
      obtain ⟨d, s, hs, hd⟩ := exists_of_isWord w.isWord
      exact ⟨d, s, by rw [print, hs], by simp [hd]⟩
  | .predefined w =>
      obtain ⟨d, s, hs, hd⟩ := exists_of_isWord w.isWord
      exact ⟨d, s, by rw [print, hs], by simp [hd]⟩
  | .list e =>
      obtain ⟨d, s, hs, hd⟩ := e.print_eq_cons
      exact ⟨d, _, by rw [print, hs]; rfl, hd⟩
  | .generic w first others =>
      obtain ⟨d, s, hs, hd⟩ := exists_of_isWord w.isWord
      exact ⟨d, _, by rw [print, hs]; rfl, by simp [hd]⟩
  | .object members => exact ⟨'{', _, by rw [print], by rfl⟩

theorem TypeTree.print_eq_cons (t : TypeTree) :
    ∃ d s, t.print = d :: s ∧ opensType d = true := by
  cases t with
  | operands first others =>
      obtain ⟨d, s, hs, hd⟩ := first.print_eq_cons
      refine ⟨d, _, by rw [print, hs]; rfl, ?_⟩
      rw [opensType, hd, Bool.true_or]
  | function result => exact ⟨'(', _, by rw [print], by rfl⟩

theorem Key.print_eq_cons (k : Key) : ∃ d s, k.print = d :: s ∧ opensKey d = true := by
  cases k with
  | plain w =>
      obtain ⟨d, s, hs, hd⟩ := exists_of_isWord w.isWord
      exact ⟨d, s, by rw [print, hs], by simp [opensKey, hd]⟩
  | quoted q =>
      refine ⟨q.quote, _, rfl, ?_⟩
      rcases q.isQuote with hq | hq <;> rw [hq] <;> rfl

-- =============================================================== lengths

/-- What follows others is at most as long as all that do. -/
theorem length_le_following {separator t : Text} {parts : List Text} (ht : t ∈ parts) :
    t.length ≤ (following separator parts).length := by
  induction parts with
  | nil => cases ht
  | cons p parts ih =>
      rw [following, List.flatMap_cons, List.length_append, List.length_append]
      rcases List.mem_cons.1 ht with rfl | ht
      · omega
      · have := ih ht
        rw [following] at this
        omega

/-- A row is at most as long as all rows. -/
theorem length_le_rows {gap m : Text} {closed : Bool} {ms : List Text} (hm : m ∈ ms) :
    m.length ≤ (rows gap closed ms).length := by
  fun_induction rows gap closed ms with
  | case1 => cases hm
  | case2 m' =>
      rw [List.mem_singleton.1 hm]
      simp only [List.length_append]
      omega
  | case3 m' ms hne ih =>
      simp only [List.length_append, List.length_cons]
      rcases List.mem_cons.1 hm with rfl | hm
      · omega
      · have := ih hm
        omega

/-- The type of a property is shorter than the property. -/
theorem Member.length_type_lt (m : Member TypeTree) : m.type.print.length < m.print.length := by
  obtain ⟨d, s, hs, -⟩ := m.key.print_eq_cons
  simp only [Member.print, hs, List.length_append, List.length_cons]
  omega

/-- In rows, the types of properties are shorter than all of it. -/
theorem length_type_lt_rows {ms : List (Member TypeTree)} {m : Member TypeTree} (hm : m ∈ ms)
    (gap : Text) (closed : Bool) :
    m.type.print.length < (rows gap closed (ms.map Member.print)).length :=
  Nat.lt_of_lt_of_le m.length_type_lt (length_le_rows (List.mem_map_of_mem hm))

/-- Type arguments are shorter than the type that is applied to them. -/
theorem Element.length_argument_lt {w : Identifier} {first t : TypeTree} {others : List TypeTree}
    (ht : t ∈ first :: others) :
    t.print.length < (Element.generic w first others).print.length := by
  rw [print, printTypes_eq]
  simp only [List.length_append, List.length_cons]
  rcases List.mem_cons.1 ht with rfl | ht
  · omega
  · have hle : t.print.length ≤ (following [',', ' '] (others.map TypeTree.print)).length :=
      length_le_following (List.mem_map_of_mem ht)
    omega

/-- The types of properties are shorter than the object type. -/
theorem Element.length_member_lt {members : List (Member TypeTree)} {m : Member TypeTree}
    (hm : m ∈ members) : m.type.print.length < (Element.object members).print.length := by
  have hlt := length_type_lt_rows hm [' '] false
  rw [print, printMembers_eq]
  simp only [List.length_append, List.length_cons]
  omega

/-- Operands are no longer than all of them together. -/
theorem TypeTree.length_operand_le {first e : Element} {others : List Element}
    (he : e ∈ first :: others) :
    e.print.length ≤ (TypeTree.operands first others).print.length := by
  rw [print, printElements_eq, List.length_append]
  rcases List.mem_cons.1 he with rfl | he
  · omega
  · have hle : e.print.length ≤ (following [' ', '&', ' '] (others.map Element.print)).length :=
      length_le_following (List.mem_map_of_mem he)
    omega

-- ================================================================= lines

/-- Words have no line breaks. -/
theorem break_notMem_of_isWord {w : Text} (hw : isWord w = true) : '\n' ∉ w := by
  simp only [isWord, Bool.and_eq_true, List.all_eq_true] at hw
  intro hmem
  cases hw.2 _ hmem

theorem break_notMem_following {separator : Text} (hseparator : '\n' ∉ separator)
    {parts : List Text} (hparts : ∀ p ∈ parts, '\n' ∉ p) : '\n' ∉ following separator parts := by
  intro hmem
  obtain ⟨p, hp, hmem⟩ := List.mem_flatMap.1 hmem
  rcases List.mem_append.1 hmem with hmem | hmem
  · exact hseparator hmem
  · exact hparts p hp hmem

/-- Between the members of rows only the gaps break lines. -/
theorem count_break_rows (gap : Text) (closed : Bool) {ms : List Text} (hms : ∀ m ∈ ms, '\n' ∉ m) :
    (rows gap closed ms).count '\n' = ms.length * gap.count '\n' := by
  fun_induction rows gap closed ms with
  | case1 => simp
  | case2 m =>
      have hm := List.count_eq_zero.2 (hms m (List.mem_singleton.2 rfl))
      cases closed <;> simp [hm]
  | case3 m ms hne ih =>
      have hm := List.count_eq_zero.2 (hms m List.mem_cons_self)
      have hrest := ih fun m' hm' => hms m' (List.mem_cons_of_mem m hm')
      simp [hm, hrest, Nat.succ_mul, Nat.add_comm]

theorem Key.break_notMem_print (k : Key) : '\n' ∉ k.print := by
  cases k with
  | plain w => exact break_notMem_of_isWord w.isWord
  | quoted q =>
      have hquote : '\n' ≠ q.quote := by
        rcases q.isQuote with hq | hq <;> rw [hq] <;> decide
      have htext : '\n' ∉ q.text := fun hmem => (q.plain _ hmem).2.2.1 rfl
      simp [print, hquote, htext]

theorem Member.break_notMem_print {m : Member TypeTree} (hm : '\n' ∉ m.type.print) :
    '\n' ∉ m.print := by
  have hkey := m.key.break_notMem_print
  cases h : m.isOptional <;> simp [print, marks, h, hkey, hm]

/-- A listable type is printed on one line where all shorter types are. -/
theorem Element.break_notMem_print {n : Nat}
    (hshort : ∀ t : TypeTree, t.print.length < n → '\n' ∉ t.print) (e : Element)
    (hn : e.print.length ≤ n) : '\n' ∉ e.print := by
  -- by the form of the type; arguments and members are shorter
  match e with
  | .name w =>
      rw [print]
      exact break_notMem_of_isWord w.isWord
  | .predefined w =>
      rw [print]
      exact break_notMem_of_isWord w.isWord
  | .list e =>
      rw [print, List.length_append] at hn
      have he := e.break_notMem_print hshort (by omega)
      simp [print, he]
  | .generic w first others =>
      have hargs : ∀ t ∈ first :: others, '\n' ∉ t.print := fun t ht =>
        hshort t (Nat.lt_of_lt_of_le (length_argument_lt ht) hn)
      have hw := break_notMem_of_isWord w.isWord
      have hfirst := hargs first List.mem_cons_self
      have hothers : '\n' ∉ following [',', ' '] (others.map TypeTree.print) := by
        refine break_notMem_following (by decide) fun p hp => ?_
        obtain ⟨t, ht, rfl⟩ := List.mem_map.1 hp
        exact hargs t (List.mem_cons_of_mem first ht)
      simp [print, hw, hfirst, hothers]
  | .object members =>
      have hmembers : ∀ m ∈ members.map Member.print, '\n' ∉ m := by
        intro p hp
        obtain ⟨m, hm, rfl⟩ := List.mem_map.1 hp
        exact m.break_notMem_print (hshort _ (Nat.lt_of_lt_of_le (length_member_lt hm) hn))
      have hrows : '\n' ∉ rows [' '] false (members.map Member.print) := by
        rw [← List.count_eq_zero, count_break_rows _ _ hmembers]
        rfl
      simp [print, hrows]

/-- Every type is printed on one line. -/
theorem TypeTree.break_notMem_print (t : TypeTree) : '\n' ∉ t.print := by
  have hshort (n : Nat) : ∀ t : TypeTree, t.print.length < n → '\n' ∉ t.print := by
    induction n with
    | zero => exact fun t hn => absurd hn (Nat.not_lt_zero _)
    | succ n ih =>
        intro t hn
        cases t with
        | operands first others =>
            have hparts : ∀ e ∈ first :: others, '\n' ∉ e.print := fun e he =>
              e.break_notMem_print ih
                (Nat.le_trans (length_operand_le he) (Nat.le_of_lt_succ hn))
            have hfirst := hparts first List.mem_cons_self
            have hothers : '\n' ∉ following [' ', '&', ' '] (others.map Element.print) := by
              refine break_notMem_following (by decide) fun p hp => ?_
              obtain ⟨e, he, rfl⟩ := List.mem_map.1 hp
              exact hparts e (List.mem_cons_of_mem first he)
            simp [print, hfirst, hothers]
        | function result =>
            rw [print] at hn ⊢
            have hresult := ih result (by simp only [List.length_cons] at hn; omega)
            simp [hresult]
  exact hshort _ t (Nat.lt_succ_self _)

namespace Written

variable (w : Written)

/-- Everything up to the name stands on the first line of a declaration. -/
theorem count_break_lead : (w.lead ++ w.name.text).count '\n' = 0 := by
  have hname := break_notMem_of_isWord w.name.isWord
  refine List.count_eq_zero.2 ?_
  cases hexported : w.exported <;> cases hclass : w.isClass <;>
    simp [lead, word, hexported, hclass, hname]

/-- Every property takes a line, and so does the closing brace. -/
theorem count_break_body (indent : Nat) :
    (w.body indent).count '\n' = w.members.length + 1 := by
  have hmembers : ∀ m ∈ w.members.map Member.print, '\n' ∉ m := by
    intro p hp
    obtain ⟨m, -, rfl⟩ := List.mem_map.1 hp
    exact m.break_notMem_print m.type.break_notMem_print
  have hgap : (gap indent).count '\n' = 1 := by simp [gap, List.count_replicate]
  simp [body, count_break_rows _ _ hmembers, hgap]

end Written

end TypeShape.Source
