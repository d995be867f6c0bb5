/-
Whole texts have room for the declarations found in them.

So the name of a declaration and the type of one of its properties have fewer opening
braces together than the text they were read from.
-/
import TypeShape.Proofs.Source.Statements
import TypeShape.Source.Program

namespace TypeShape.Source

-- ============================================================= the knot

/-- Parsers of every depth keep within every scope. -/
instance parse_sound (depth : Nat) : (parse depth).Sound := by
  induction depth with
  | zero => exact ⟨fun σ g => .fault _⟩
  | succ depth ih =>
      refine ⟨fun σ g => ?_⟩
      cases g with
      | type => exact (inferInstance : Keeps σ (parse depth).typeRule)
      | expression allowIn => exact (inferInstance : Keeps σ ((parse depth).expressionRule allowIn))
      | statement => exact (inferInstance : Keeps σ (parse depth).statementRule)
      | element => exact (inferInstance : Keeps σ (parse depth).elementRule)

instance (rules : Rules) [rules.Sound] (σ : Scope) : Keeps σ (program rules) := by
  unfold program
  have hmark : Keeps σ (modify fun c : Cursor =>
      c.advance (c.rest.takeWhile fun d => !isLineEnd d).length : Parser Unit) :=
    ⟨fun hc h => by cases h; exact hc.advance _⟩
  infer_instance

/-- A text has room for the declarations found in it. -/
theorem roomFor_of_declarations {markup : Bool} {t : Text} {ds : List Declaration}
    (h : declarations markup t = .ok ds) : ∀ d ∈ ds, RoomFor t d := by
  let σ : Scope := { text := t, admits := RoomFor t, covers := fun _ h => h }
  have hstart : σ.Within (.start markup t) := ⟨List.suffix_refl _, rfl, fun _ h => nomatch h⟩
  unfold declarations at h
  dsimp only at h
  cases hp : program (parse (4 * (Cursor.start markup t).left + 16)) (.start markup t) with
  | error e =>
      rw [hp] at h
      cases h
  | ok r =>
      rw [hp] at h
      cases h
      intro d hd
      exact (Keeps.keeps hstart hp).found d (List.mem_reverse.1 hd)

-- ============================================================== literals

/-- The text that a literal under a name is read from. -/
def literalText (name literal : Text) : Text :=
  "interface ".toList ++ name ++ ' ' :: literal

/-- The text that a literal is read from has room for what it makes. -/
theorem roomFor_of_readLiteral {name literal : Text} {d : Declaration}
    (h : readLiteral name literal = .ok d) : RoomFor (literalText name literal) d := by
  unfold literalText
  unfold readLiteral read parseText at h
  cases hds : declarations (markupSuffix.isSuffixOf literalPath)
      ("interface ".toList ++ name ++ ' ' :: literal) with
  | error line =>
      rw [hds] at h
      cases h
  | ok ds =>
      rw [hds] at h
      cases ds with
      | nil => cases h
      | cons first rest =>
          cases h
          exact roomFor_of_declarations hds d (List.mem_cons_self ..)

-- =============================================================== braces

/-- The number of opening braces of a text. -/
def braces (t : Text) : Nat :=
  t.count '{'

@[simp] theorem braces_append (s t : Text) : braces (s ++ t) = braces s + braces t :=
  List.count_append

/-- A declaration leaves at least one brace of its text behind. -/
theorem RoomFor.braces_lt {t : Text} {d : Declaration} (h : RoomFor t d) {p : Property}
    (hp : p ∈ d.properties) : braces d.name + braces p.type < braces t := by
  obtain ⟨before, body, rfl, ⟨-, hbefore⟩, htypes⟩ := h
  have hb : braces d.name ≤ braces before := hbefore.sublist.count_le _
  have ht : braces p.type ≤ braces body := by
    rcases htypes p hp with hany | hin
    · rw [hany]
      exact Nat.zero_le _
    · exact hin.isInfix.sublist.count_le _
  rw [braces_append, show braces ('{' :: body) = braces body + 1 from List.count_cons_self]
  omega

end TypeShape.Source
