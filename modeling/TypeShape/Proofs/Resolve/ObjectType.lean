/-
The type of a property that is an inline object.

Four scans have a say in it: the one that splits the object off, the one that takes its lists
off, the parser that reads the literal, and the splitter of chains, which reads what follows
the object as a chain without a base. They agree: the literal is what the brackets or the
suffixes stand around, its model is wrapped as many times as there are suffixes, and the pieces
after the first separator are the modifiers of the outermost list (`Plan.run_objectType`).
-/
import TypeShape.Proofs.Queue.Together
import TypeShape.Proofs.Resolve.Modifiers
import TypeShape.Proofs.TypeText.Object

namespace TypeShape

open TypeText (separator artifacts strip)

-- ============================================================= modifiers

namespace TypeText

/-- The pieces after the first separator of a text, trimmed. -/
def laterPieces (t : Text) : List Text :=
  ((Text.pieces separator t).drop 1).map Text.trim

/-- The modifiers of a chain are its later pieces. -/
theorem Chain.modifiers_eq (t : Text) : (Chain.read t).modifiers = laterPieces (strip t) := by
  rw [laterPieces, List.map_drop, ← Chain.base_cons_modifiers, List.drop_one, List.tail_cons]

/-- Blanks around a text that is empty or opens with a separator change none of them. -/
theorem laterPieces_trim {t : Text} (h : ∀ c ∈ (Text.trim t).head?, c = separator) :
    laterPieces (Text.trim t) = laterPieces t := by
  obtain ⟨l, r, hl, hr, happend⟩ := exists_trim t
  have hfront : separator ∉ l := hl.notMem separator (by decide)
  unfold laterPieces
  cases htrim : Text.trim t with
  | nil =>
      have hnone : separator ∉ t := by
        rw [← happend, htrim]
        exact fun h => (List.mem_append.1 h).elim hfront (hr.notMem separator (by decide))
      rw [pieces_of_notMem hnone]
      rfl
  | cons c u =>
      rw [htrim] at h happend
      obtain rfl := h c rfl
      rw [← happend, List.cons_append, pieces_append hfront, Text.pieces, if_pos rfl, List.drop_one,
        List.tail_cons, List.drop_one, List.tail_cons, trim_pieces_blanks (by decide) hr]

end TypeText

-- ================================================================= types

namespace Plan

variable {t object rest : Text}

/-- An inline object with nothing but modifiers after it means the model of its literal, in as
many lists as are written, changed by the registered ones of the modifiers in their order. Each
round finds the list that it takes off, and the run has an outcome. Where the literal fails, so
does the type, and no modifier is called. -/
theorem run_objectType (r : Registry) (name : Text)
    (hsplit : TypeText.splitObject? (Text.trim t) = some (object, rest))
    (hrest : ∀ c ∈ (Text.trim rest).head?, c = separator) :
    let plan := ofPropertyType Source.readLiteral r name t
    let modifiers := TypeText.laterPieces (strip (Text.trim rest))
    ∃ lists literal, TypeText.ObjectType object lists literal ∧ Unwraps object lists literal
      ∧ (∃ result, (Queue.run (3 * plan.size) (.initial plan)).outcome = some result)
      ∧ plan.run = (do
          let s ← resolveLiteral Source.readLiteral r name literal
          (modifiers.filter r.modifies).foldlM r.modify (s.nested lists))
      ∧ ((∀ artifact ∈ artifacts, ¬ artifact <:+: rest) →
          modifiers = TypeText.laterPieces rest)
      ∧ ∀ e, (resolveLiteral Source.readLiteral r name literal).result = .error e →
          plan.run = ⟨(resolveLiteral Source.readLiteral r name literal).events, .error e⟩ := by
  intro plan modifiers
  obtain ⟨lists, literal, hobject⟩ := TypeText.ObjectType.of_splitObject? hsplit
  -- what follows the object begins with a separator, if with anything
  have hinline : inlineObject? (Text.trim t) = some (object, modifiers) := by
    have hfirst : (Text.trim rest).head?.all (· == separator) = true :=
      (Option.all_eq_true ..).2 fun c hc => beq_iff_eq.2 (hrest c hc)
    rw [TypeText.inlineObject?_eq, hsplit, Option.bind_some, if_pos hfirst,
      TypeText.Chain.modifiers_eq]
  have hrun : plan.run = (do
      let s ← resolveLiteral Source.readLiteral r name literal
      (modifiers.filter r.modifies).foldlM r.modify (s.nested lists)) := by
    rw [run_ofPropertyType r readLiteral_shrinks, hinline]
    dsimp only
    rw [hobject.unwrapLists]
    simp only [← Registry.applyModifiers_eq_foldlM, Registry.applyModifiers_filter]
  obtain ⟨result, houtcome, -⟩ := outcome_run (waits_ofType Source.readLiteral r _ name t)
  refine ⟨lists, literal, hobject, hobject.unwraps, ⟨result, houtcome⟩, hrun, ?_, ?_⟩
  · intro hclean
    -- without artifacts nothing is stripped
    have hkept : strip (Text.trim rest) = Text.trim rest :=
      TypeText.strip_eq_self fun artifact h hpart =>
        hclean artifact h (hpart.trans (trim_isInfix rest))
    show TypeText.laterPieces (strip (Text.trim rest)) = _
    rw [hkept, TypeText.laterPieces_trim hrest]
  · intro e he
    rw [hrun, Traced.bind_of_error _ he]

/-- An object in a bracket with a blank before its end, inside of which brackets and suffixes
stand, and two modifiers, of which one is registered. -/
theorem run_objectType_bracket :
    let r : Registry :=
      { Registry.empty with modifiers := [("Max<>", fun s _ => .ok (some (.list s {})))] }
    TypeText.splitObject? "[\x7b a: \x7b b: string[] \x7d[] \x7d ] & Trim& Max<3>"
        = some ("[\x7b a: \x7b b: string[] \x7d[] \x7d ]".toList, " & Trim& Max<3>".toList)
      ∧ (∀ c ∈ (Text.trim " & Trim& Max<3>").head?, c = separator)
      ∧ (ofPropertyType Source.readLiteral r "Item"
          " [\x7b a: \x7b b: string[] \x7d[] \x7d ] & Trim& Max<3>\n").run = (do
          let s ← resolveLiteral Source.readLiteral r "Item" "\x7b a: \x7b b: string[] \x7d[] \x7d"
          r.modify (s.nested 1) "Max<3>") := by
  intro r
  have hsplit : TypeText.splitObject? "[\x7b a: \x7b b: string[] \x7d[] \x7d ] & Trim& Max<3>"
      = some ("[\x7b a: \x7b b: string[] \x7d[] \x7d ]".toList, " & Trim& Max<3>".toList) := by
    decide +kernel
  have hrest : ∀ c ∈ (Text.trim " & Trim& Max<3>").head?, c = separator := by
    intro c hc
    have hfirst : (Text.trim " & Trim& Max<3>").head? = some separator := by decide +kernel
    exact (Option.some.inj (hfirst.symm.trans hc)).symm
  refine ⟨hsplit, hrest, ?_⟩
  obtain ⟨lists, literal, hobject, -, -, hrun, -⟩ := run_objectType r "Item"
    (t := " [\x7b a: \x7b b: string[] \x7d[] \x7d ] & Trim& Max<3>\n") hsplit hrest
  have hlists : unwrapLists 31 "[\x7b a: \x7b b: string[] \x7d[] \x7d ]"
      = (1, "\x7b a: \x7b b: string[] \x7d[] \x7d".toList) := by
    decide +kernel
  obtain ⟨rfl, rfl⟩ := Prod.mk.inj (hobject.unwrapLists.symm.trans hlists)
  have hmodifiers : (TypeText.laterPieces (strip (Text.trim " & Trim& Max<3>"))).filter r.modifies
      = ["Max<3>".toList] := by
    decide +kernel
  rw [hrun, hmodifiers]
  simp only [List.foldlM_cons, List.foldlM_nil, bind_pure]

end Plan

end TypeShape
