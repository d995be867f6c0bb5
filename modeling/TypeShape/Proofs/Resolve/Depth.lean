/-
The bound on the nesting of inline objects is never met.

What counts is the number of opening braces in the name and the type together. A
literal lies in its type, reading it leaves at least one brace behind, and names of
models gain none. So resolution needs no more rounds than there are braces, and may be
read as a recursion without a bound (`typeOf_eq`).
-/
import TypeShape.Proofs.Resolve.Sequential
import TypeShape.Proofs.Source.Program
import TypeShape.Proofs.Source.Word
import TypeShape.Proofs.Text.Scan

namespace TypeShape

open Source (braces braces_append)

-- ================================================================ names

/-- The names of models have the braces of their owner's name. -/
theorem braces_inlineName (owner key : Text) : braces (inlineName owner key) = braces owner := by
  obtain ⟨added, heq, hadded⟩ := inlineName_eq_append owner key
  have hnone : braces added = 0 :=
    List.count_eq_zero.2 fun h => absurd (hadded '{' h) (by decide)
  rw [heq, braces_append, hnone]
  rfl

-- =============================================================== literals

/-- The braces are closed by a beginning of the text. -/
theorem closeBraces?_append {depth : Nat} {t inside after : Text}
    (h : TypeText.closeBraces? depth t = some (inside, after)) : inside ++ after = t := by
  induction t generalizing depth inside after with
  | nil => cases h
  | cons c t ih =>
      unfold TypeText.closeBraces? at h
      split at h
      · cases h
        rfl
      · obtain ⟨⟨inside', after'⟩, hclose, heq⟩ := Option.map_eq_some_iff.1 h
        cases heq
        rw [List.cons_append, ih hclose]

/-- The suffixes are taken from the beginning of the text. -/
theorem takeSuffixes_append (t : Text) :
    (TypeText.takeSuffixes t).1 ++ (TypeText.takeSuffixes t).2 = t := by
  fun_induction TypeText.takeSuffixes t with
  | case1 rest taken after heq ih =>
      rw [heq] at ih
      rw [List.cons_append, List.cons_append, ih]
  | case2 t h => rfl

/-- An inline object type is a beginning of its text. -/
theorem splitObject?_append {t object rest : Text}
    (h : TypeText.splitObject? t = some (object, rest)) : object ++ rest = t := by
  unfold TypeText.splitObject? at h
  split at h
  case h_1 t =>
    obtain ⟨⟨body, after⟩, hclose, hsome⟩ := Option.bind_eq_some_iff.1 h
    cases hsome
    rw [List.append_assoc, takeSuffixes_append, List.cons_append, closeBraces?_append hclose]
  case h_2 t =>
    obtain ⟨⟨body, after⟩, hclose, hsome⟩ := Option.bind_eq_some_iff.1 h
    dsimp only at hsome
    split at hsome
    case h_1 hdrop =>
      cases hsome
      have hafter : after.takeWhile isBlank ++ ']' :: rest = after := by
        rw [← hdrop, List.takeWhile_append_dropWhile]
      rw [← closeBraces?_append hclose]
      simp only [List.cons_append, List.append_assoc, List.nil_append, hafter]
    case h_2 => cases hsome
  case h_3 => cases h

/-- An inline object lies in its type. -/
theorem inlineObject?_isInfix {t object : Text} {modifiers : List Text}
    (h : Plan.inlineObject? t = some (object, modifiers)) : object <:+: t := by
  obtain ⟨⟨object', rest⟩, hsplit, h⟩ := Option.bind_eq_some_iff.1 h
  have happend := splitObject?_append hsplit
  have heq : object' = object := by
    dsimp only at h
    split at h
    · cases h
      rfl
    · split at h
      · cases h
        rfl
      · cases h
  exact ⟨[], rest, heq ▸ happend⟩

/-- What stands in a list lies in its text. -/
theorem listLayer?_isInfix {t inner : Text} (h : listLayer? t = some inner) : inner <:+: t := by
  unfold listLayer? at h
  split at h
  case h_1 inside =>
    cases h
    have hdrop : (inside.reverse.dropWhile (· != ']')).drop 1 <:+ inside.reverse :=
      (List.drop_suffix _ _).trans (List.dropWhile_suffix _)
    have hfront : ((inside.reverse.dropWhile (· != ']')).drop 1).reverse <+: inside := by
      rw [← List.reverse_suffix, List.reverse_reverse]
      exact hdrop
    exact (trim_isInfix _).trans (hfront.isInfix.trans (List.suffix_cons ..).isInfix)
  case h_2 t _ =>
    obtain ⟨before, hbefore, rfl⟩ := Option.map_eq_some_iff.1 h
    refine (trimRight_isPrefix _).isInfix.trans ?_
    unfold Text.dropSuffix? at hbefore
    split at hbefore
    · cases hbefore
      exact (List.take_prefix _ _).isInfix
    · cases hbefore

/-- The literal in lists lies in their text. -/
theorem unwrapLists_isInfix (rounds : Nat) (t : Text) : (unwrapLists rounds t).2 <:+: t := by
  induction rounds generalizing t with
  | zero => exact List.infix_rfl
  | succ rounds ih =>
      unfold unwrapLists
      split
      case h_1 inner hlayer => exact (ih inner).trans (listLayer?_isInfix hlayer)
      case h_2 => exact List.infix_rfl

-- =============================================================== readers

/-- A reader that leaves at least one brace behind whenever it succeeds. -/
def LiteralReader.Shrinks (read : LiteralReader) : Prop :=
  ∀ name literal d, read name literal = .ok d → ∀ p ∈ d.properties,
    braces d.name + braces p.type < braces name + braces literal

/-- The reader of source text leaves at least one brace behind. -/
theorem readLiteral_shrinks : LiteralReader.Shrinks Source.readLiteral := by
  intro name literal d h p hp
  have hlt := (Source.roomFor_of_readLiteral h).braces_lt hp
  have htext : braces (Source.literalText name literal) = braces name + braces literal := by
    unfold Source.literalText
    rw [braces_append, braces_append, show braces "interface ".toList = 0 by decide,
      show braces (' ' :: literal) = braces literal from List.count_cons_of_ne (by decide)]
    omega
  omega

/-- What a literal makes has fewer braces than the type it stands in. -/
theorem LiteralReader.Shrinks.property_lt {read : LiteralReader} (hread : read.Shrinks)
    {name t object literal : Text} {modifiers : List Text} {lists : Nat} {d : Declaration}
    (hobject : Plan.inlineObject? (Text.trim t) = some (object, modifiers))
    (hliteral : unwrapLists object.length object = (lists, literal))
    (hd : read name literal = .ok d) {p : Property} (hp : p ∈ d.properties) :
    braces (inlineName d.name p.name) + braces p.type < braces name + braces t := by
  have hlt := hread name literal d hd p hp
  have hin : literal <:+: t := by
    have h := unwrapLists_isInfix object.length object
    rw [hliteral] at h
    exact h.trans ((inlineObject?_isInfix hobject).trans (trim_isInfix t))
  have hle : braces literal ≤ braces t := hin.sublist.count_le _
  rw [braces_inlineName]
  omega

namespace Plan

variable {read : LiteralReader} (r : Registry)

/-- All depths beyond the number of braces lay out the same plan. -/
theorem ofType_depth (hread : read.Shrinks) {depth depth' : Nat} {name t : Text}
    (h : braces name + braces t < depth) (h' : braces name + braces t < depth') :
    ofType read r depth name t = ofType read r depth' name t := by
  induction depth generalizing depth' name t with
  | zero => exact absurd h (Nat.not_lt_zero _)
  | succ depth ih =>
      cases depth' with
      | zero => exact absurd h' (Nat.not_lt_zero _)
      | succ depth' =>
          unfold ofType
          dsimp only
          cases hobject : inlineObject? (Text.trim t) with
          | none => rfl
          | some found =>
              obtain ⟨object, modifiers⟩ := found
              dsimp only
              cases hliteral : unwrapLists object.length object with
              | mk lists literal =>
                  dsimp only
                  cases hd : read name literal with
                  | error e => rfl
                  | ok d =>
                      -- a property has fewer braces than the object, so both depths are still
                      -- beyond them
                      have hplan (p : Property) (hp : p ∈ d.properties) :
                          ofType read r depth (inlineName d.name p.name) p.type
                            = ofType read r depth' (inlineName d.name p.name) p.type := by
                        have hlt := hread.property_lt hobject hliteral hd hp
                        exact ih (by omega) (by omega)
                      obtain ⟨dname, kind, properties, line⟩ := d
                      cases properties with
                      | nil => rfl
                      | cons first rest =>
                          have hplans := List.map_congr_left fun p hp =>
                            congrArg (Prod.mk p) (hplan p hp)
                          exact congrArg (waiting _ _ · _) hplans

end Plan

namespace Sequential

variable {read : LiteralReader} (r : Registry)

/-- Only how the properties at hand are resolved matters. -/
theorem fieldsBy_congr {resolve resolve' : Property → Traced Schema} {properties : List Property}
    (h : ∀ p ∈ properties, resolve p = resolve' p) :
    fieldsBy resolve properties = fieldsBy resolve' properties := by
  induction properties with
  | nil => rfl
  | cons p rest ih =>
      unfold fieldsBy
      rw [h p (List.mem_cons_self ..), ih fun q hq => h q (List.mem_cons_of_mem _ hq)]

/-- All depths beyond the number of braces come to the same. -/
theorem ofType_depth (hread : read.Shrinks) {depth depth' : Nat} {name t : Text}
    (h : braces name + braces t < depth) (h' : braces name + braces t < depth') :
    ofType read r depth name t = ofType read r depth' name t := by
  rw [← Plan.inOrder_ofType, ← Plan.inOrder_ofType, Plan.ofType_depth r hread h h']

/-- Resolve the type of a property, as deep as it goes. -/
def typeOf (read : LiteralReader) (name t : Text) : Traced Schema :=
  ofType read r (Plan.depthFor name t) name t

/-- The nesting of a type stays below the bound. -/
theorem braces_lt_depthFor (name t : Text) : braces name + braces t < Plan.depthFor name t := by
  have hname : braces name ≤ name.length := List.count_le_length
  have ht : braces t ≤ t.length := List.count_le_length
  unfold Plan.depthFor
  omega

/-- The type of a property is resolved by plain recursion: an inline object is read and
its properties are resolved, and anything else is an expression. -/
theorem typeOf_eq (hread : read.Shrinks) (name t : Text) :
    typeOf r read name t = (match Plan.inlineObject? (Text.trim t) with
      | none => r.resolveExpression (Text.trim t)
      | some (object, modifiers) => do
        let (lists, literal) := unwrapLists object.length object
        let d ← .event .literal (read name literal)
        let resolve (p : Property) := typeOf r read (inlineName d.name p.name) p.type
        let fields ← fieldsBy resolve d.properties
        r.applyModifiers modifiers ((Schema.modelOf d.name fields).nested lists)) := by
  have hdepth := braces_lt_depthFor name t
  unfold typeOf
  cases hn : Plan.depthFor name t with
  | zero => exact absurd (hn ▸ hdepth) (Nat.not_lt_zero _)
  | succ depth =>
      rw [hn] at hdepth
      rw [ofType]
      dsimp only
      cases hobject : Plan.inlineObject? (Text.trim t) with
      | none => rfl
      | some found =>
          obtain ⟨object, modifiers⟩ := found
          dsimp only
          cases hliteral : unwrapLists object.length object with
          | mk lists literal =>
              dsimp only
              cases hd : read name literal with
              | error e => rfl
              | ok d =>
                  rw [Traced.bind_of_ok (a := d) _ rfl, Traced.bind_of_ok (a := d) _ rfl]
                  congr 2
                  refine fieldsBy_congr fun p hp => ?_
                  -- one depth less is enough for a property, and then any depth is as good
                  have hlt := hread.property_lt hobject hliteral hd hp
                  exact ofType_depth r hread (by omega) (braces_lt_depthFor _ _)

end Sequential

end TypeShape
