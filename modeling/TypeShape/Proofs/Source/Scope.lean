/-
What a parser leaves behind: later cursors stand further on in the same text.

A scope is a text together with what may be said of the declarations found in it. The
parsers keep within their scope: what is left of the text is an end of it, and whatever
they find lies in it. The property is a class, so that for a rule it follows from the
form of the rule.
-/
import TypeShape.Proofs.Source.Name
import TypeShape.Source.Goal

namespace TypeShape.Source

-- ============================================================ type texts

/-- What an annotation of the text says: after its colon comes a comment, and this is it, or a
type is written from the next lexeme on. -/
def Annotates (t type : Text) : Prop :=
  ∃ before rest written, before ++ ':' :: rest = t ∧ written <+: ahead rest
    ∧ type = (comment? (rest.dropWhile isSpace)).getD written

/-- What an annotation of a text says, or the type of what has no annotation. -/
def TypeIn (t type : Text) : Prop :=
  type = "any".toList ∨ Annotates t type

/-- Properties with such types. -/
def TypesIn (t : Text) (properties : List Property) : Prop :=
  ∀ p ∈ properties, TypeIn t p.type

/-- A comment at the start of a text is a beginning of it. -/
theorem comment?_isPrefix {t comment : Text} (h : comment? t = some comment) : comment <+: t := by
  unfold comment? at h
  split at h
  · cases h
    exact List.prefix_cons_inj _ |>.2 (List.prefix_cons_inj _ |>.2 (List.takeWhile_prefix _))
  · split at h
    · cases h
      exact List.prefix_cons_inj _ |>.2 (List.prefix_cons_inj _ |>.2 (List.take_prefix _ _))
    · cases h
  · cases h

/-- What an annotation says lies in the text. -/
theorem Annotates.isInfix {t type : Text} (h : Annotates t type) : type <:+: t := by
  obtain ⟨before, rest, written, rfl, hwritten, rfl⟩ := h
  have hrest : rest <:+: before ++ ':' :: rest :=
    ((List.suffix_cons ':' rest).trans (List.suffix_append before _)).isInfix
  cases hcomment : comment? (rest.dropWhile isSpace) with
  | none => exact (hwritten.isInfix.trans (ahead_suffix rest).isInfix).trans hrest
  | some comment =>
      exact ((comment?_isPrefix hcomment).isInfix.trans
        (List.dropWhile_suffix _).isInfix).trans hrest

/-- An annotation of an end of a text is one of the text. -/
theorem TypeIn.of_suffix {t t' type : Text} (h : TypeIn t' type) (ht : t' <:+ t) :
    TypeIn t type := by
  obtain ⟨first, rfl⟩ := ht
  refine h.imp_right fun ⟨before, rest, written, hrest, hannotation⟩ => ?_
  exact ⟨first ++ before, rest, written, by rw [← hrest, List.append_assoc], hannotation⟩

theorem TypesIn.append {t : Text} {ps qs : List Property} (hp : TypesIn t ps)
    (hq : TypesIn t qs) : TypesIn t (ps ++ qs) := by
  intro p h
  rcases List.mem_append.1 h with h | h
  · exact hp p h
  · exact hq p h

-- ========================================================= declarations

/-- A text has room for a declaration: its name stands before a brace, as a name of source text,
and the types of its properties after it. -/
def RoomFor (t : Text) (d : Declaration) : Prop :=
  ∃ before body, before ++ '{' :: body = t ∧ (IsName d.name ∧ d.name <:+: before)
    ∧ TypesIn body d.properties

/-- What an end of a text has room for, the text has room for. -/
theorem RoomFor.of_suffix {t t' : Text} {d : Declaration} (h : RoomFor t' d) (ht : t' <:+ t) :
    RoomFor t d := by
  obtain ⟨first, rfl⟩ := ht
  obtain ⟨before, body, rfl, ⟨hname, hbefore⟩, htypes⟩ := h
  exact ⟨first ++ before, body, List.append_assoc ..,
    ⟨hname, hbefore.trans (List.suffix_append ..).isInfix⟩, htypes⟩

-- =============================================================== scopes

/-- A text, and what is to be true of the declarations found in it: at least all that
the text has room for may be found. -/
structure Scope where
  text : Text
  admits : Declaration → Prop
  covers : ∀ d, RoomFor text d → admits d

namespace Scope

variable (σ : Scope)

/-- A cursor within a scope. -/
structure Within (c : Cursor) : Prop where
  rest : c.rest <:+ σ.text
  left : c.left = c.rest.length
  found : ∀ d ∈ c.found, σ.admits d

/-- The scope of an end of the text. -/
def narrow (t : Text) (h : t <:+ σ.text) : Scope :=
  { text := t, admits := σ.admits, covers := fun d hd => σ.covers d (hd.of_suffix h) }

variable {σ}

theorem Within.narrow {c : Cursor} (h : σ.Within c) {t : Text} (ht : t <:+ σ.text)
    (hrest : c.rest <:+ t) : (σ.narrow t ht).Within c :=
  ⟨hrest, h.left, h.found⟩

end Scope

-- ============================================================== cursors

variable {σ : Scope} {c : Cursor}

theorem Scope.Within.skip (h : σ.Within c) : σ.Within c.skip := by
  obtain ⟨hsuffix, hleft⟩ := skipFrom_suffix .between c.left c.line c.rest
  exact ⟨hsuffix.trans h.rest, hleft h.left, h.found⟩

theorem Scope.Within.advance (h : σ.Within c) (n : Nat) : σ.Within (c.advance n) := by
  refine ⟨(List.drop_suffix n c.rest).trans h.rest, ?_, h.found⟩
  show c.left - n = (c.rest.drop n).length
  rw [List.length_drop, h.left]

end TypeShape.Source
