/-
Texts where a parameter accepts values of several kinds.

The kinds are asked one after the other whether the text opens like them, and the first one that
it opens like has it read. Yet their order does not matter. A text that can be read opens like
its value, whatever blanks stand before it (`Json.read_opener`), so the kind that was
found is that of the value, and a text that cannot be read fails for all of them alike.

Where a text stays one that cannot be read, this is said of texts that are not left out
(`Json.Paired`).
-/
import TypeShape.Parameter.Convert
import TypeShape.Proofs.Json.Numbers
import TypeShape.Proofs.Json.Surrogates
import TypeShape.Proofs.TypeText.Occurrence

namespace TypeShape

-- ================================================================ scalars

namespace Json

/-- Neither a list nor an object. -/
def Scalar (v : Json) : Prop :=
  ∀ c : Collection, c.holds v = false

/-- How words and numbers start: with no blank and with no opener. -/
def startsScalar : Text → Bool
  | [] => false
  | c :: _ => !isBlank c && c != '[' && c != '{'

/-- Numbers start with a digit. -/
theorem startsScalar_of_isDigit {c : Char} (h : c.isDigit = true) (rest : Text) :
    startsScalar (c :: rest) = true := by
  have hrange := toNat_of_isDigit h
  have hblank : isBlank c = false := by
    unfold isBlank isAscii
    rw [if_pos (decide_eq_true (by omega))]
    simp
    omega
  show (!isBlank c && c != '[' && c != '{') = true
  rw [hblank]
  simp only [Bool.not_false, Bool.true_and, Bool.and_eq_true, bne_iff_ne]
  constructor
  · rintro rfl
    exact absurd h (by decide)
  · rintro rfl
    exact absurd h (by decide)

/-- A number starts with a digit after its sign. -/
theorem readNumber?_eq_some {negative : Bool} {t left : Text} {v : Json}
    (h : readNumber? negative t = some (.ok (v, left))) : startsScalar t = true ∧ v.Scalar := by
  unfold readNumber? at h
  obtain ⟨⟨whole, rest⟩, hwhole, hvalue⟩ := Option.map_eq_some_iff.1 h
  constructor
  · split at hwhole
    case h_1 => exact startsScalar_of_isDigit (by decide) _
    case h_2 c rest _ =>
      split at hwhole
      case isTrue hdigit => exact startsScalar_of_isDigit hdigit _
      case isFalse => cases hwhole
    case h_3 => cases hwhole
  · dsimp only at hvalue
    intro c
    split at hvalue
    case h_1 =>
      cases hvalue
      cases c <;> rfl
    case h_2 =>
      split at hvalue
      case isTrue =>
        split at hvalue
        case h_1 =>
          cases hvalue
          cases c <;> rfl
        case h_2 => cases hvalue
      case isFalse =>
        cases hvalue
        cases c <;> rfl

/-- The words start and mean so. -/
theorem words_scalar : ∀ w ∈ words, startsScalar w.1 = true
    ∧ Collection.list.holds w.2 = false ∧ Collection.object.holds w.2 = false := by
  decide +kernel

/-- What is neither a string nor a collection starts as words and numbers do, and is none of
these. -/
theorem readScalar_eq_ok {t left : Text} {v : Json} (h : readScalar t = .ok (v, left)) :
    startsScalar t = true ∧ v.Scalar := by
  unfold readScalar at h
  split at h
  case h_1 found hfound =>
    cases h
    -- one of the words: what it stands for is no collection
    obtain ⟨w, hw, hafter⟩ := List.exists_of_findSome?_eq_some hfound
    obtain ⟨left', hword, heq⟩ := Option.map_eq_some_iff.1 hafter
    cases heq
    obtain ⟨hstarts, hlist, hobject⟩ := words_scalar w hw
    unfold afterWord? at hword
    split at hword
    case isTrue hprefix =>
      obtain ⟨rest, rfl⟩ := List.isPrefixOf_iff_prefix.1 hprefix
      refine ⟨?_, fun c => ?_⟩
      · cases hword' : w.1 with
        | nil =>
            rw [hword'] at hstarts
            cases hstarts
        | cons d word =>
            rw [hword'] at hstarts
            exact hstarts
      · cases c with
        | list => exact hlist
        | object => exact hobject
    case isFalse => cases hword
  case h_2 =>
    dsimp only at h
    split at h
    case h_1 found hnumber =>
      rw [h] at hnumber
      split at hnumber
      -- a minus sign comes first, or else the digits
      case h_1 rest => exact ⟨rfl, (readNumber?_eq_some hnumber).2⟩
      case h_2 => exact readNumber?_eq_some hnumber
    case h_2 => cases h

/-- What starts like a scalar opens neither a list nor an object. -/
theorem startsScalar_opener {t : Text} (h : startsScalar t = true) :
    ∃ d rest, t = d :: rest ∧ isBlank d = false ∧ ∀ c : Collection, d ≠ c.opener := by
  cases t with
  | nil => cases h
  | cons d rest =>
      unfold startsScalar at h
      simp only [Bool.and_eq_true, Bool.not_eq_true', bne_iff_ne] at h
      refine ⟨d, rest, rfl, h.1.1, fun c => ?_⟩
      cases c with
      | list => exact h.1.2
      | object => exact h.2

-- ================================================================= values

/-- A text opens like the value at its start, and not with a blank. -/
theorem readValue_opener {fuel : Nat} {t left : Text} {v : Json}
    (h : readValue fuel t = .ok (v, left)) : ∃ d rest, t = d :: rest ∧ isBlank d = false
      ∧ ∀ c : Collection, c.holds v = true ↔ d = c.opener := by
  cases fuel with
  | zero => cases h
  | succ fuel =>
      unfold readValue at h
      split at h
      case h_1 rest =>
        obtain ⟨found, -, hfound⟩ := exists_of_bind_eq_ok h
        cases hfound
        exact ⟨_, _, rfl, by decide, fun c => by
          cases c <;> simp [Collection.holds, Collection.opener]⟩
      -- the list may be empty, and then nothing more is read
      case h_2 rest =>
        have hlist : ∃ items, v = .arr items := by
          split at h
          case h_1 =>
            cases h
            exact ⟨_, rfl⟩
          case h_2 =>
            obtain ⟨found, -, hfound⟩ := exists_of_bind_eq_ok h
            cases hfound
            exact ⟨_, rfl⟩
        obtain ⟨items, rfl⟩ := hlist
        exact ⟨_, _, rfl, by decide, fun c => by
          cases c <;> simp [Collection.holds, Collection.opener]⟩
      case h_3 rest =>
        have hobject : ∃ entries, v = .obj entries := by
          split at h
          case h_1 =>
            cases h
            exact ⟨_, rfl⟩
          case h_2 =>
            obtain ⟨found, -, hfound⟩ := exists_of_bind_eq_ok h
            cases hfound
            exact ⟨_, rfl⟩
        obtain ⟨entries, rfl⟩ := hobject
        exact ⟨_, _, rfl, by decide, fun c => by
          cases c <;> simp [Collection.holds, Collection.opener]⟩
      case h_4 =>
        obtain ⟨hstarts, hscalar⟩ := readScalar_eq_ok h
        obtain ⟨d, rest, rfl, hblank, hopener⟩ := startsScalar_opener hstarts
        refine ⟨d, rest, rfl, hblank, fun c => ?_⟩
        rw [hscalar c]
        exact ⟨fun holds => absurd holds Bool.false_ne_true, fun opens => absurd opens (hopener c)⟩

/-- The blanks of JSON are blanks. -/
theorem isBlank_of_isSpace {c : Char} (h : isSpace c = true) : isBlank c = true := by
  unfold isSpace at h
  simp only [Bool.or_eq_true, beq_iff_eq] at h
  rcases h with ((rfl | rfl) | rfl) | rfl <;> decide

/-- Trimmed, a text that can be read opens like its value. -/
theorem read_opener {t : Text} {v : Json} (h : read t = .ok v) (c : Collection) :
    c.holds v = true ↔ (Text.trim t).head? = some c.opener := by
  have hvalue : ∃ left, readValue (2 * t.length + 2) (skip t) = .ok (v, left) := by
    have hall : readAll t = .ok v := by
      unfold read at h
      cases hall : readAll t with
      | error flaw =>
          rw [hall] at h
          cases h
      | ok w =>
          rw [hall] at h
          exact congrArg Except.ok (Except.ok.inj h)
    unfold readAll at hall
    split at hall
    case h_1 => cases hall
    case h_2 =>
      obtain ⟨⟨value, left⟩, hvalue, hrest⟩ := exists_of_bind_eq_ok hall
      dsimp only at hrest
      split at hrest
      case isTrue =>
        cases hrest
        exact ⟨left, hvalue⟩
      case isFalse => cases hrest
  obtain ⟨left, hvalue⟩ := hvalue
  obtain ⟨d, rest, hskip, hblank, hopener⟩ := readValue_opener hvalue
  -- the reader skips fewer characters than are trimmed, but stops at one that is not blank
  have hhead : (Text.trim t).head? = some d := by
    have happend : t.takeWhile isSpace ++ d :: rest = t := by
      rw [← hskip]
      exact List.takeWhile_append_dropWhile
    have hfront : (t.takeWhile isSpace).dropWhile isBlank = [] :=
      List.dropWhile_eq_nil_iff.2 fun c hc => isBlank_of_isSpace (List.mem_takeWhile_imp hc)
    rw [← happend, trim_append_cons hblank, Text.trimLeft, hfront]
    rfl
  rw [hopener, hhead, Option.some.injEq]

end Json

-- ================================================================ choices

namespace Hint

variable {kinds kinds' : List Kind} {parameter t : Text}

/-- Whether a value is of one of the collections among some kinds. -/
def admits (kinds : List Kind) (v : Json) : Bool :=
  kinds.any fun
    | .collection c => c.holds v
    | _ => false

/-- What a text means where some kinds of values are accepted: the list or the object that it is
read as, if such are accepted, and else itself. -/
def meant (kinds : List Kind) (t : Text) : Json :=
  match Json.read t with
  | .ok v => if admits kinds v then v else .str t
  | .error _ => .str t

/-- A text that can be read opens like the kinds of its value. -/
theorem any_opens {v : Json} (h : Json.read t = .ok v) (kinds : List Kind) :
    kinds.any (opens t) = admits kinds v := by
  unfold admits
  congr 1
  funext kind
  cases kind with
  | collection c =>
      rw [Bool.eq_iff_iff, Json.read_opener h]
      exact beq_iff_eq
  | text => rfl
  | other => rfl

/-- A text that can be read means its value if it opens like one of the kinds. -/
theorem meant_of_ok {v : Json} (h : Json.read t = .ok v) (kinds : List Kind) :
    meant kinds t = if kinds.any (opens t) = true then v else .str t := by
  unfold meant
  rw [h, any_opens h]

/-- A text that cannot be read means itself. -/
theorem meant_of_error {why : Json.Stop Json.ReadFault} (h : Json.read t = .error why)
    (kinds : List Kind) : meant kinds t = .str t := by
  unfold meant
  rw [h]

/-- Which of the kinds that a text opens like comes first does not matter. -/
theorem convertChoice_eq (kinds : List Kind) (parameter t : Text) :
    convertChoice kinds parameter t = match Json.read t with
      | .ok _ => .ok (meant kinds t)
      | .error why =>
        if kinds.any (opens t) = true ∧ (.text ∉ kinds ∨ why = .unpaired) then
          .error (.unread parameter why)
        else .ok (.str t) := by
  unfold convertChoice
  cases hfind : kinds.find? (opens t) with
  | none =>
      have hnone : ¬ kinds.any (opens t) = true := by
        rw [Bool.not_eq_true, List.any_eq_false]
        exact List.find?_eq_none.1 hfind
      cases hread : Json.read t with
      | error why =>
          dsimp only
          rw [if_neg fun refused => hnone refused.1]
      | ok v =>
          dsimp only
          rw [meant_of_ok hread, if_neg hnone]
  | some kind =>
      -- only collections open like a text, and what is read then is of the kind that was found
      have hopens := List.find?_some hfind
      have hany : kinds.any (opens t) = true :=
        List.any_eq_true.2 ⟨kind, List.mem_of_find?_eq_some hfind, hopens⟩
      cases kind with
      | text => cases hopens
      | other => cases hopens
      | collection c =>
          dsimp only [readCollection]
          cases hread : Json.read t with
          | error why =>
              -- a text is kept where it is declared, save for one that the reader leaves out
              have hkept : (kinds.elem .text && !(ParameterFault.unread parameter why).isLeftOut) = true
                  ↔ ¬ (.text ∉ kinds ∨ why = .unpaired) := by
                cases why <;> simp [ParameterFault.isLeftOut]
              dsimp only
              by_cases hrefused : .text ∉ kinds ∨ why = .unpaired
              · rw [if_neg fun h => hkept.1 h hrefused, if_pos ⟨hany, hrefused⟩]
              · rw [if_pos (hkept.2 hrefused), if_neg fun h => hrefused h.2]
          | ok v =>
              have hholds : c.holds v = true := (Json.read_opener hread c).2 (beq_iff_eq.1 hopens)
              dsimp only
              rw [if_pos hholds, meant_of_ok hread, if_pos hany]

/-- The only text that a text can mean is itself. -/
theorem eq_of_meant_eq_str {s : Text} (h : meant kinds t = .str s) : s = t := by
  unfold meant at h
  split at h
  case h_1 v _ =>
    split at h
    case isTrue hadmits =>
      -- a text is neither a list nor an object
      obtain ⟨kind, -, hkind⟩ := List.any_eq_true.1 hadmits
      rw [h] at hkind
      cases kind with
      | collection c => cases c <;> cases hkind
      | text => cases hkind
      | other => cases hkind
    case isFalse => exact (Json.str.inj h).symm
  case h_2 => exact (Json.str.inj h).symm

/-- What comes out is what the text means. -/
theorem eq_meant_of_convert {v : Json} (h : convert parameter (.choice kinds) (.str t) = .ok v) :
    v = meant kinds t := by
  rw [convert, convertChoice_eq] at h
  cases hread : Json.read t with
  | ok w =>
      rw [hread] at h
      exact (Except.ok.inj h).symm
  | error why =>
      rw [hread] at h
      dsimp only at h
      split at h
      case isTrue => cases h
      case isFalse => rw [meant_of_error hread, ← Except.ok.inj h]

/-- Where texts are accepted, something always comes out. -/
theorem convert_of_text_mem (h : .text ∈ kinds) (paired : Json.Paired t) :
    convert parameter (.choice kinds) (.str t) = .ok (meant kinds t) := by
  rw [convert, convertChoice_eq]
  cases hread : Json.read t with
  | ok w => rfl
  | error why =>
      have hwhy : why ≠ .unpaired := fun unpaired => paired (unpaired ▸ hread)
      dsimp only
      rw [if_neg fun refused => refused.2.elim (absurd h) hwhy, meant_of_error hread]

/-- Elsewhere a text is refused that cannot be read, if it opens like what is accepted. -/
theorem convert_eq_error_iff (h : .text ∉ kinds) {fault : ParameterFault} :
    convert parameter (.choice kinds) (.str t) = .error fault ↔ kinds.any (opens t) = true
      ∧ ∃ why, Json.read t = .error why ∧ fault = .unread parameter why := by
  rw [convert, convertChoice_eq]
  cases Json.read t with
  | ok w => simp
  | error why =>
      dsimp only
      by_cases hopens : kinds.any (opens t) = true
      · rw [if_pos ⟨hopens, .inl h⟩]
        simp [hopens, eq_comm]
      · rw [if_neg fun refused => hopens refused.1]
        simp [hopens]

/-- The order of the kinds does not matter, nor how often they are listed. -/
theorem convert_congr (h : ∀ kind, kind ∈ kinds' ↔ kind ∈ kinds) :
    convert parameter (.choice kinds') (.str t) = convert parameter (.choice kinds) (.str t) := by
  have hany (p : Kind → Bool) : kinds'.any p = kinds.any p := by
    rw [Bool.eq_iff_iff, List.any_eq_true, List.any_eq_true]
    simp only [h]
  rw [convert, convert, convertChoice_eq, convertChoice_eq]
  unfold meant admits
  simp only [hany, h]

/-- What came out stays. -/
theorem convert_again {v : Json} (h : convert parameter (.choice kinds) (.str t) = .ok v) :
    convert parameter (.choice kinds) v = .ok v := by
  have hmeant := eq_meant_of_convert h
  cases v with
  | str s =>
      obtain rfl := eq_of_meant_eq_str hmeant.symm
      exact h
  | null => rfl
  | bool value => rfl
  | int value => rfl
  | float value => rfl
  | arr items => rfl
  | obj entries => rfl

end Hint

end TypeShape
