/-
Which texts are left out: only such as have an escape of a surrogate in them.

Whatever is read leaves the end of the text, and a rule that stops at a surrogate without its
partner has found the escape of one (`Leaves`). So this holds of every rule that is made of such
rules, and of values by induction on the fuel (`leaves_readValue`).
-/
import Mathlib.Data.List.Infix
import TypeShape.Json.Reader
import TypeShape.Proofs.Json.Strings
import TypeShape.Proofs.Sequence

namespace TypeShape.Json

-- =============================================================== conditions

/-- Reading a text does not stop at a surrogate without its partner. -/
def Paired (t : Text) : Prop :=
  read t ≠ .error .unpaired

/-- A code unit that is half of a pair. -/
def IsSurrogate (n : Nat) : Prop :=
  (isHighSurrogate n || isLowSurrogate n) = true

/-- The escape of a surrogate stands somewhere in a text. -/
def EscapesSurrogate (t : Text) : Prop :=
  ∃ a b c d n, ['\\', 'u', a, b, c, d] <:+: t ∧ hex4? a b c d = some n ∧ IsSurrogate n

theorem EscapesSurrogate.of_suffix {left t : Text} (h : EscapesSurrogate left) (within : left <:+ t) :
    EscapesSurrogate t := by
  obtain ⟨a, b, c, d, n, here, value, surrogate⟩ := h
  exact ⟨a, b, c, d, n, here.trans within.isInfix, value, surrogate⟩

-- ================================================================== rules

variable {α β : Type} {t left : Text}

/-- What a rule does to a text: it leaves its end, or stops, and only stops at a surrogate without
its partner if the text has the escape of a surrogate. -/
structure Leaves (t : Text) (r : Read (α × Text)) : Prop where
  left : ∀ a left, r = .ok (a, left) → left <:+ t
  unpaired : r = .error .unpaired → EscapesSurrogate t

namespace Leaves

theorem ok (a : α) (h : left <:+ t) : Leaves t (.ok (a, left)) where
  left := by
    rintro _ _ ⟨⟩
    exact h
  unpaired := by rintro ⟨⟩

theorem flawed (flaw : Flaw) (seen : Text) : Leaves t (Json.flawed flaw seen : Read (α × Text)) where
  left := by rintro _ _ ⟨⟩
  unpaired := by rintro ⟨⟩

theorem longNumber (number : LongNumber) :
    Leaves t (.error (.longNumber number) : Read (α × Text)) where
  left := by rintro _ _ ⟨⟩
  unpaired := by rintro ⟨⟩

/-- A rule for the end of a text is one for the text. -/
theorem of_suffix {r : Read (α × Text)} (h : Leaves left r) (within : left <:+ t) : Leaves t r where
  left a rest hr := (h.left a rest hr).trans within
  unpaired hr := (h.unpaired hr).of_suffix within

/-- A rule goes on with what the one before it has left. -/
theorem bind {x : Read (α × Text)} {f : α × Text → Read (β × Text)} (h : Leaves t x)
    (next : ∀ a left, Leaves left (f (a, left))) : Leaves t (x >>= f) := by
  cases hx : x with
  | error stop =>
      refine ⟨?_, ?_⟩
      · rintro _ _ ⟨⟩
      · rintro ⟨⟩
        exact h.unpaired hx
  | ok found =>
      obtain ⟨a, left⟩ := found
      exact (next a left).of_suffix (h.left a left hx)

end Leaves

theorem skip_suffix (t : Text) : skip t <:+ t :=
  List.dropWhile_suffix _

-- ================================================================ strings

/-- Code units that are no characters have a surrogate among them. -/
theorem exists_surrogate {units : List Nat} (h : joinUnits? units = none) :
    ∃ n ∈ units, IsSurrogate n := by
  have alone {n : Nat} (h : unitChar? n = none) : IsSurrogate n := by
    unfold unitChar? at h
    split at h
    case isTrue surrogate => exact surrogate
    case isFalse => cases h
  induction units using joinUnits?.induct with
  | case1 => cases h
  | case2 n => exact ⟨n, List.mem_cons_self .., alone (Option.map_eq_none_iff.1 h)⟩
  | case3 high low rest pair ih =>
      rw [joinUnits?, if_pos pair] at h
      obtain ⟨n, here, surrogate⟩ := ih (Option.map_eq_none_iff.1 h)
      exact ⟨n, List.mem_cons_of_mem _ (List.mem_cons_of_mem _ here), surrogate⟩
  | case4 high low rest pair ih =>
      rw [joinUnits?, if_neg pair] at h
      cases hfirst : unitChar? high with
      | none => exact ⟨high, List.mem_cons_self .., alone hfirst⟩
      | some c =>
          rw [hfirst] at h
          cases hrest : joinUnits? (low :: rest) with
          | none =>
              obtain ⟨n, here, surrogate⟩ := ih hrest
              exact ⟨n, List.mem_cons_of_mem _ here, surrogate⟩
          | some s =>
              rw [hrest] at h
              cases h

/-- No character is a surrogate. -/
theorem not_isSurrogate (c : Char) : ¬ IsSurrogate c.toNat := by
  have apart := toNat_not_surrogate c
  unfold IsSurrogate
  simp only [isHighSurrogate, isLowSurrogate, Bool.or_eq_true, Bool.and_eq_true, decide_eq_true_eq]
  omega

/-- What reading code units does: they come from characters, or from the escapes of surrogates. -/
structure LeavesUnits (t : Text) (r : Read (List Nat × Text)) : Prop where
  leaves : Leaves t r
  escaped : ∀ units left, r = .ok (units, left) → ∀ n ∈ units, IsSurrogate n → EscapesSurrogate t

namespace LeavesUnits

theorem flawed (flaw : Flaw) (seen : Text) : LeavesUnits t (Json.flawed flaw seen) where
  leaves := .flawed flaw seen
  escaped := by rintro _ _ ⟨⟩

/-- One more unit is read in front. -/
theorem cons {unit : Nat} {r : Read (List Nat × Text)} (h : LeavesUnits left r) (within : left <:+ t)
    (first : IsSurrogate unit → EscapesSurrogate t) :
    LeavesUnits t (r >>= fun found => return (unit :: found.1, found.2)) where
  leaves := by
    refine .of_suffix (h.leaves.bind fun units left => ?_) within
    exact .ok (unit :: units) List.suffix_rfl
  escaped := by
    intro units rest hr n here surrogate
    obtain ⟨found, hfound, heq⟩ := exists_of_bind_eq_ok hr
    cases heq
    rcases List.mem_cons.1 here with rfl | here
    · exact first surrogate
    · exact (h.escaped _ _ hfound n here surrogate).of_suffix within

end LeavesUnits

/-- The units up to the quote are read, and every surrogate among them has its escape there. -/
theorem leavesUnits_readUnits (start t : Text) : LeavesUnits t (readUnits start t) := by
  fun_induction readUnits start t with
  | case1 => exact .flawed _ _
  | case2 rest => exact ⟨.ok _ (List.suffix_cons ..), by rintro _ _ ⟨⟩ _ ⟨⟩⟩
  | case3 => exact .flawed _ _
  | case4 a b c d next rest unit value ih =>
      exact ih.cons ⟨['\\', 'u', a, b, c, d], rfl⟩ fun surrogate =>
        ⟨a, b, c, d, unit, ⟨[], next :: rest, rfl⟩, value, surrogate⟩
  | case5 => exact .flawed _ _
  | case6 => exact .flawed _ _
  | case7 c rest _ _ e _ ih =>
      exact ih.cons ⟨['\\', c], rfl⟩ fun surrogate => absurd surrogate (not_isSurrogate e)
  | case8 => exact .flawed _ _
  | case9 => exact .flawed _ _
  | case10 c rest _ _ _ _ _ _ ih =>
      exact ih.cons ⟨[c], rfl⟩ fun surrogate => absurd surrogate (not_isSurrogate c)

/-- A string leaves what stands after its closing quote. -/
theorem leaves_readString (start t : Text) : Leaves t (readString start t) := by
  have units := leavesUnits_readUnits start t
  cases hr : readUnits start t with
  | error stop =>
      rw [readString, hr]
      refine ⟨?_, ?_⟩
      · rintro _ _ ⟨⟩
      · rintro ⟨⟩
        exact units.leaves.unpaired hr
  | ok found =>
      obtain ⟨read, left⟩ := found
      cases joined : joinUnits? read with
      | some s =>
          rw [readString_of_some hr joined]
          exact .ok _ (units.leaves.left _ _ hr)
      | none =>
          rw [readString_of_none hr joined]
          obtain ⟨n, here, surrogate⟩ := exists_surrogate joined
          exact ⟨by rintro _ _ ⟨⟩, fun _ => units.escaped _ _ hr n here surrogate⟩

-- ================================================================ scalars

theorem spanDigits_suffix (t : Text) : (spanDigits t).2 <:+ t :=
  List.dropWhile_suffix _

theorem readFraction_suffix (t : Text) : (readFraction t).2 <:+ t := by
  unfold readFraction
  split
  case h_1 c rest =>
    split
    case isTrue => exact (spanDigits_suffix _).trans (List.suffix_cons ..)
    case isFalse => exact List.suffix_rfl
  case h_2 => exact List.suffix_rfl

/-- An exponent leaves the end of the text. -/
theorem readExponent?_suffix {exponent : Int} (h : readExponent? t = some (exponent, left)) :
    left <:+ t := by
  unfold readExponent? at h
  split at h
  case h_1 e rest =>
    have digits {value : Int} {t : Text} (after : t <:+ rest) (h : (if (spanDigits t).1.isEmpty then
        none else some (value, (spanDigits t).2)) = some (exponent, left)) : left <:+ e :: rest := by
      split at h
      case isTrue => cases h
      case isFalse =>
        cases h
        exact ((spanDigits_suffix t).trans after).trans (List.suffix_cons ..)
    split at h
    case isTrue =>
      dsimp only at h
      split at h
      case h_1 r => exact digits (List.suffix_cons ..) h
      case h_2 r => exact digits (List.suffix_cons ..) h
      case h_3 r => exact digits List.suffix_rfl h
    case isFalse => cases h
  case h_2 => cases h

/-- A number leaves what stands after its digits, its fraction and its exponent. -/
theorem leaves_readNumber? {negative : Bool} {r : Read (Json × Text)}
    (h : readNumber? negative t = some r) : Leaves t r := by
  unfold readNumber? at h
  obtain ⟨⟨whole, rest⟩, hwhole, rfl⟩ := Option.map_eq_some_iff.1 h
  have after : rest <:+ t := by
    split at hwhole
    case h_1 rest' =>
      cases hwhole
      exact List.suffix_cons ..
    case h_2 c rest' _ =>
      split at hwhole
      case isTrue =>
        obtain rfl : (spanDigits (c :: rest')).2 = rest := by rw [Option.some.inj hwhole]
        exact spanDigits_suffix _
      case isFalse => cases hwhole
    case h_3 => cases hwhole
  have fraction := (readFraction_suffix rest).trans after
  dsimp only
  split
  case h_1 exponent rest' hexponent => exact .ok _ ((readExponent?_suffix hexponent).trans fraction)
  case h_2 =>
    split
    case isTrue =>
      split
      case h_1 i _ => exact .ok (Json.int i) fraction
      case h_2 number _ => exact .longNumber number
    case isFalse => exact .ok _ fraction

/-- A word or a number leaves the end of the text. -/
theorem leaves_readScalar (t : Text) : Leaves t (readScalar t) := by
  unfold readScalar
  split
  case h_1 found hfound =>
    obtain ⟨w, -, hafter⟩ := List.exists_of_findSome?_eq_some hfound
    obtain ⟨left, hleft, rfl⟩ := Option.map_eq_some_iff.1 hafter
    unfold afterWord? at hleft
    split at hleft
    case isTrue =>
      cases hleft
      exact .ok _ (List.drop_suffix ..)
    case isFalse => cases hleft
  case h_2 =>
    dsimp only
    split
    case h_1 r hr =>
      split at hr
      case h_1 rest => exact (leaves_readNumber? hr).of_suffix (List.suffix_cons ..)
      case h_2 => exact leaves_readNumber? hr
    case h_2 => exact .flawed _ _

-- ================================================================= values

/-- What stands behind one character after blanks is the end of a text. -/
theorem suffix_of_skip {c : Char} (h : skip t = c :: left) : left <:+ t :=
  ((List.suffix_cons c left).trans (h ▸ List.suffix_rfl)).trans (skip_suffix t)

/-- Values, items and entries leave the end of the text, and stop at an unpaired surrogate only
where one is written. -/
theorem leaves_readValue (fuel : Nat) : (∀ t, Leaves t (readValue fuel t))
    ∧ (∀ t, Leaves t (readItems fuel t)) ∧ ∀ read t, Leaves t (readEntries fuel read t) := by
  -- one unit of fuel is spent on a value, on the items from one on, and on the entries from one on,
  -- so the three are shown together
  induction fuel with
  | zero => exact ⟨fun _ => .flawed _ _, fun _ => .flawed _ _, fun _ _ => .flawed _ _⟩
  | succ fuel ih =>
      obtain ⟨value, items, entries⟩ := ih
      refine ⟨fun t => ?_, fun t => ?_, fun read t => ?_⟩
      · unfold readValue
        split
        case h_1 rest =>
          refine .of_suffix ((leaves_readString _ rest).bind fun s left => ?_) (List.suffix_cons ..)
          exact .ok (Json.str s) List.suffix_rfl
        case h_2 rest =>
          split
          case h_1 left hskip => exact .ok _ ((suffix_of_skip hskip).trans (List.suffix_cons ..))
          case h_2 first _ =>
            refine .of_suffix ((items (skip rest)).bind fun read left => ?_)
              ((skip_suffix rest).trans (List.suffix_cons ..))
            exact .ok (Json.arr read) List.suffix_rfl
        case h_3 rest =>
          split
          case h_1 left hskip => exact .ok _ ((suffix_of_skip hskip).trans (List.suffix_cons ..))
          case h_2 first _ =>
            refine .of_suffix ((entries [] (skip rest)).bind fun read left => ?_)
              ((skip_suffix rest).trans (List.suffix_cons ..))
            exact .ok (Json.obj read) List.suffix_rfl
        case h_4 => exact leaves_readScalar t
      · -- a comma is followed by more items, a bracket by nothing
        unfold readItems
        refine (value t).bind fun item left => ?_
        dsimp only
        split
        case h_1 left' hskip => exact .ok [item] (suffix_of_skip hskip)
        case h_2 left' hskip =>
          refine .of_suffix ((items (skip left')).bind fun read rest => ?_)
            ((skip_suffix left').trans (suffix_of_skip hskip))
          exact .ok (item :: read) List.suffix_rfl
        case h_3 => exact .flawed _ _
      · -- a key, a colon, a value, and then more entries or the end
        unfold readEntries
        split
        case h_1 rest =>
          refine .of_suffix ((leaves_readString _ rest).bind fun key left => ?_)
            (List.suffix_cons ..)
          dsimp only
          split
          case h_1 left' hskip =>
            refine .of_suffix ((value (skip left')).bind fun v after => ?_)
              ((skip_suffix left').trans (suffix_of_skip hskip))
            dsimp only
            split
            case h_1 left'' hskip' => exact .ok _ (suffix_of_skip hskip')
            case h_2 left'' hskip' =>
              exact (entries _ (skip left'')).of_suffix
                ((skip_suffix left'').trans (suffix_of_skip hskip'))
            case h_3 => exact .flawed _ _
          case h_2 => exact .flawed _ _
        case h_2 => exact .flawed _ _

/-- A text is left out only if the escape of a surrogate stands in it. -/
theorem escapesSurrogate_of_not_paired (h : ¬ Paired t) : EscapesSurrogate t := by
  have hread : read t = .error .unpaired := Classical.not_not.1 h
  have hall : readAll t = .error .unpaired := by
    unfold read at hread
    cases hall : readAll t with
    | ok v =>
        rw [hall] at hread
        cases hread
    | error stop =>
        rw [hall] at hread
        cases stop with
        | flaw what => cases hread
        | longNumber number => cases hread
        | unpaired => rfl
  unfold readAll at hall
  split at hall
  case h_1 => cases hall
  case h_2 =>
    rcases bind_eq_error hall with hvalue | ⟨⟨v, left⟩, -, hend⟩
    · exact (((leaves_readValue _).1 _).unpaired hvalue).of_suffix (skip_suffix t)
    · dsimp only at hend
      split at hend
      case isTrue => cases hend
      case isFalse => cases hend

/-- So a text without a backslash is read, or refused. -/
theorem paired_of_notMem (h : '\\' ∉ t) : Paired t := by
  by_contra unpaired
  obtain ⟨a, b, c, d, n, here, -⟩ := escapesSurrogate_of_not_paired unpaired
  exact h (here.subset (List.mem_cons_self ..))

end TypeShape.Json
