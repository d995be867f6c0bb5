/-
What stands between two lexemes: blanks and comments.

Skipping passes all of a gap, whatever comes after it (`skipFrom_gap`), and where a comment is
asked for it is the first one of the gap that is found (`comment?_gap`).
-/
import Mathlib.Data.List.Infix
import TypeShape.Source.Cursor

namespace TypeShape.Source

-- ================================================================= gaps

/-- A blank or a comment. A comment goes no further than to where it is first closed; with a line
comment the character that ends the line is skipped. -/
inductive Spacer
  | blank (c : Char) (isBlank : isSpace c = true)
  | line (inside : Text) (ending : Char) (isOpen : ∀ d ∈ inside, isLineEnd d = false)
    (ends : isLineEnd ending = true)
  | block (inside : Text) (isOpen : ¬ ['*', '/'] <:+: inside)

namespace Spacer

/-- A blank or comment as it is written. -/
def print : Spacer → Text
  | .blank c _ => [c]
  | .line inside ending .. => '/' :: '/' :: (inside ++ [ending])
  | .block inside _ => '/' :: '*' :: (inside ++ ['*', '/'])

/-- A comment without the line break that ends it. -/
def comment? : Spacer → Option Text
  | .blank .. => none
  | .line inside .. => some ('/' :: '/' :: inside)
  | .block inside _ => some ('/' :: '*' :: (inside ++ ['*', '/']))

end Spacer

/-- One blank. -/
def blank : Spacer :=
  .blank ' ' rfl

/-- Blanks and comments in a row, as they are written. -/
def gapText (gap : List Spacer) : Text :=
  gap.flatMap Spacer.print

/-- The first comment among them. -/
def firstComment? (gap : List Spacer) : Option Text :=
  gap.findSome? Spacer.comment?

-- ============================================================= comments

variable {inside : Text} {d : Char}

theorem notInfix_tail (h : ¬ ['*', '/'] <:+: d :: inside) : ¬ ['*', '/'] <:+: inside :=
  fun hin => h (hin.trans (List.suffix_cons d inside).isInfix)

/-- Before its end nothing closes a comment. -/
theorem not_closing (h : ¬ ['*', '/'] <:+: d :: inside) {u v : Text}
    (hu : inside ++ '*' :: u = '/' :: v) : d ≠ '*' := by
  rintro rfl
  cases inside with
  | nil => cases hu
  | cons e inside =>
      cases hu
      exact h ⟨[], inside, rfl⟩

theorem closesBlock_append (inside u : Text) : closesBlock (inside ++ '*' :: '/' :: u) = true := by
  induction inside with
  | nil => rfl
  | cons d inside ih =>
      rw [List.cons_append]
      unfold closesBlock
      split
      case h_1 => rfl
      case h_2 heq => cases heq; exact ih
      case h_3 heq => cases heq

/-- A block comment ends where it is closed. -/
theorem blockTail_append (h : ¬ ['*', '/'] <:+: inside) (u : Text) :
    blockTail (inside ++ '*' :: '/' :: u) = inside.length + 2 := by
  induction inside with
  | nil => rfl
  | cons d inside ih =>
      rw [List.cons_append]
      unfold blockTail
      split
      case h_1 heq =>
        obtain ⟨rfl, htail⟩ := List.cons.inj heq
        exact absurd rfl (not_closing h htail)
      case h_2 heq => cases heq; rw [ih (notInfix_tail h), List.length_cons]
      case h_3 heq => cases heq

/-- A comment is found where it opens. -/
theorem Spacer.comment?_append {s : Spacer} {comment : Text} (hcomment : s.comment? = some comment)
    (u : Text) : Source.comment? (s.print ++ u) = some comment := by
  cases s with
  | blank => cases hcomment
  | line inside ending hinside hending =>
      cases hcomment
      have htake : (inside ++ ([ending] ++ u)).takeWhile (fun c => !isLineEnd c) = inside := by
        rw [List.takeWhile_append_of_pos fun d hd => by rw [hinside d hd]; rfl,
          List.singleton_append, List.takeWhile_cons_of_neg (by rw [hending]; simp),
          List.append_nil]
      rw [print, List.cons_append, List.cons_append, List.append_assoc, Source.comment?, htake]
  | block inside hinside =>
      cases hcomment
      simp only [print, List.cons_append, List.append_assoc, List.nil_append, Source.comment?,
        closesBlock_append, blockTail_append hinside, if_true]
      rw [show inside ++ '*' :: '/' :: u = (inside ++ ['*', '/']) ++ u by simp, List.take_left']
      simp

-- ============================================================== skipping

variable {u : Text}

/-- A line comment is skipped with the character that ends it. -/
theorem skipFrom_line {ending : Char} (hinside : ∀ d ∈ inside, isLineEnd d = false)
    (hending : isLineEnd ending = true) (left line : Nat) (u : Text) :
    skipFrom .lineComment left line (inside ++ ending :: u)
      = skipFrom .between (left - (inside.length + 1))
          (line + (inside ++ [ending]).count '\n') u := by
  induction inside generalizing left line with
  | nil =>
      rw [List.nil_append, skipFrom]
      simp only [hending, if_true, List.nil_append, List.length_nil, List.count_singleton,
        beq_iff_eq]
      split <;> rfl
  | cons d inside ih =>
      have hd := hinside d List.mem_cons_self
      rw [List.cons_append, skipFrom]
      simp only [hd, Bool.false_eq_true, if_false]
      rw [ih (fun e he => hinside e (List.mem_cons_of_mem d he)), List.length_cons,
        List.cons_append, List.count_cons]
      congr 1
      · omega
      · simp only [beq_iff_eq]
        split <;> omega

/-- A block comment is skipped up to where it is closed. -/
theorem skipFrom_block (h : ¬ ['*', '/'] <:+: inside) (left line : Nat) (u : Text) :
    skipFrom .blockComment left line (inside ++ '*' :: '/' :: u)
      = skipFrom .between (left - (inside.length + 2)) (line + inside.count '\n') u := by
  -- on the length, since a star and a slash are looked at together
  induction hlength : inside.length using Nat.strong_induction_on generalizing inside left line with
  | _ n ih =>
      subst hlength
      cases inside with
      | nil =>
          rw [List.nil_append, skipFrom]
          rfl
      | cons d inside =>
          have hcount : line + (d :: inside).count '\n'
              = (if d = '\n' then line + 1 else line) + inside.count '\n' := by
            rw [List.count_cons]
            simp only [beq_iff_eq]
            split <;> omega
          by_cases hslash : ∃ v, inside ++ '*' :: '/' :: u = '/' :: v
          case pos =>
            obtain ⟨v, hv⟩ := hslash
            -- a slash comes next, so this is no star, and the slash is skipped as well
            have hd := not_closing h hv
            cases inside with
            | nil => cases hv
            | cons e inside =>
                cases hv
                rw [List.cons_append, List.cons_append, skipFrom]
                have hlt : inside.length < (d :: '/' :: inside).length := by
                  simp only [List.length_cons]
                  omega
                rw [if_neg hd, ih _ hlt (notInfix_tail (notInfix_tail h)) _ _ rfl, hcount,
                  List.count_cons_of_ne (by decide)]
                congr 1
                simp only [List.length_cons]
                omega
          case neg =>
            rw [List.cons_append, skipFrom, ih _ (by simp) (notInfix_tail h) _ _ rfl, hcount]
            · congr 1
              simp only [List.length_cons]
              omega
            · exact fun v hv => hslash ⟨v, hv⟩

/-- A spacer is skipped as it is printed. -/
theorem Spacer.skipFrom_print (s : Spacer) (left line : Nat) (u : Text) :
    skipFrom .between left line (s.print ++ u)
      = skipFrom .between (left - s.print.length) (line + s.print.count '\n') u := by
  cases s with
  | blank c hc =>
      rw [print, List.singleton_append]
      conv_lhs => unfold skipFrom
      simp only [hc, if_true, List.length_singleton, List.count_singleton, beq_iff_eq]
      congr 1
      split <;> rfl
  | line inside ending hinside hending =>
      rw [print, List.cons_append, List.cons_append, List.append_assoc, List.singleton_append,
        skipFrom]
      simp only [show isSpace '/' = false from rfl, Bool.false_eq_true, if_false, if_true]
      rw [skipFrom_line hinside hending, List.count_cons_of_ne (by decide),
        List.count_cons_of_ne (by decide)]
      congr 1
      simp only [List.length_cons, List.length_append, List.length_nil]
      omega
  | block inside hinside =>
      rw [print, List.cons_append, List.cons_append, List.append_assoc, skipFrom]
      simp only [show isSpace '/' = false from rfl, Bool.false_eq_true, if_false, if_true,
        List.cons_append, List.nil_append, closesBlock_append]
      rw [skipFrom_block hinside]
      congr 1
      · simp only [List.length_cons, List.length_append, List.length_nil]
        omega
      · simp

/-- Before any text a gap is skipped, and its characters and line breaks are counted. -/
theorem skipFrom_gap (gap : List Spacer) (left line : Nat) (u : Text) :
    skipFrom .between left line (gapText gap ++ u)
      = skipFrom .between (left - (gapText gap).length) (line + (gapText gap).count '\n') u := by
  induction gap generalizing left line with
  | nil => rfl
  | cons s gap ih =>
      have htext : gapText (s :: gap) = s.print ++ gapText gap := List.flatMap_cons
      rw [htext, List.append_assoc, s.skipFrom_print, ih, List.length_append, List.count_append]
      congr 1 <;> omega

/-- The first comment of a gap is found before all that comes after it. -/
theorem comment?_gap (gap : List Spacer) (u : Text) :
    comment? ((gapText gap ++ u).dropWhile isSpace)
      = (firstComment? gap).or (comment? (u.dropWhile isSpace)) := by
  induction gap with
  | nil => rfl
  | cons s gap ih =>
      have htext : gapText (s :: gap) = s.print ++ gapText gap := List.flatMap_cons
      rw [htext, List.append_assoc, firstComment?, List.findSome?_cons]
      cases hcomment : s.comment? with
      | none =>
          cases s with
          | blank c hc =>
              rw [Spacer.print, List.singleton_append, List.dropWhile_cons_of_pos hc]
              exact ih
          | line => cases hcomment
          | block => cases hcomment
      | some comment =>
          -- a comment opens with a slash, which is no blank
          have hopen : (s.print ++ (gapText gap ++ u)).dropWhile isSpace
              = s.print ++ (gapText gap ++ u) := by
            cases s with
            | blank => cases hcomment
            | line => rfl
            | block => rfl
          rw [hopen, s.comment?_append hcomment]
          rfl

-- ================================================================ places

/-- Skipping leaves an end of the text, and the right count of it. -/
theorem skipFrom_suffix (mode : Skipping) (left line : Nat) (t : Text) :
    (skipFrom mode left line t).1 <:+ t
      ∧ (left = t.length →
        (skipFrom mode left line t).2.1 = (skipFrom mode left line t).1.length) := by
  fun_induction skipFrom mode left line t <;>
    grind [List.suffix_refl, List.IsSuffix.trans, List.suffix_cons]

/-- What is left after blanks and comments does not depend on the counts. -/
theorem skipFrom_rest (mode : Skipping) (left left' line line' : Nat) (t : Text) :
    (skipFrom mode left line t).1 = (skipFrom mode left' line' t).1 := by
  fun_induction skipFrom mode left line t generalizing left' line' <;>
    conv => rhs; unfold skipFrom
  all_goals grind

/-- The text from the next lexeme on. -/
def ahead : Text → Text
  | [] => []
  | d :: u =>
    if isSpace d then ahead u
    else if d = '/' then (skipFrom .between 0 0 (d :: u)).1
    else d :: u

/-- It is what is left after blanks and comments. -/
theorem skipFrom_between (left line : Nat) (u : Text) :
    (skipFrom .between left line u).1 = ahead u := by
  induction u generalizing left line with
  | nil => rfl
  | cons d u ih =>
      unfold ahead
      split_ifs with hspace hslash
      · unfold skipFrom
        simp [hspace, ih]
      · exact skipFrom_rest ..
      · unfold skipFrom
        simp [hspace, hslash]

/-- It is an end of the text. -/
theorem ahead_suffix (u : Text) : ahead u <:+ u := by
  rw [← skipFrom_between 0 0]
  exact (skipFrom_suffix ..).1

@[simp]
theorem ahead_space (u : Text) : ahead (' ' :: u) = ahead u := rfl

@[simp]
theorem ahead_break (u : Text) : ahead ('\n' :: u) = ahead u := rfl

@[simp]
theorem ahead_gap (gap : List Spacer) (u : Text) : ahead (gapText gap ++ u) = ahead u := by
  rw [← skipFrom_between 0 0, skipFrom_gap, skipFrom_between]

theorem ahead_cons {d : Char} (hd : isSpace d = false) (hslash : d ≠ '/') (u : Text) :
    ahead (d :: u) = d :: u := by
  rw [ahead, if_neg (by rw [hd]; exact Bool.false_ne_true), if_neg hslash]

end TypeShape.Source
