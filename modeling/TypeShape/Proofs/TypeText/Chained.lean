/-
What is chained to a type changes nothing before it.

A modifier is chained to a type by a separator with blanks around it. Whatever the type is, in
balance or not, the same object is split off before the modifier and after it
(`splitObject?_tail`), and the same artifacts are removed. So the chain has one more piece at
its end, and everything else stays (`Chain.read_chained`, `inlineObject?_chained`). This rests
on two marks that modifiers do not hold: a closing brace could end an object or an artifact that
the type left open, and another separator would make two pieces.
-/
import TypeShape.Proofs.TypeText.Artifact
import TypeShape.Proofs.TypeText.Printed

namespace TypeShape

variable {b m t : Text} {c : Char}

-- =============================================================== blanks

/-- Blanks at the end are trimmed away. -/
theorem trim_append_blanks (hb : Blanks b) (t : Text) : Text.trim (t ++ b) = Text.trim t := by
  unfold Text.trim Text.trimLeft
  rw [List.dropWhile_append]
  by_cases h : (t.dropWhile isBlank).isEmpty = true
  · rw [if_pos h, List.isEmpty_iff.1 h, List.dropWhile_eq_nil_iff.2 hb]
  · rw [if_neg h, Text.trimRight, List.reverse_append, List.dropWhile_append_of_pos]
    · rfl
    · exact fun c hc => hb c (List.mem_reverse.1 hc)

/-- Trimmed at its end before, a text is trimmed to the same. -/
theorem trim_trimRight (t : Text) : Text.trim (Text.trimRight t) = Text.trim t := by
  obtain ⟨b, hb, happend⟩ := exists_trimRight t
  rw [← trim_append_blanks hb, happend]

theorem notMem_trimRight (hc : c ∉ t) : c ∉ Text.trimRight t :=
  fun h => hc ((trimRight_isPrefix t).subset h)

/-- Blanks that follow a text follow it after trimming, or are trimmed away with it. -/
theorem exists_trimLeft_append (hb : Blanks b) (t : Text) :
    ∃ b', Blanks b' ∧ Text.trimLeft (t ++ b) = Text.trim t ++ b' := by
  unfold Text.trim Text.trimLeft
  rw [List.dropWhile_append]
  by_cases h : (t.dropWhile isBlank).isEmpty = true
  · rw [if_pos h, List.isEmpty_iff.1 h, List.dropWhile_eq_nil_iff.2 hb]
    exact ⟨[], fun _ h => (nomatch h), rfl⟩
  · obtain ⟨b', hb', happend⟩ := exists_trimRight (t.dropWhile isBlank)
    refine ⟨b' ++ b, fun c hc => (List.mem_append.1 hc).elim (hb' c) (hb c), ?_⟩
    rw [if_neg h, ← List.append_assoc, happend]

/-- Around a mark that blanks stand before, both sides are trimmed. -/
theorem exists_trim_append (hc : isBlank c = false) (hb : Blanks b) (t m : Text) :
    ∃ b', Blanks b'
      ∧ Text.trim (t ++ (b ++ c :: m)) = Text.trim t ++ (b' ++ c :: Text.trimRight m) := by
  obtain ⟨b', hb', hleft⟩ := exists_trimLeft_append hb t
  refine ⟨b', hb', ?_⟩
  rw [← List.append_assoc, trim_append_cons hc, hleft, List.append_assoc]

-- =============================================================== pieces

/-- Blanks at the end of a text change none of its pieces, once they are trimmed. -/
theorem trim_pieces_blanks {mark : Char} (hmark : isBlank mark = false) (hb : Blanks b)
    (t : Text) :
    (Text.pieces mark (t ++ b)).map Text.trim = (Text.pieces mark t).map Text.trim := by
  obtain ⟨init, last, hlast, hown, hpieces⟩ := exists_pieces mark t
  have hlast' : mark ∉ last ++ b := fun h =>
    (List.mem_append.1 h).elim hlast (hb.notMem mark hmark)
  rw [hpieces, hown, pieces_of_notMem hlast']
  simp only [List.map_append, List.map_cons, List.map_nil, trim_append_blanks hb]

/-- Past blanks and a mark there is one more piece; trimmed, the others stay. -/
theorem trim_pieces_tail {mark : Char} (hmark : isBlank mark = false) (hb : Blanks b)
    (hm : mark ∉ m) (t : Text) : (Text.pieces mark (t ++ (b ++ mark :: m))).map Text.trim
      = (Text.pieces mark t).map Text.trim ++ [Text.trim m] := by
  rw [← List.append_assoc, pieces_append_cons, List.map_append, trim_pieces_blanks hmark hb,
    pieces_of_notMem hm, List.map_singleton]

-- ====================================================== what is split off

namespace TypeText

/-- What closes nothing may follow the scan for a brace. -/
theorem closeBraces?_tail {w : Text} (hw : '}' ∉ w) (depth : Nat) (t : Text) :
    closeBraces? depth (t ++ w)
      = (closeBraces? depth t).map fun (inside, after) => (inside, after ++ w) := by
  induction t generalizing depth with
  | nil =>
      rw [List.nil_append, closeBraces?, Option.map_none]
      induction w generalizing depth with
      | nil => rfl
      | cons c w ih =>
          obtain ⟨hc, hw⟩ := not_or.1 (mt List.mem_cons.2 hw)
          rw [closeBraces?, if_neg fun h => hc h.1.symm]
          dsimp only
          rw [ih hw]
          rfl
  | cons c t ih =>
      rw [List.cons_append, closeBraces?, closeBraces?]
      by_cases hend : c = '}' ∧ depth ≤ 1
      · rw [if_pos hend, if_pos hend]
        rfl
      · rw [if_neg hend, if_neg hend]
        dsimp only
        rw [ih, Option.map_map, Option.map_map]
        rfl

/-- What does not open with a bracket may follow list suffixes. -/
theorem takeSuffixes_tail {w : Text} (hopen : w.head? ≠ some '[') (hclose : w.head? ≠ some ']')
    (t : Text) : takeSuffixes (t ++ w) = ((takeSuffixes t).1, (takeSuffixes t).2 ++ w) := by
  fun_induction takeSuffixes t with
  | case1 rest taken after heq ih =>
      rw [List.cons_append, List.cons_append, takeSuffixes, ih, heq]
  | case2 t hnone =>
      unfold takeSuffixes
      split
      case h_1 rest heq =>
        cases t with
        | nil => exact absurd (congrArg List.head? heq) hopen
        | cons d t =>
            obtain ⟨rfl, hrest⟩ := List.cons.inj heq
            cases t with
            | nil => exact absurd (congrArg List.head? hrest) hclose
            | cons e t =>
                obtain ⟨rfl, -⟩ := List.cons.inj hrest
                exact absurd rfl (hnone t)
      case h_2 => rfl

/-- What is chained to a type holds blanks, the mark, and what comes after it. -/
theorem notMem_tail (hb : Blanks b) {d : Char} (hblank : isBlank d = false) (hd : d ≠ c)
    (hm : d ∉ m) : d ∉ b ++ c :: m := by
  intro h
  rcases List.mem_append.1 h with h | h
  · exact hb.notMem d hblank h
  · exact (List.mem_cons.1 h).elim hd hm

/-- The first character of what is chained is a blank or the mark. -/
theorem isBlank_or_eq_of_tail (hb : Blanks b) {d : Char} (hd : d ∈ (b ++ c :: m).head?) :
    isBlank d = true ∨ d = c := by
  cases b with
  | nil => exact .inr (Option.some.inj hd).symm
  | cons e b =>
      cases hd
      exact .inl (hb _ List.mem_cons_self)

/-- It takes part in no bracket or brace. -/
theorem head?_tail_ne (hb : Blanks b) {d : Char} (hblank : isBlank d = false) (hd : d ≠ c) :
    (b ++ c :: m).head? ≠ some d := by
  intro h
  rcases isBlank_or_eq_of_tail hb h with hblank' | rfl
  · rw [hblank] at hblank'
    cases hblank'
  · exact hd rfl

/-- A bracket around an object is closed before what is chained to the type, or not at all. -/
theorem closeBracket_tail {w : Text} (hb : Blanks b) (hw : b ++ separator :: m = w)
    (front rest : Text) :
    (match (rest ++ w).dropWhile isBlank with
      | ']' :: after => some (front ++ (rest ++ w).takeWhile isBlank ++ [']'], after)
      | _ => none)
      = Option.map (fun found => (found.1, found.2 ++ w)) (match rest.dropWhile isBlank with
        | ']' :: after => some (front ++ rest.takeWhile isBlank ++ [']'], after)
        | _ => none) := by
  have happend := List.takeWhile_append_dropWhile (p := isBlank) (l := rest)
  have hblanks : ∀ c ∈ rest.takeWhile isBlank, isBlank c = true :=
    fun c hc => List.mem_takeWhile_imp hc
  -- if only blanks are left, the separator comes next, which closes nothing; else what comes next
  -- is the same with and without the tail
  cases hdrop : rest.dropWhile isBlank with
  | nil =>
      have hall := List.dropWhile_eq_nil_iff.1 hdrop
      have hdropped : (rest ++ w).dropWhile isBlank = separator :: m := by
        rw [List.dropWhile_append_of_pos hall, ← hw, List.dropWhile_append_of_pos hb]
        rfl
      rw [hdropped]
      rfl
  | cons e after =>
      have he : isBlank e = false := by
        have h := List.head?_dropWhile_not isBlank rest
        rw [hdrop] at h
        exact h
      rw [hdrop] at happend
      generalize rest.takeWhile isBlank = blanks at happend hblanks
      subst happend
      have hdropped : (blanks ++ e :: after ++ w).dropWhile isBlank = e :: (after ++ w) := by
        rw [List.append_assoc, List.dropWhile_append_of_pos hblanks, List.cons_append,
          List.dropWhile_cons_of_neg (by simp [he])]
      have htaken : (blanks ++ e :: after ++ w).takeWhile isBlank = blanks := by
        rw [List.append_assoc, List.takeWhile_append_of_pos hblanks, List.cons_append,
          List.takeWhile_cons_of_neg (by simp [he]), List.append_nil]
      rw [hdropped, htaken]
      by_cases hclose : e = ']'
      · rw [hclose]
        rfl
      · split
        case h_1 heq => exact absurd (List.cons.inj heq).1 hclose
        case h_2 =>
          split
          case h_1 heq => exact absurd (List.cons.inj heq).1 hclose
          case h_2 => rfl

/-- A text opens with an object, or with an object in a bracket, or nothing is split off
whatever follows it. -/
theorem opening_cases (t : Text) : (∃ u, t = '{' :: u) ∨ (∃ u, t = '[' :: '{' :: u)
    ∨ ∀ w : Text, w.head? ≠ some '{' → w.head? ≠ some '[' → splitObject? (t ++ w) = none := by
  cases t with
  | nil =>
      refine .inr (.inr fun w hbrace hopen => splitObject?_of_first fun d hd => ⟨?_, ?_⟩)
      · rintro rfl
        exact hbrace hd
      · rintro rfl
        exact hopen hd
  | cons d t =>
      by_cases hd : d = '{'
      · exact .inl ⟨t, by rw [hd]⟩
      by_cases hd' : d = '['
      · subst hd'
        cases t with
        | nil => exact .inr (.inr fun w hbrace _ => splitObject?_of_bracket hbrace)
        | cons e t =>
            by_cases he : e = '{'
            · exact .inr (.inl ⟨t, by rw [he]⟩)
            · exact .inr (.inr fun w _ _ => splitObject?_of_bracket fun h => he (Option.some.inj h))
      · refine .inr (.inr fun w _ _ => splitObject?_of_first fun c hc => ?_)
        cases hc
        exact ⟨hd, hd'⟩

/-- The same object is split off, whatever is chained to the type. -/
theorem splitObject?_tail (hb : Blanks b) (hm : '}' ∉ m) (t : Text) :
    splitObject? (t ++ (b ++ separator :: m))
      = (splitObject? t).map fun (object, rest) => (object, rest ++ (b ++ separator :: m)) := by
  generalize hw : b ++ separator :: m = w
  have hclosed : '}' ∉ w := hw ▸ notMem_tail hb (by decide) (by decide) hm
  have hopen : w.head? ≠ some '[' := hw ▸ head?_tail_ne hb (by decide) (by decide)
  rcases opening_cases t with ⟨u, rfl⟩ | ⟨u, rfl⟩ | hnone
  · have hclose : w.head? ≠ some ']' := hw ▸ head?_tail_ne hb (by decide) (by decide)
    show (closeBraces? 1 (u ++ w)).bind _ = Option.map _ ((closeBraces? 1 u).bind _)
    rw [closeBraces?_tail hclosed]
    cases closeBraces? 1 u with
    | none => rfl
    | some found =>
        show some _ = some _
        rw [takeSuffixes_tail hopen hclose]
  · show (closeBraces? 1 (u ++ w)).bind _ = Option.map _ ((closeBraces? 1 u).bind _)
    rw [closeBraces?_tail hclosed]
    cases closeBraces? 1 u with
    | none => rfl
    | some found => exact closeBracket_tail hb hw ('[' :: '{' :: found.1) found.2
  · have hown := hnone [] (by simp) (by simp)
    rw [List.append_nil] at hown
    rw [hnone w (hw ▸ head?_tail_ne hb (by decide) (by decide)) hopen, hown]
    rfl

-- ================================================================ chains

/-- The base of a chain and its modifiers are the pieces of its text. -/
theorem Chain.base_cons_modifiers (t : Text) : (Chain.read t).base :: (Chain.read t).modifiers
    = (Text.pieces separator (strip t)).map Text.trim := by
  have hne : (Text.pieces separator (strip t)).map Text.trim ≠ [] := by
    obtain ⟨init, last, -, hown, -⟩ := exists_pieces separator (strip t)
    simp [hown]
  unfold Chain.read
  cases h : (Text.pieces separator (strip t)).map Text.trim with
  | nil => exact absurd h hne
  | cons base modifiers => rfl

/-- The chain has one more modifier, and its base stays. -/
theorem Chain.read_tail (hb : Blanks b) (hseparator : separator ∉ m) (hclosing : '}' ∉ m)
    (t : Text) : Chain.read (t ++ (b ++ separator :: m))
      = ⟨(Chain.read t).base, (Chain.read t).modifiers ++ [Text.trim m]⟩ := by
  have hclosed : '}' ∉ b ++ separator :: m := notMem_tail hb (by decide) (by decide) hclosing
  have hpieces := Chain.base_cons_modifiers (t ++ (b ++ separator :: m))
  rw [strip_append hclosed, trim_pieces_tail (by decide) hb hseparator,
    ← Chain.base_cons_modifiers, List.cons_append] at hpieces
  obtain ⟨hbase, hmodifiers⟩ := List.cons.inj hpieces
  rw [← hbase, ← hmodifiers]

/-- What follows an object says whether it is a chain: nothing, or pieces after a separator. -/
theorem inlineObject?_eq (t : Text) : Plan.inlineObject? t
    = (splitObject? t).bind fun found =>
      if (Text.trim found.2).head?.all (· == separator) = true then
        some (found.1, (Chain.read (Text.trim found.2)).modifiers)
      else none := by
  unfold Plan.inlineObject?
  cases splitObject? t with
  | none => rfl
  | some found =>
      obtain ⟨object, rest⟩ := found
      dsimp only [Option.bind_eq_bind, Option.bind_some]
      cases Text.trim rest with
      | nil => rfl
      | cons c after => simp only [List.head?_cons, Option.all_some, beq_iff_eq]

/-- With one more modifier after it an object is what it was. -/
theorem inlineObject?_tail (hb : Blanks b) (hseparator : separator ∉ m) (hclosing : '}' ∉ m)
    (t : Text) : Plan.inlineObject? (t ++ (b ++ separator :: m))
      = (Plan.inlineObject? t).map fun found => (found.1, found.2 ++ [Text.trim m]) := by
  rw [inlineObject?_eq, inlineObject?_eq, splitObject?_tail hb hclosing]
  cases splitObject? t with
  | none => rfl
  | some found =>
      obtain ⟨object, rest⟩ := found
      obtain ⟨b', hb', htrim⟩ := exists_trim_append (c := separator) (by decide) hb rest m
      have hfirst : (Text.trim (rest ++ (b ++ separator :: m))).head?.all (· == separator)
          = (Text.trim rest).head?.all (· == separator) := by
        have hsolid := (solid_trim (rest ++ (b ++ separator :: m))).first
        rw [htrim] at hsolid ⊢
        cases hrest : Text.trim rest with
        | nil =>
            rw [hrest] at hsolid
            refine (Option.all_eq_true ..).2 fun c hc => beq_iff_eq.2 ?_
            -- a blank would have been trimmed away
            exact (isBlank_or_eq_of_tail hb' hc).resolve_left (by simp [hsolid c hc])
        | cons c after => rfl
      dsimp only [Option.map_some, Option.bind_some]
      rw [hfirst, htrim, Chain.read_tail hb' (notMem_trimRight hseparator)
        (notMem_trimRight hclosing), trim_trimRight]
      split <;> rfl

-- =============================================================== chained

/-- A text is chained to a type by a separator with a blank on each side. -/
def chained (t m : Text) : Text :=
  t ++ (" & ".toList ++ m)

/-- Trimmed, the type stands before what is chained to it. -/
theorem exists_trim_chained (hseparator : separator ∉ m) (hclosing : '}' ∉ m) (t : Text) :
    ∃ b m', Blanks b ∧ separator ∉ m' ∧ '}' ∉ m' ∧ Text.trim m' = Text.trim m
      ∧ Text.trim (chained t m) = Text.trim t ++ (b ++ separator :: m') := by
  have hblank {mark : Char} (hmark : mark ≠ ' ') (hm : mark ∉ m) : mark ∉ ' ' :: m :=
    List.not_mem_cons_of_ne_of_not_mem hmark hm
  obtain ⟨b, hb, htrim⟩ := exists_trim_append (c := separator) (b := [' ']) (by decide)
    (by decide) t (' ' :: m)
  refine ⟨b, Text.trimRight (' ' :: m), hb, notMem_trimRight (hblank (by decide) hseparator),
    notMem_trimRight (hblank (by decide) hclosing), ?_, htrim⟩
  rw [trim_trimRight]
  rfl

variable {ms : List Text}

/-- The modifiers that are chained to a type are the last ones of its chain. -/
theorem Chain.read_chained (h : ∀ m ∈ ms, separator ∉ m ∧ '}' ∉ m) (t : Text) :
    Chain.read (Text.trim (ms.foldl chained t)) = ⟨(Chain.read (Text.trim t)).base,
      (Chain.read (Text.trim t)).modifiers ++ ms.map Text.trim⟩ := by
  induction ms generalizing t with
  | nil => simp
  | cons m ms ih =>
      obtain ⟨hm, hms⟩ := List.forall_mem_cons.1 h
      obtain ⟨b, m', hb, hseparator, hclosing, hm', htrim⟩ := exists_trim_chained hm.1 hm.2 t
      rw [List.foldl_cons, ih hms, htrim, Chain.read_tail hb hseparator hclosing, hm']
      simp

/-- They are the last ones after an inline object, too. -/
theorem inlineObject?_chained (h : ∀ m ∈ ms, separator ∉ m ∧ '}' ∉ m) (t : Text) :
    Plan.inlineObject? (Text.trim (ms.foldl chained t)) = (Plan.inlineObject? (Text.trim t)).map
      fun found => (found.1, found.2 ++ ms.map Text.trim) := by
  induction ms generalizing t with
  | nil => simp
  | cons m ms ih =>
      obtain ⟨hm, hms⟩ := List.forall_mem_cons.1 h
      obtain ⟨b, m', hb, hseparator, hclosing, hm', htrim⟩ := exists_trim_chained hm.1 hm.2 t
      rw [List.foldl_cons, ih hms, htrim, inlineObject?_tail hb hseparator hclosing, hm',
        Option.map_map]
      congr 1
      funext found
      simp

end TypeText

end TypeShape
