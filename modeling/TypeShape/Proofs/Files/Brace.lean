/-
What a pattern with groups stands for.

A group disappears when one of its options takes its place, and no option brings a new one, since
the inside of a group ends at the first closing brace. So there are always enough rounds, and a
pattern may be expanded by its first group alone (`expand_eq`). A pattern that is written part by
part then stands for the patterns in which every group is filled with one of its options, from
the first choice to the last one in lexicographic order (`expand_print`). A group without options
is where the expansion ends, with whatever is behind it (`expand_print_empty`).
-/
import Mathlib.Algebra.BigOperators.Group.List.Basic
import Mathlib.Data.List.Forall2
import TypeShape.Files.Brace
import TypeShape.Proofs.Text.Scan

namespace TypeShape.Brace

-- ============================================================ first group

/-- An option has characters of the group's inside, and is not empty. -/
theorem mem_optionsIn {inside option : Text} (h : option ∈ optionsIn inside) :
    option ≠ [] ∧ option ⊆ inside := by
  unfold optionsIn at h
  obtain ⟨h, hne⟩ := List.mem_filter.1 h
  obtain ⟨piece, hpiece, rfl⟩ := List.mem_map.1 h
  constructor
  · intro hnil
    rw [hnil] at hne
    cases hne
  · exact List.Subset.trans (trim_isInfix piece).subset (mem_pieces hpiece).2

/-- The first group of a pattern, in its place. -/
theorem Group.of_cut? {t : Text} {g : Group} (h : Group.cut? t = some g) :
    ∃ inside, t = g.before ++ '{' :: (inside ++ '}' :: g.after) ∧ '}' ∉ inside
      ∧ g.options = optionsIn inside := by
  unfold Group.cut? at h
  obtain ⟨⟨before, rest⟩, hopen, h⟩ := Option.bind_eq_some_iff.1 h
  obtain ⟨⟨inside, after⟩, hclose, h⟩ := Option.bind_eq_some_iff.1 h
  cases h
  obtain ⟨rfl, -⟩ := cut?_eq_some hopen
  obtain ⟨rfl, hinside⟩ := cut?_eq_some hclose
  exact ⟨inside, rfl, hinside, rfl⟩

/-- Where an option takes the place of the first group, a closing brace is gone. -/
theorem Group.count_filled {t option : Text} {g : Group} (h : Group.cut? t = some g)
    (hoption : option ∈ g.options) :
    (g.before ++ option ++ g.after).count '}' + 1 = t.count '}' := by
  obtain ⟨inside, rfl, hinside, hoptions⟩ := Group.of_cut? h
  rw [hoptions] at hoption
  have hnone : option.count '}' = 0 :=
    List.count_eq_zero.2 fun hc => hinside ((mem_optionsIn hoption).2 hc)
  have hnone' : inside.count '}' = 0 := List.count_eq_zero.2 hinside
  simp only [List.count_append, List.count_cons, beq_self_eq_true, if_true, hnone, hnone']
  simp
  omega

-- ============================================================= no bound

/-- As many rounds suffice as there are closing braces. -/
theorem expandUpTo_of_le {n m : Nat} {t : Text} (hn : t.count '}' ≤ n) (hm : t.count '}' ≤ m) :
    expandUpTo n t = expandUpTo m t := by
  induction n generalizing m t with
  | zero =>
      have hnone : Group.cut? t = none := by
        cases hcut : Group.cut? t with
        | none => rfl
        | some g =>
            obtain ⟨inside, rfl, -, -⟩ := Group.of_cut? hcut
            simp at hn
      cases m with
      | zero => rfl
      | succ m => rw [expandUpTo, expandUpTo, hnone]
  | succ n ih =>
      cases hcut : Group.cut? t with
      | none =>
          cases m with
          | zero => rw [expandUpTo, expandUpTo, hcut]
          | succ m => rw [expandUpTo, expandUpTo, hcut]
      | some g =>
          obtain ⟨inside, ht, -, -⟩ := Group.of_cut? hcut
          cases m with
          | zero =>
              rw [ht] at hm
              simp at hm
          | succ m =>
              rw [expandUpTo, expandUpTo, hcut]
              dsimp only
              split
              case isTrue => rfl
              case isFalse =>
                apply List.flatMap_congr
                intro option hoption
                -- a group that is filled in takes its closing brace away
                have hcount := Group.count_filled hcut hoption
                apply ih
                · omega
                · omega

/-- A pattern stands for itself if it has no group or the first one has no options, and else for
what it stands for with each of the options in place of the group. -/
theorem expand_eq (t : Text) : expand t = match Group.cut? t with
    | none => [t]
    | some g =>
      if g.options.isEmpty then [t]
      else g.options.flatMap fun option => expand (g.before ++ option ++ g.after) := by
  have hcount : t.count '}' ≤ t.length := List.count_le_length
  have hround : expand t = expandUpTo (t.length + 1) t := expandUpTo_of_le hcount (by omega)
  rw [hround, expandUpTo]
  cases hcut : Group.cut? t with
  | none => rfl
  | some g =>
      dsimp only
      split
      case isTrue => rfl
      case isFalse =>
        apply List.flatMap_congr
        intro option hoption
        have hcount := Group.count_filled hcut hoption
        have hlength := List.count_le_length (a := '}') (l := t)
        exact expandUpTo_of_le (by omega) List.count_le_length

/-- Every pattern stands for some text. -/
theorem expand_ne_nil (t : Text) : expand t ≠ [] := by
  have hrounds : ∀ n t, expandUpTo n t ≠ [] := by
    intro n
    induction n with
    | zero => exact fun t => List.cons_ne_nil _ _
    | succ n ih =>
        intro t
        rw [expandUpTo]
        split
        case h_1 => exact List.cons_ne_nil _ _
        case h_2 g _ =>
          split
          case isTrue => exact List.cons_ne_nil _ _
          case isFalse hoptions =>
            obtain ⟨option, rest, hoption⟩ := List.exists_cons_of_ne_nil fun hnil =>
              hoptions (List.isEmpty_iff.2 hnil)
            rw [hoption, List.flatMap_cons]
            exact List.append_ne_nil_of_left_ne_nil (ih _) _
  exact hrounds _ t

-- ====================================================== written patterns

/-- A part of a pattern: text, or a group of options. -/
inductive Part
  | literal (t : Text)
  | group (options : List Text)

/-- Text without braces, or options without braces and commas, not all of them blank. -/
def Part.Plain : Part → Prop
  | .literal t => '{' ∉ t ∧ '}' ∉ t
  | .group options => (∀ option ∈ options, '{' ∉ option ∧ '}' ∉ option ∧ ',' ∉ option)
      ∧ ∃ option ∈ options, ∃ c ∈ option, isBlank c = false

-- by the tests of lists, so that no instance tries all characters there are
instance : DecidablePred Part.Plain
  | .literal t => inferInstanceAs (Decidable ('{' ∉ t ∧ '}' ∉ t))
  | .group options => decidable_of_iff
      ((∀ option ∈ options, '{' ∉ option ∧ '}' ∉ option ∧ ',' ∉ option)
        ∧ options.any fun option => option.any fun c => !isBlank c)
      (by simp [Part.Plain])

/-- A part as it is written. -/
def Part.print : Part → Text
  | .literal t => t
  | .group options => '{' :: (Text.join [','] options ++ ['}'])

/-- A pattern as it is written. -/
def print (parts : List Part) : Text :=
  parts.flatMap Part.print

/-- The options that are not blank, trimmed. -/
def usable (options : List Text) : List Text :=
  (options.filter fun option => option.any fun c => !isBlank c).map Text.trim

/-- A choice of one position for each group fills a pattern: every group gives way to its usable
option at the position chosen for it. -/
inductive Fills : List Part → List Nat → Text → Prop
  | nil : Fills [] [] []
  | literal {parts : List Part} {choice : List Nat} {u : Text} (t : Text)
      (rest : Fills parts choice u) : Fills (.literal t :: parts) choice (t ++ u)
  | group {parts : List Part} {choice : List Nat} {u option : Text} {options : List Text} {i : Nat}
      (chosen : (usable options)[i]? = some option) (rest : Fills parts choice u) :
      Fills (.group options :: parts) (i :: choice) (option ++ u)

/-- All choices for a pattern, each with what it fills the pattern to. -/
def fillings : List Part → List (List Nat × Text)
  | [] => [([], [])]
  | .literal t :: parts => (fillings parts).map fun (choice, u) => (choice, t ++ u)
  | .group options :: parts => (usable options).zipIdx.flatMap fun (option, i) =>
      (fillings parts).map fun (choice, u) => (i :: choice, option ++ u)

/-- The numbers of usable options of the groups. -/
def sizes (parts : List Part) : List Nat :=
  parts.filterMap fun
    | .literal _ => none
    | .group options => some (usable options).length

variable {parts : List Part}

-- ============================================================== choices

/-- The fillings of parts are told with their choices. -/
theorem mem_fillings {choice : List Nat} {t : Text} :
    (choice, t) ∈ fillings parts ↔ Fills parts choice t := by
  -- part by part: a literal adds its text, a group one of its options and the position of that
  induction parts generalizing choice t with
  | nil =>
      constructor
      · intro h
        cases List.mem_singleton.1 h
        exact .nil
      · intro h
        cases h
        exact List.mem_singleton_self _
  | cons part parts ih =>
      cases part with
      | literal literal =>
          constructor
          · intro h
            obtain ⟨⟨choice', u⟩, hmem, heq⟩ := List.mem_map.1 h
            cases heq
            exact .literal literal (ih.1 hmem)
          · intro h
            cases h with
            | literal _ rest => exact List.mem_map.2 ⟨_, ih.2 rest, rfl⟩
      | group options =>
          constructor
          · intro h
            obtain ⟨⟨option, i⟩, hoption, h⟩ := List.mem_flatMap.1 h
            obtain ⟨⟨choice', u⟩, hmem, heq⟩ := List.mem_map.1 h
            cases heq
            exact .group (List.mk_mem_zipIdx_iff_getElem?.1 hoption) (ih.1 hmem)
          · intro h
            cases h with
            | group chosen rest =>
                apply List.mem_flatMap.2
                refine ⟨_, List.mk_mem_zipIdx_iff_getElem?.2 chosen, ?_⟩
                exact List.mem_map.2 ⟨_, ih.2 rest, rfl⟩

/-- Choices come in lexicographic order, and none of them twice. -/
theorem fillings_pairwise (parts : List Part) :
    (fillings parts).Pairwise fun a b => a.1 < b.1 := by
  induction parts with
  | nil => exact List.pairwise_singleton _ _
  | cons part parts ih =>
      cases part with
      | literal literal => exact List.pairwise_map.2 ih
      | group options =>
          rw [fillings, List.pairwise_flatMap]
          constructor
          · intro entry _
            rw [List.pairwise_map]
            exact ih.imp fun h => List.cons_lt_cons_iff.2 (.inr ⟨rfl, h⟩)
          · have hascending : (usable options).zipIdx.Pairwise fun a b => a.2 < b.2 := by
              rw [← List.pairwise_map (f := Prod.snd) (R := (· < ·)), List.zipIdx_map_snd]
              exact List.pairwise_lt_range'
            apply hascending.imp
            intro a b hab x hx y hy
            obtain ⟨x', -, rfl⟩ := List.mem_map.1 hx
            obtain ⟨y', -, rfl⟩ := List.mem_map.1 hy
            exact List.cons_lt_cons_iff.2 (.inl hab)

/-- There is one for every choice of options. -/
theorem length_fillings (parts : List Part) : (fillings parts).length = (sizes parts).prod := by
  induction parts with
  | nil => rfl
  | cons part parts ih =>
      cases part with
      | literal literal =>
          rw [fillings, List.length_map, ih]
          rfl
      | group options =>
          have hsizes : sizes (.group options :: parts)
              = (usable options).length :: sizes parts := rfl
          rw [fillings, List.length_flatMap, hsizes, List.prod_cons, ← ih]
          simp

/-- The options that count have no braces. -/
theorem notMem_of_mem_usable {options : List Text} {option : Text}
    (plain : (Part.group options).Plain) (h : option ∈ usable options) :
    '{' ∉ option ∧ '}' ∉ option := by
  obtain ⟨original, horiginal, rfl⟩ := List.mem_map.1 h
  obtain ⟨hopen, hclose, -⟩ := plain.1 original (List.mem_filter.1 horiginal).1
  have hsubset := (trim_isInfix original).subset
  exact ⟨fun h => hopen (hsubset h), fun h => hclose (hsubset h)⟩

/-- What a pattern of plain parts is filled to has no braces. -/
theorem Fills.notMem {choice : List Nat} {t : Text} (h : Fills parts choice t)
    (plain : ∀ part ∈ parts, part.Plain) : '{' ∉ t ∧ '}' ∉ t := by
  induction h with
  | nil => exact ⟨List.not_mem_nil, List.not_mem_nil⟩
  | literal t rest ih =>
      obtain ⟨hopen, hclose⟩ := plain _ (List.mem_cons_self ..)
      obtain ⟨hopen', hclose'⟩ := ih fun part hpart => plain part (List.mem_cons_of_mem _ hpart)
      simp [hopen, hclose, hopen', hclose']
  | @group parts choice u option options i chosen rest ih =>
      obtain ⟨hopen, hclose⟩ :=
        notMem_of_mem_usable (plain _ (List.mem_cons_self ..)) (List.mem_of_getElem? chosen)
      obtain ⟨hopen', hclose'⟩ := ih fun part hpart => plain part (List.mem_cons_of_mem _ hpart)
      simp [hopen, hclose, hopen', hclose']

-- ============================================================= expanding

/-- The options between the braces of a written group are those that it was written with. -/
theorem optionsIn_join {options : List Text} (hne : options ≠ [])
    (h : ∀ option ∈ options, ',' ∉ option) :
    optionsIn (Text.join [','] options) = usable options := by
  rw [optionsIn, pieces_join hne h, usable, List.filter_map]
  congr 1
  apply List.filter_congr
  intro option _
  rw [Function.comp_apply, Bool.eq_iff_iff]
  simp only [Bool.not_eq_true', List.isEmpty_eq_false_iff, ne_eq, trim_eq_nil_iff, List.any_eq_true]
  simp

/-- The first group of a pattern that starts with it, behind text without braces. -/
theorem Group.cut?_print {before : Text} {options : List Text} (hbefore : '{' ∉ before)
    (plain : (Part.group options).Plain) (after : Text) :
    Group.cut? (before ++ (Part.print (.group options) ++ after))
      = some ⟨before, usable options, after⟩ := by
  obtain ⟨hoptions, option, hoption, -⟩ := plain
  have hinside : '}' ∉ Text.join [','] options := by
    intro h
    rcases mem_join h with h | ⟨o, ho, h⟩
    · exact absurd h (by decide)
    · exact (hoptions o ho).2.1 h
  have hjoin := optionsIn_join (List.ne_nil_of_mem hoption) fun o ho => (hoptions o ho).2.2
  unfold Group.cut? Part.print
  rw [List.cons_append, cut?_append hbefore, List.append_assoc, List.singleton_append]
  show (Text.cut? '}' _ >>= _) = _
  rw [cut?_append hinside]
  show some _ = _
  rw [hjoin]

/-- Behind text without braces and before an end that nothing without braces makes expand, a
pattern of plain parts stands for what its choices fill it to. -/
theorem expand_append_print_append {before final : Text} (hopen : '{' ∉ before)
    (plain : ∀ part ∈ parts, part.Plain)
    (hfinal : ∀ t, '{' ∉ t → expand (t ++ final) = [t ++ final]) :
    expand (before ++ (print parts ++ final))
      = (fillings parts).map fun filling => before ++ (filling.2 ++ final) := by
  -- the text before grows by what has been read: literals as they are, of a group one option
  induction parts generalizing before with
  | nil => exact hfinal before hopen
  | cons part parts ih =>
      have hpart := plain part (List.mem_cons_self ..)
      have hparts : ∀ part ∈ parts, part.Plain := fun part hmem =>
        plain part (List.mem_cons_of_mem _ hmem)
      have hprint : before ++ (print (part :: parts) ++ final)
          = before ++ (part.print ++ (print parts ++ final)) := by
        rw [print, List.flatMap_cons, ← print, List.append_assoc]
      cases part with
      | literal t =>
          have hopen' : '{' ∉ before ++ t := by
            simp [hopen, hpart.1]
          rw [hprint, Part.print, ← List.append_assoc, ih hopen' hparts, fillings, List.map_map]
          simp only [Function.comp_def, List.append_assoc]
      | group options =>
          have hcut := Group.cut?_print hopen hpart (print parts ++ final)
          -- a group with an option that is not blank is expanded, and not taken for a literal
          have hne : (usable options).isEmpty = false := by
            obtain ⟨-, option, hoption, c, hc, hblank⟩ := hpart
            rw [List.isEmpty_eq_false_iff]
            apply List.ne_nil_of_mem (a := Text.trim option)
            apply List.mem_map_of_mem
            apply List.mem_filter.2
            exact ⟨hoption, List.any_eq_true.2 ⟨c, hc, by rw [hblank]; rfl⟩⟩
          rw [hprint, expand_eq, hcut]
          dsimp only
          rw [hne, if_neg Bool.false_ne_true, fillings, List.map_flatMap]
          conv_lhs => rw [← List.zipIdx_map_fst 0 (usable options), List.flatMap_map]
          apply List.flatMap_congr
          intro entry hentry
          have hoption := (notMem_of_mem_usable hpart (List.fst_mem_of_mem_zipIdx hentry)).1
          have hopen' : '{' ∉ before ++ entry.1 := by
            simp [hopen, hoption]
          rw [ih hopen' hparts, List.map_map]
          simp only [Function.comp_def, List.append_assoc]

/-- A pattern of plain parts stands for what its choices fill it to. -/
theorem expand_print_eq (plain : ∀ part ∈ parts, part.Plain) :
    expand (print parts) = (fillings parts).map (·.2) := by
  have hnone : ∀ t : Text, '{' ∉ t → expand (t ++ []) = [t ++ []] := by
    intro t ht
    have hcut : Group.cut? (t ++ []) = none := by
      rw [List.append_nil, Group.cut?, cut?_of_notMem ht]
      rfl
    rw [expand_eq, hcut]
  have h := expand_append_print_append (List.not_mem_nil (a := '{')) plain hnone
  simpa only [List.nil_append, List.append_nil] using h

/-- A pattern of plain parts stands for what it is filled to by the choices of one usable option
for each group: by every choice once, from the first to the last in lexicographic order, where the
leftmost group counts most. So there are as many of them as the product of the numbers of usable
options says, and none of them has a group left. -/
theorem expand_print (plain : ∀ part ∈ parts, part.Plain) :
    ∃ filled : List (List Nat × Text), expand (print parts) = filled.map (·.2)
      ∧ (∀ choice t, (choice, t) ∈ filled ↔ Fills parts choice t)
      ∧ filled.Pairwise (fun a b => a.1 < b.1)
      ∧ (expand (print parts)).length = (sizes parts).prod
      ∧ ∀ t ∈ expand (print parts), '{' ∉ t ∧ '}' ∉ t := by
  have hexpand := expand_print_eq plain
  refine ⟨fillings parts, hexpand, fun choice t => mem_fillings, fillings_pairwise parts, ?_, ?_⟩
  · rw [hexpand, List.length_map, length_fillings]
  · intro t ht
    rw [hexpand] at ht
    obtain ⟨⟨choice, u⟩, hfilling, rfl⟩ := List.mem_map.1 ht
    exact (mem_fillings.1 hfilling).notMem plain

/-- Options with blanks around them, an empty one, and one that stands there twice. -/
theorem expand_print_repeated :
    let parts : List Part :=
      [.literal "src/", .group ["a", " b ", "", "a"], .literal "*.", .group ["ts", "tsx"]]
    print parts = "src/\x7ba, b ,,a\x7d*.\x7bts,tsx\x7d".toList
      ∧ (∀ part ∈ parts, part.Plain)
      ∧ Fills parts [1, 0] "src/b*.ts"
      ∧ (expand (print parts)).length = 6
      ∧ ∀ t ∈ expand (print parts), '{' ∉ t ∧ '}' ∉ t := by
  intro parts
  have plain : ∀ part ∈ parts, part.Plain := by
    decide +kernel
  obtain ⟨filled, -, -, -, hlength, hbraces⟩ := expand_print plain
  have hfills : ([1, 0], "src/b*.ts".toList) ∈ fillings parts := by
    decide +kernel
  exact ⟨by decide +kernel, plain, mem_fillings.1 hfills, hlength, hbraces⟩

-- ===================================================== groups without options

/-- Between commas and blanks there are no options. -/
theorem optionsIn_eq_nil {inside : Text} (h : ∀ c ∈ inside, c = ',' ∨ isBlank c = true) :
    optionsIn inside = [] := by
  rw [optionsIn, List.filter_eq_nil_iff]
  intro option hoption
  obtain ⟨piece, hpiece, rfl⟩ := List.mem_map.1 hoption
  obtain ⟨hcomma, hsubset⟩ := mem_pieces hpiece
  have htrim : Text.trim piece = [] := by
    rw [trim_eq_nil_iff]
    intro c hc
    rcases h c (hsubset hc) with rfl | hblank
    · exact absurd hc hcomma
    · exact hblank
  rw [htrim]
  decide

/-- A pattern whose first group has no options stands for itself, with all that is behind the
group. -/
theorem expand_empty {before inside : Text} (hopen : '{' ∉ before)
    (h : ∀ c ∈ inside, c = ',' ∨ isBlank c = true) (after : Text) :
    expand (before ++ ('{' :: inside ++ '}' :: after))
      = [before ++ ('{' :: inside ++ '}' :: after)] := by
  have hclose : '}' ∉ inside := by
    intro hmem
    exact absurd (h _ hmem) (by decide)
  have hcut : Group.cut? (before ++ ('{' :: inside ++ '}' :: after))
      = some ⟨before, [], after⟩ := by
    unfold Group.cut?
    rw [List.cons_append, cut?_append hopen]
    show (Text.cut? '}' _ >>= _) = _
    rw [cut?_append hclose]
    show some _ = _
    rw [optionsIn_eq_nil h]
  rw [expand_eq, hcut]
  rfl

/-- A group without options ends the expansion: behind plain parts it is kept as it stands, and so
is all that is behind it. It is only a text like any other where the text behind it has nothing to
expand. -/
theorem expand_print_empty {inside : Text} (plain : ∀ part ∈ parts, part.Plain)
    (h : ∀ c ∈ inside, c = ',' ∨ isBlank c = true) (after : Text) :
    let group := '{' :: inside ++ ['}']
    expand (print parts ++ (group ++ after))
        = (expand (print parts)).map (fun t => t ++ (group ++ after))
      ∧ (expand (print parts ++ (group ++ after))
          = (expand (print parts)).flatMap (fun t =>
              (expand after).map fun expanded => t ++ (group ++ expanded))
        ↔ expand after = [after]) := by
  intro group
  have hkept : expand (print parts ++ (group ++ after))
      = (expand (print parts)).map fun t => t ++ (group ++ after) := by
    have hfinal : ∀ t, '{' ∉ t → expand (t ++ (group ++ after)) = [t ++ (group ++ after)] := by
      intro t ht
      have hempty := expand_empty ht h after
      simpa only [group, List.append_assoc, List.singleton_append] using hempty
    have hprint := expand_append_print_append (List.not_mem_nil (a := '{')) plain hfinal
    rw [expand_print_eq plain, List.map_map]
    exact hprint
  refine ⟨hkept, ?_⟩
  rw [hkept]
  constructor
  · intro hboth
    obtain ⟨t, rest, ht⟩ := List.exists_cons_of_ne_nil (expand_ne_nil (print parts))
    rw [ht] at hboth
    -- as many patterns on both sides, so the text behind the group stands for one only
    have hlength := congrArg List.length hboth
    simp only [List.length_map, List.length_flatMap, List.map_const', List.sum_replicate_nat,
      List.length_cons] at hlength
    have hone : (expand after).length = 1 :=
      Nat.eq_of_mul_eq_mul_left (Nat.succ_pos rest.length) (by rw [← hlength, Nat.mul_one])
    obtain ⟨expanded, hexpanded⟩ := List.length_eq_one_iff.1 hone
    rw [hexpanded] at hboth ⊢
    have hfirst := (List.cons.inj hboth).1
    rw [List.append_cancel_left (List.append_cancel_left hfirst)]
  · intro hafter
    rw [hafter]
    exact (List.flatMap_pure_eq_map _ _).symm

/-- A group of commas and blanks behind one with options. -/
theorem expand_print_empty_spaced :
    let parts : List Part := [.literal "a", .group ["x", "y"]]
    (∀ part ∈ parts, part.Plain) ∧ (∀ c ∈ ", ".toList, c = ',' ∨ isBlank c = true)
      ∧ expand "a\x7bx,y\x7d\x7b, \x7d/*".toList
        = ["ax\x7b, \x7d/*".toList, "ay\x7b, \x7d/*".toList] := by
  intro parts
  have plain : ∀ part ∈ parts, part.Plain := by
    decide +kernel
  have hblank : ∀ c ∈ ", ".toList, c = ',' ∨ isBlank c = true :=
    List.forall_mem_cons.2 ⟨.inl rfl, List.forall_mem_singleton.2 (.inr rfl)⟩
  have hexpand := (expand_print_empty plain hblank "/*").1
  have hparts : expand (print parts) = ["ax".toList, "ay".toList] := by
    decide +kernel
  rw [hparts] at hexpand
  exact ⟨plain, hblank, hexpand⟩

/-- Behind an empty group, a group with two options is kept, where what it stands for alone are two
patterns. -/
theorem expand_empty_then_group :
    expand "\x7b\x7d/\x7ba,b\x7d".toList = ["\x7b\x7d/\x7ba,b\x7d".toList]
      ∧ (expand "/\x7ba,b\x7d".toList).map (fun expanded => "\x7b\x7d".toList ++ expanded)
        = ["\x7b\x7d/a".toList, "\x7b\x7d/b".toList] := by
  decide +kernel

end TypeShape.Brace
