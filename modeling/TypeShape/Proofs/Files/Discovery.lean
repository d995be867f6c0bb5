/-
Which files patterns select, and in which order.

A pattern without groups leads to places by the paths that it matches (`Leads`), and it selects a
file there if no directory is passed over: of those below the base of the pattern, or of all if
the file is not below the base (`Selects`). Among several patterns the first one that selects a
file decides where it stands, and of the paths by which this pattern leads there the first one
(`Precedes`). A pattern by itself goes through its paths in order, and first occurrences keep the
order of what stands before them, so the listing is in this order and has every selected file once
(`select_patterns`). A pattern that is relative and leads nowhere back stays below its leading
directories, and leads to a file by the path of the file alone (`Inward.leads`).

Looking up a leading directory fails for names with a null character, and then nothing is
selected at all.
-/
import Mathlib.Data.Char
import Mathlib.Data.List.Lex
import Mathlib.Data.List.Nodup
import TypeShape.Proofs.Files.Glob
import TypeShape.Proofs.Sequence

namespace TypeShape.Discovery

-- ====================================================== first occurrences

/-- Behind places that were seen, only what is not among them stands first. -/
theorem foldl_seen (seen places : List (List Text)) :
    places.foldl (fun seen place => if seen.elem place then seen else seen ++ [place]) seen
      = seen ++ (firsts places).filter fun place => place ∉ seen := by
  induction places generalizing seen with
  | nil => exact (List.append_nil seen).symm
  | cons place places ih =>
      have hfirsts : firsts (place :: places)
          = [place] ++ (firsts places).filter fun p => p ∉ [place] := ih [place]
      rw [List.foldl_cons, hfirsts, List.filter_append, List.filter_filter]
      by_cases hseen : place ∈ seen
      · have hsame : ∀ p ∈ firsts places, decide (p ∉ seen)
            = (decide (p ∉ seen) && decide (p ∉ [place])) := by
          intro p _
          by_cases hp : p = place
          · simp [hp, hseen]
          · simp [hp]
        rw [if_pos (List.elem_iff.2 hseen), ih, List.filter_congr hsame]
        simp [hseen]
      · rw [if_neg (mt List.elem_iff.1 hseen), ih]
        simp [hseen]

theorem firsts_cons (place : List Text) (places : List (List Text)) :
    firsts (place :: places) = place :: (firsts places).filter fun p => p ≠ place := by
  have h : firsts (place :: places)
      = [place] ++ (firsts places).filter fun p => p ∉ [place] := foldl_seen [place] places
  simpa using h

theorem mem_firsts {place : List Text} {places : List (List Text)} :
    place ∈ firsts places ↔ place ∈ places := by
  induction places with
  | nil => rfl
  | cons first places ih =>
      rw [firsts_cons, List.mem_cons, List.mem_cons, List.mem_filter, ih]
      by_cases h : place = first <;> simp [h]

/-- Behind some places only what is not among them stands first. -/
theorem firsts_append (places others : List (List Text)) :
    firsts (places ++ others)
      = firsts places ++ (firsts others).filter fun place => place ∉ places := by
  induction places with
  | nil => simp [firsts]
  | cons place places ih =>
      rw [List.cons_append, firsts_cons, ih, firsts_cons, List.filter_append, List.filter_filter,
        List.cons_append]
      simp [not_or]

/-- Of two first occurrences, the one that stands first is found before every occurrence of the
other. -/
theorem firsts_pairwise_before (places : List (List Text)) :
    (firsts places).Pairwise fun a b =>
      ∃ before after, places = before ++ a :: after ∧ b ∉ before ∧ b ≠ a := by
  induction places with
  | nil => exact .nil
  | cons place places ih =>
      rw [firsts_cons, List.pairwise_cons]
      constructor
      · intro b hb
        exact ⟨[], places, rfl, List.not_mem_nil, of_decide_eq_true (List.mem_filter.1 hb).2⟩
      · apply (ih.filter _).imp_of_mem
        intro a b _ hb hab
        obtain ⟨before, after, rfl, hbefore, hne⟩ := hab
        have hplace : b ≠ place := of_decide_eq_true (List.mem_filter.1 hb).2
        exact ⟨place :: before, after, rfl, List.not_mem_cons_of_ne_of_not_mem hplace hbefore, hne⟩

theorem nodup_firsts (places : List (List Text)) : (firsts places).Nodup := by
  apply (firsts_pairwise_before places).imp
  intro a b h
  obtain ⟨-, -, -, -, hne⟩ := h
  exact hne.symm

-- =========================================================== one pattern

/-- A full path that a pattern without groups matches. A relative pattern starts at the root. -/
inductive Matches (tree : FileTree) (root : List Text) (pattern : Text) : Text → Prop
  | relative {path : Text} (h : Path.isAbsolute pattern = false)
      (found : path ∈ Glob.paths tree (Path.absolute root) pattern) :
      Matches tree root pattern (Path.absolute (root ++ Path.parts path))
  | absolute {path : Text} (h : Path.isAbsolute pattern = true)
      (found : path ∈ Glob.paths tree [] pattern) : Matches tree root pattern path

/-- A pattern leads to a place by a path that it matches. -/
structure Leads (tree : FileTree) (root : List Text) (pattern path : Text) (place : List Text) :
    Prop where
  isMatch : Matches tree root pattern path
  leads : Path.follow [] (Path.parts path) = place

/-- The names on the way to a place: those below a base, or all of them if the place is not below
the base. -/
inductive Way (base : List Text) : List Text → List Text → Prop
  | below (names : List Text) : Way base (base ++ names) names
  | outside {place : List Text} (h : ¬ base <+: place) : Way base place place

/-- A pattern selects a file: it leads there, and no directory on the way is passed over. -/
structure Selects (tree : FileTree) (root : List Text) (pattern : Text) (file : List Text) :
    Prop where
  leads : ∃ path, Leads tree root pattern path file
  isFile : tree.isFileAt file = true
  noneExcluded : ∀ names, Way (base root pattern) file names →
    ∀ name ∈ names.dropLast, name ∉ excludedNames

variable {tree : FileTree} {root : List Text} {pattern : Text}

/-- A relative pattern is looked for below the root, and an absolute one from the top. -/
theorem mem_matched {path : Text} :
    path ∈ matched tree (some root) pattern ↔ Matches tree root pattern path := by
  unfold matched
  dsimp only
  rw [List.mem_mergeSort]
  constructor
  · intro h
    split at h
    case isTrue habsolute => exact .absolute habsolute h
    case isFalse hrelative =>
      obtain ⟨path, hpath, rfl⟩ := List.mem_map.1 h
      exact .relative (Bool.eq_false_iff.2 hrelative) hpath
  · intro h
    cases h with
    | relative h found =>
        rw [h]
        exact List.mem_map_of_mem found
    | absolute h found =>
        rw [h]
        exact found

/-- There is one way to a place from a base. -/
theorem way_iff {base place names : List Text} : Way base place names
    ↔ names = if base.isPrefixOf place then place.drop base.length else place := by
  by_cases hprefix : base <+: place
  · rw [if_pos (List.isPrefixOf_iff_prefix.2 hprefix)]
    obtain ⟨below, rfl⟩ := hprefix
    rw [List.drop_left]
    constructor
    · intro h
      generalize hplace : base ++ below = place at h
      cases h with
      | below names => exact (List.append_cancel_left hplace).symm
      | outside h => exact absurd ⟨below, hplace⟩ h
    · rintro rfl
      exact .below names
  · rw [if_neg (mt List.isPrefixOf_iff_prefix.1 hprefix)]
    constructor
    · intro h
      cases h with
      | below names => exact absurd (List.prefix_append base names) hprefix
      | outside h => rfl
    · rintro rfl
      exact .outside hprefix

/-- A place is not excluded if none of the directories that count is. -/
theorem isExcluded_eq_false_iff {base place : List Text} : isExcluded base place = false
    ↔ ∀ names, Way base place names → ∀ name ∈ names.dropLast, name ∉ excludedNames := by
  simp only [way_iff, forall_eq]
  rw [isExcluded, List.any_eq_false]
  simp only [List.elem_eq_mem, decide_eq_true_eq]

/-- The files that are listed for a pattern are those that it selects. -/
theorem mem_selected {file : List Text} :
    file ∈ selected tree (some root) pattern ↔ Selects tree root pattern file := by
  unfold selected
  rw [List.mem_filter, List.mem_map, Bool.and_eq_true, Bool.not_eq_true', Option.getD_some,
    isExcluded_eq_false_iff]
  constructor
  · intro h
    obtain ⟨⟨path, hpath, hfile⟩, isFile, hnone⟩ := h
    exact ⟨⟨path, mem_matched.1 hpath, hfile⟩, isFile, hnone⟩
  · intro h
    obtain ⟨path, hpath, hfile⟩ := h.leads
    exact ⟨⟨path, mem_matched.2 hpath, hfile⟩, h.isFile, h.noneExcluded⟩

theorem inOrder_iff {a b : Text} : inOrder a b = true ↔ a ≤ b := by
  unfold inOrder
  simp

theorem matched_pairwise : (matched tree (some root) pattern).Pairwise fun a b => a ≤ b := by
  have h : (matched tree (some root) pattern).Pairwise fun a b => inOrder a b = true := by
    apply List.pairwise_mergeSort
    · intro a b c hab hbc
      rw [inOrder_iff] at *
      exact le_trans hab hbc
    · intro a b
      rw [Bool.or_eq_true, inOrder_iff, inOrder_iff]
      exact le_total a b
  exact h.imp fun h => inOrder_iff.1 h

/-- A pattern leads to one place by a path before all paths by which it leads to another. -/
def LeadsSooner (tree : FileTree) (root : List Text) (pattern : Text) (a b : List Text) : Prop :=
  ∃ path, Leads tree root pattern path a ∧ ∀ path', Leads tree root pattern path' b → path < path'

/-- The files that are listed for a pattern stand in the order of the paths that lead there. -/
theorem firsts_selected_pairwise :
    (firsts (selected tree (some root) pattern)).Pairwise (LeadsSooner tree root pattern) := by
  apply (firsts_pairwise_before _).imp_of_mem
  intro a b _ hb hab
  obtain ⟨before, after, hlisted, hbefore, hne⟩ := hab
  have htests := (List.mem_filter.1 (mem_firsts.1 hb)).2
  -- what is listed are the places of paths in order, so the paths are cut where the places are
  rw [selected, List.filter_map] at hlisted
  obtain ⟨sooner, rest, hpaths, rfl, hrest⟩ := List.map_eq_append_iff.1 hlisted
  obtain ⟨path, later, rfl, hpath, -⟩ := List.map_eq_cons_iff.1 hrest
  have hsorted := matched_pairwise.sublist (hpaths ▸ List.filter_sublist)
  have hfound : path ∈ matched tree (some root) pattern :=
    (List.mem_filter.1 (hpaths ▸ List.mem_append_right _ (List.mem_cons_self ..))).1
  refine ⟨path, ⟨mem_matched.1 hfound, hpath⟩, fun path' hleads => ?_⟩
  have hmem : path' ∈ sooner ++ path :: later := by
    rw [← hpaths, List.mem_filter]
    refine ⟨mem_matched.2 hleads.isMatch, ?_⟩
    rw [Function.comp_apply, hleads.leads]
    exact htests
  rcases List.mem_append.1 hmem with h | h
  · exact absurd (List.mem_map.2 ⟨path', h, hleads.leads⟩) hbefore
  · have hother : path ≠ path' := by
      intro heq
      rw [← hpath, ← hleads.leads, heq] at hne
      exact hne rfl
    rcases List.mem_cons.1 h with heq | h
    · exact absurd heq.symm hother
    · have hle := List.rel_of_pairwise_cons (List.pairwise_append.1 hsorted).2.1 h
      exact lt_of_le_of_ne hle hother

-- ========================================================== inward patterns

/-- A pattern that is relative and leads nowhere back. -/
structure Inward (pattern : Text) : Prop where
  relative : Path.isAbsolute pattern = false
  forward : Path.back ∉ Path.parts pattern

theorem Inward.base (inward : Inward pattern) (root : List Text) :
    base root pattern = root ++ leading pattern := by
  have hleading : Path.back ∉ leading pattern := fun h =>
    inward.forward ((leading_isPrefix pattern).subset h)
  rw [Discovery.base, inward.relative, if_neg Bool.false_ne_true, Path.follow_of_notMem hleading]

/-- It leads below its leading directories, and to a place by the path of the place alone. -/
theorem Inward.leads (proper : tree.Proper)
    (named : ∀ name ∈ root, Path.IsPart name ∧ name ≠ Path.back) (inward : Inward pattern)
    {path : Text} {place : List Text} (h : Leads tree root pattern path place) :
    path = Path.absolute place ∧ root ++ leading pattern <+: place := by
  obtain ⟨hmatch, rfl⟩ := h
  cases hmatch with
  | @relative path _ found =>
      obtain ⟨below, hbelow, hnone⟩ := Glob.exists_below proper inward.forward found
      have hparts : ∀ name ∈ root ++ Path.parts path, Path.IsPart name := by
        intro name hname
        rcases List.mem_append.1 hname with hname | hname
        · exact (named name hname).1
        · exact Path.isPart_of_mem_parts hname
      have hforward : Path.back ∉ root ++ Path.parts path := by
        intro hback
        rw [hbelow, List.mem_append, List.mem_append] at hback
        rcases hback with hback | hback | hback
        · exact (named _ hback).2 rfl
        · exact inward.forward ((leading_isPrefix pattern).subset hback)
        · exact hnone hback
      rw [Path.parts_absolute hparts, Path.follow_of_notMem hforward, List.nil_append, hbelow]
      exact ⟨rfl, below, List.append_assoc ..⟩
  | absolute habsolute _ =>
      rw [inward.relative] at habsolute
      cases habsolute

/-- The names on the way to the root are parts, and lead nowhere back. -/
theorem isPart_of_mem_rootPlace {path name : Text} (h : rootPlace? path = some root)
    (hname : name ∈ root) : Path.IsPart name ∧ name ≠ Path.back := by
  unfold rootPlace? at h
  split at h
  case isTrue =>
    cases h
    exact Path.isPart_of_mem_follow hname
  case isFalse => cases h

-- ====================================================== several patterns

/-- One file stands before another: of the patterns without groups, one selects it and not the
other, or the first one that selects either selects both, and leads to it sooner. -/
inductive Precedes (tree : FileTree) (root : List Text) :
    List Text → List Text → List Text → Prop
  | sooner {pattern : Text} {patterns : List Text} {a b : List Text}
      (h : Selects tree root pattern a) (h' : ¬ Selects tree root pattern b) :
      Precedes tree root (pattern :: patterns) a b
  | together {pattern : Text} {patterns : List Text} {a b : List Text}
      (h : Selects tree root pattern a) (h' : Selects tree root pattern b)
      (order : LeadsSooner tree root pattern a b) : Precedes tree root (pattern :: patterns) a b
  | later {pattern : Text} {patterns : List Text} {a b : List Text}
      (h : ¬ Selects tree root pattern a) (h' : ¬ Selects tree root pattern b)
      (rest : Precedes tree root patterns a b) : Precedes tree root (pattern :: patterns) a b

/-- The listing is in the order of the patterns, and for each of them in the order of paths. -/
theorem firsts_pairwise (patterns : List Text) :
    (firsts (patterns.flatMap (selected tree (some root)))).Pairwise
      (Precedes tree root patterns) := by
  induction patterns with
  | nil => exact .nil
  | cons pattern patterns ih =>
      rw [List.flatMap_cons, firsts_append, List.pairwise_append]
      refine ⟨?_, ?_, ?_⟩
      · apply firsts_selected_pairwise.imp_of_mem
        intro a b ha hb hab
        exact .together (mem_selected.1 (mem_firsts.1 ha)) (mem_selected.1 (mem_firsts.1 hb)) hab
      · apply (ih.filter _).imp_of_mem
        intro a b ha hb hab
        have ha' := of_decide_eq_true (List.mem_filter.1 ha).2
        have hb' := of_decide_eq_true (List.mem_filter.1 hb).2
        exact .later (fun h => ha' (mem_selected.2 h)) (fun h => hb' (mem_selected.2 h)) hab
      · intro a ha b hb
        have hb' := of_decide_eq_true (List.mem_filter.1 hb).2
        exact .sooner (mem_selected.1 (mem_firsts.1 ha)) fun h => hb' (mem_selected.2 h)

-- ============================================================ looking up

/-- No name has a null character. -/
def Clean (names : List Text) : Prop :=
  ∀ name ∈ names, '\x00' ∉ name

instance : DecidablePred Clean := fun names =>
  inferInstanceAs (Decidable (∀ name ∈ names, '\x00' ∉ name))

theorem lookUp_eq (names : List Text) :
    lookUp names = if Clean names then .ok () else .error .nullCharacter := by
  unfold lookUp
  by_cases clean : Clean names
  · have hnone : ¬ (names.any (·.elem '\x00')) = true := by
      simpa [Clean] using clean
    rw [if_neg hnone, if_pos clean]
  · have hsome : (names.any (·.elem '\x00')) = true := by
      simpa [Clean] using clean
    rw [if_pos hsome, if_neg clean]

/-- Directories are looked up one after the other. -/
theorem forM_lookUp_eq (patterns : List Text) :
    (patterns.forM fun pattern => lookUp (leading pattern))
      = if ∀ pattern ∈ patterns, Clean (leading pattern) then .ok ()
        else .error .nullCharacter := by
  rw [List.forM_eq_forM]
  induction patterns with
  | nil => rw [if_pos fun pattern h => nomatch h]; rfl
  | cons pattern patterns ih =>
      rw [List.forM_cons, lookUp_eq, ite_bind_ok, ih, ← ite_and]
      simp only [List.forall_mem_cons]

theorem patternOfJson_str (pattern : Text) :
    patternOfJson (.str pattern)
      = if ∀ e ∈ Brace.expand pattern, Clean (leading e) then .ok pattern
        else .error .nullCharacter := by
  rw [patternOfJson, forM_lookUp_eq]
  split <;> rfl

/-- The patterns without groups that patterns stand for, in order. -/
def expanded (patterns : List Text) : List Text :=
  patterns.flatMap Brace.expand

/-- Texts are read as patterns if their leading directories can be looked up. -/
theorem mapM_patternOfJson_str (patterns : List Text) :
    (patterns.map Json.str).mapM patternOfJson
      = if ∀ e ∈ expanded patterns, Clean (leading e) then .ok patterns
        else .error .nullCharacter := by
  induction patterns with
  | nil => rw [if_pos fun e h => nomatch h]; rfl
  | cons pattern patterns ih =>
      have hexpanded : expanded (pattern :: patterns)
          = Brace.expand pattern ++ expanded patterns := List.flatMap_cons
      rw [List.map_cons, List.mapM_cons, ih, patternOfJson_str, ite_bind_ok, ite_bind_ok, ← ite_and]
      simp only [hexpanded, List.forall_mem_append]
      rfl

-- ============================================================= selecting

/-- The leading directories of patterns are looked up first, and a null character in one of them
is all that comes of it. Otherwise the files are listed that one of the patterns selects, each of
them once, in the order of the patterns without groups and for each of these in the order of
paths; if there is none, that is the fault. Patterns that are relative and lead nowhere back have
their leading directories for a base, lead to places below it only, and to each of them by its
own path. -/
theorem select_patterns {tree : FileTree} (proper : tree.Proper) {root : Text} {place : List Text}
    (hroot : rootPlace? root = some place) (hclean : '\x00' ∉ root) (patterns : List Text) :
    ((∃ e ∈ expanded patterns, ¬ Clean (leading e)) →
        select tree root (.arr (patterns.map .str)) = .error .nullCharacter)
      ∧ ((∀ e ∈ expanded patterns, Clean (leading e)) → ∃ found,
          (∀ file, file ∈ found ↔ ∃ e ∈ expanded patterns, Selects tree place e file)
          ∧ (found.map Path.absolute).Nodup
          ∧ found.Pairwise (Precedes tree place (expanded patterns))
          ∧ select tree root (.arr (patterns.map .str))
            = if found = [] then .error (.noFiles patterns)
              else .ok (found.map Path.absolute))
      ∧ ∀ e, Inward e → base place e = place ++ leading e
          ∧ ∀ path file, Leads tree place e path file →
              path = Path.absolute file ∧ place ++ leading e <+: file := by
  -- both clauses about the result read off this equation: a root that is clean can be looked up, so
  -- only the leading directories of the patterns can fail
  have hselect : select tree root (.arr (patterns.map .str))
      = if ∀ e ∈ expanded patterns, Clean (leading e) then files tree root patterns
        else .error .nullCharacter := by
    have hparts : Clean (Path.parts root) := by
      intro name hname hnull
      exact hclean ((mem_pieces (List.mem_filter.1 hname).1).2 hnull)
    show (lookUp (Path.parts root) >>= fun _ => (patterns.map Json.str).mapM patternOfJson
      >>= fun patterns => files tree root patterns) = _
    rw [lookUp_eq, if_pos hparts, mapM_patternOfJson_str]
    exact ite_bind_ok
  refine ⟨fun h => ?_, fun hall => ?_, fun e inward => ?_⟩
  · obtain ⟨e, he, hnull⟩ := h
    rw [hselect, if_neg fun hall => hnull (hall e he)]
  · have hmem : ∀ file, file ∈ firsts ((expanded patterns).flatMap (selected tree (some place)))
        ↔ ∃ e ∈ expanded patterns, Selects tree place e file := by
      intro file
      rw [mem_firsts, List.mem_flatMap]
      simp only [mem_selected]
    -- files are told apart by their paths, since the names along them hold no slash
    have hparts : ∀ file, (∃ e ∈ expanded patterns, Selects tree place e file) →
        ∀ name ∈ file, Path.IsPart name := by
      intro file h name hname
      obtain ⟨e, -, hselects⟩ := h
      obtain ⟨path, -, rfl⟩ := hselects.leads
      exact (Path.isPart_of_mem_follow hname).1
    refine ⟨_, hmem, ?_, firsts_pairwise _, ?_⟩
    · apply List.Nodup.map_on _ (nodup_firsts _)
      intro a ha b hb heq
      exact Path.absolute_injOn (hparts a ((hmem a).1 ha)) (hparts b ((hmem b).1 hb)) heq
    · rw [hselect, if_pos hall, files, hroot]
      simp only [List.isEmpty_iff]
      rfl
  · refine ⟨inward.base place, fun path file h => ?_⟩
    exact inward.leads proper (fun _ => isPart_of_mem_rootPlace hroot) h

/-- A directory of foreign files is passed over below the root, and not where it is named. -/
theorem select_patterns_named :
    let root : List Text := ["p"]
    let file : List Text := ["p", "node_modules", "lib", "b.ts"]
    let tree : FileTree := .insert (.file []) file .empty
    let patterns : List Text := ["**/*.\x7bts,tsx\x7d", "node_modules/lib/*.ts"]
    tree.Proper ∧ rootPlace? "/p" = some root ∧ '\x00' ∉ "/p".toList
      ∧ (∀ e ∈ expanded patterns, Clean (leading e))
      ∧ ¬ Selects tree root "**/*.ts" file
      ∧ ∃ found : List (List Text), file ∈ found
        ∧ found.Pairwise (Precedes tree root (expanded patterns))
        ∧ select tree "/p" (.arr (patterns.map .str)) = .ok (found.map Path.absolute) := by
  intro root file tree patterns
  have proper : tree.Proper := .insert .empty (.file []) (by decide +kernel)
  have hroot : rootPlace? "/p" = some root := by decide +kernel
  have hnull : '\x00' ∉ "/p".toList := by decide +kernel
  have clean : ∀ e ∈ expanded patterns, Clean (leading e) := by decide +kernel
  have hselects : Selects tree root "node_modules/lib/*.ts" file :=
    mem_selected.1 (by decide +kernel)
  have hnot : ¬ Selects tree root "**/*.ts" file := fun h =>
    absurd (mem_selected.2 h) (by decide +kernel)
  obtain ⟨found, hfound, -, horder, hselect⟩ := (select_patterns proper hroot hnull patterns).2.1 clean
  have hmem : file ∈ found := (hfound file).2 ⟨_, by decide +kernel, hselects⟩
  rw [if_neg (List.ne_nil_of_mem hmem)] at hselect
  exact ⟨proper, hroot, hnull, clean, hnot, found, hmem, horder, hselect⟩

/-- A pattern selects a file, and nothing is selected because of another one. -/
theorem select_null :
    let root : List Text := ["p"]
    let file : List Text := ["p", "src", "x.ts"]
    let tree : FileTree := .insert (.file []) file .empty
    Selects tree root "src/*.ts" file
      ∧ select tree "/p" (.arr [.str "src/*.ts", .str "a\x00/b.ts"]) = .error .nullCharacter := by
  intro root file tree
  refine ⟨mem_selected.1 (by decide +kernel), ?_⟩
  rfl

end TypeShape.Discovery
