/-
Where the paths are that a pattern matches.

A pattern is read as a start without wildcards and parts, the first of which has one. The parts
of the start are the directories that the pattern names before its first wildcard, and every
match goes on from there: by names of the tree, and by parts of the pattern itself. So nothing
leads back out of these directories, unless a part of the pattern or a name in the tree does
(`Glob.exists_below`).
-/
import TypeShape.Files.Discovery
import TypeShape.Proofs.Files.Path

namespace TypeShape

-- ============================================================ trees of names

namespace FileTree

/-- Every entry has a name that is a part of a path and does not lead back. -/
inductive Proper : FileTree → Prop
  | file (bytes : List UInt8) : Proper (.file bytes)
  | directory {entries : List (Text × FileTree)}
      (names : ∀ e ∈ entries, Path.IsPart e.1 ∧ e.1 ≠ Path.back)
      (inner : ∀ e ∈ entries, Proper e.2) : Proper (.directory entries)

variable {t : FileTree}

theorem Proper.name (h : t.Proper) {e : Text × FileTree} (he : e ∈ t.entries) :
    Path.IsPart e.1 ∧ e.1 ≠ Path.back := by
  cases h with
  | file bytes => cases he
  | directory names inner => exact names e he

theorem Proper.inner (h : t.Proper) {e : Text × FileTree} (he : e ∈ t.entries) : e.2.Proper := by
  cases h with
  | file bytes => cases he
  | directory names inner => exact inner e he

theorem Proper.empty : empty.Proper :=
  .directory (fun _ he => nomatch he) fun _ he => nomatch he

/-- A tree that something is put into by names keeps to names. -/
theorem Proper.insert (h : t.Proper) {new : FileTree} (hnew : new.Proper) {place : List Text}
    (hplace : ∀ name ∈ place, Path.IsPart name ∧ name ≠ Path.back) : (insert new place t).Proper := by
  induction place generalizing t with
  | nil => exact hnew
  | cons name place ih =>
      obtain ⟨hname, hplace⟩ := List.forall_mem_cons.1 hplace
      have hnext : ((t.entry? name).getD .empty).Proper := by
        cases hentry : t.entry? name with
        | none => exact .empty
        | some next =>
            obtain ⟨e, he, rfl⟩ := Option.map_eq_some_iff.1 hentry
            exact h.inner (List.mem_of_find?_eq_some he)
      refine .directory (fun e he => ?_) fun e he => ?_
      · rcases List.mem_append.1 he with he | he
        · exact h.name (List.mem_filter.1 he).1
        · rw [List.mem_singleton.1 he]
          exact hname
      · rcases List.mem_append.1 he with he | he
        · exact h.inner (List.mem_filter.1 he).1
        · rw [List.mem_singleton.1 he]
          exact ih hnext hplace

theorem Proper.of_get? (h : t.Proper) {place : List Text} {here : FileTree}
    (hget : t.get? place = some here) : here.Proper := by
  induction place generalizing t with
  | nil =>
      cases hget
      exact h
  | cons name place ih =>
      obtain ⟨next, hentry, hget⟩ := Option.bind_eq_some_iff.1 hget
      obtain ⟨e, he, rfl⟩ := Option.map_eq_some_iff.1 hentry
      exact ih (h.inner (List.mem_of_find?_eq_some he)) hget

theorem Proper.of_find? (h : t.Proper) {path : Text} {here : FileTree}
    (hfind : t.find? path = some here) : here.Proper := by
  obtain ⟨place, -, hget⟩ := Option.bind_eq_some_iff.1 hfind
  exact h.of_get? hget

theorem descendEntries_eq_flatMap (directoriesOnly : Bool) (entries : List (Text × FileTree)) :
    descendEntries directoriesOnly entries = entries.flatMap fun e =>
      if e.1.head? == some '.' || (directoriesOnly && !e.2.isDirectory) then []
      else e.1 :: (descend directoriesOnly e.2).map fun path => e.1 ++ Path.slash :: path := by
  induction entries with
  | nil => rfl
  | cons e entries ih =>
      rw [List.flatMap_cons, ← ih]
      rfl

/-- Paths below a directory go by the names of entries. -/
theorem Proper.back_notMem_descend (h : t.Proper) {directoriesOnly : Bool} {path : Text}
    (hpath : path ∈ t.descend directoriesOnly) : Path.back ∉ Path.parts path := by
  induction h generalizing path with
  | file bytes => cases hpath
  | @directory entries names inner ih =>
      rw [descend, descendEntries_eq_flatMap] at hpath
      obtain ⟨e, he, hpath⟩ := List.mem_flatMap.1 hpath
      obtain ⟨hname, hback⟩ := names e he
      have hfirst : Path.back ∉ Path.parts e.1 := by
        rw [hname.parts]
        exact fun h => hback (List.mem_singleton.1 h).symm
      split at hpath
      case isTrue => cases hpath
      case isFalse =>
        rcases List.mem_cons.1 hpath with rfl | hpath
        · exact hfirst
        · obtain ⟨rest, hrest, rfl⟩ := List.mem_map.1 hpath
          rw [Path.parts_append_cons, List.mem_append]
          exact not_or.2 ⟨hfirst, ih e he hrest⟩

end FileTree

/-- The leading directories of a pattern are parts of it. -/
theorem Discovery.leading_isPrefix (pattern : Text) : leading pattern <+: Path.parts pattern :=
  (List.takeWhile_prefix _).trans (List.dropLast_prefix _)

namespace Glob

variable {tree : FileTree}

-- ============================================================ parts found

/-- What a part finds does not lead back if the part does not. -/
theorem back_notMem_found (proper : tree.Proper) {directory part name : Text} {more : Bool}
    (hpart : Path.back ∉ Path.parts part) (h : name ∈ found tree directory part more) :
    Path.back ∉ Path.parts name := by
  have here : ((tree.find? directory).getD .empty).Proper := by
    cases hfind : tree.find? directory with
    | none => exact .empty
    | some here => exact proper.of_find? hfind
  have hself : ∀ {b : Bool}, name ∈ (if b then [[]] else [] : List Text) →
      Path.back ∉ Path.parts name := by
    intro b hmem
    cases b with
    | false => cases hmem
    | true =>
        rw [List.mem_singleton.1 hmem]
        exact List.not_mem_nil
  -- a part finds the directory itself, what lies below it, what it fits among its names, or what it
  -- names
  unfold found at h
  dsimp only at h
  split at h
  case isTrue =>
    rcases List.mem_append.1 h with h | h
    · exact hself h
    · exact here.back_notMem_descend h
  case isFalse =>
    split at h
    case isTrue =>
      obtain ⟨e, he, rfl⟩ := List.mem_map.1 (List.mem_filter.1 h).1
      obtain ⟨hname, hback⟩ := here.name (List.mem_filter.1 he).1
      rw [hname.parts]
      exact fun h => hback (List.mem_singleton.1 h).symm
    case isFalse =>
      split at h
      case isTrue => exact hself h
      case isFalse =>
        split at h
        case isTrue =>
          rw [List.mem_singleton.1 h]
          exact hpart
        case isFalse => cases h

/-- What parts add to a path stands behind it. -/
theorem parts_of_mem_extend (proper : tree.Proper) {root path : Text} {paths parts : List Text}
    (hparts : ∀ part ∈ parts, Path.back ∉ Path.parts part)
    (h : path ∈ extend tree root paths parts) :
    ∃ start ∈ paths, ∃ below, Path.parts path = Path.parts start ++ below
      ∧ Path.back ∉ below := by
  induction parts generalizing paths with
  | nil => exact ⟨path, h, [], (List.append_nil _).symm, List.not_mem_nil⟩
  | cons part parts ih =>
      obtain ⟨hpart, hrest⟩ := List.forall_mem_cons.1 hparts
      obtain ⟨longer, hlonger, below, hbelow, hback⟩ := ih hrest h
      obtain ⟨start, hstart, hlonger⟩ := List.mem_flatMap.1 hlonger
      obtain ⟨name, hname, rfl⟩ := List.mem_map.1 hlonger
      refine ⟨start, hstart, Path.parts name ++ below, ?_, ?_⟩
      · rw [hbelow, Path.parts_append, List.append_assoc]
      · rw [List.mem_append]
        exact not_or.2 ⟨back_notMem_found proper hpart hname, hback⟩

-- =============================================================== reading

theorem isIn_append (t u : Text) : Wildcard.isIn (t ++ u) = (Wildcard.isIn t || Wildcard.isIn u) :=
  List.any_append

/-- A pattern with wildcards is read as a start without them and parts, the first of which has
some. -/
theorem Pattern.exists_peel {rounds : Nat} {t : Text} (hrounds : t.length ≤ rounds)
    (hwild : Wildcard.isIn t = true) (parts : List Text) :
    ∃ start part rest, peel rounds t parts = ⟨start, part :: rest⟩
      ∧ Wildcard.isIn start = false ∧ Wildcard.isIn part = true ∧ Path.slash ∉ part
      ∧ Path.parts t ++ parts.flatMap Path.parts
        = Path.parts start ++ (part :: rest).flatMap Path.parts := by
  -- each round takes the last part off; the first round that leaves no wildcards behind is the last
  -- one
  induction rounds generalizing t parts with
  | zero =>
      rw [List.eq_nil_of_length_eq_zero (Nat.le_zero.1 hrounds)] at hwild
      cases hwild
  | succ rounds ih =>
      rw [peel, if_pos hwild]
      dsimp only
      have hsplit := Path.parts_split t
      have hall : Path.parts t ++ parts.flatMap Path.parts
          = Path.parts (Path.split t).1
            ++ ((Path.split t).2 :: parts).flatMap Path.parts := by
        rw [List.flatMap_cons, hsplit, List.append_assoc]
      by_cases hbefore : Wildcard.isIn (Path.split t).1 = true
      · have hlength : (Path.split t).1.length ≤ rounds := by
          obtain ⟨c, hc, hmark⟩ := List.any_eq_true.1 hwild
          have hslash : c ≠ Path.slash := by
            rintro rfl
            exact absurd hmark (by decide)
          have := Path.length_split_lt hc hslash
          omega
        rw [hall]
        exact ih hlength hbefore _
      · obtain ⟨gap, hpath, hslash, hgap, -⟩ := Path.exists_split t
        have hnone : Wildcard.isIn gap = false := by
          rw [Wildcard.isIn, List.any_eq_false]
          intro c hc
          rw [hgap c hc]
          decide
        have hpart : Wildcard.isIn (Path.split t).2 = true := by
          rw [hpath, isIn_append, isIn_append, hnone, Bool.eq_false_iff.2 hbefore] at hwild
          exact hwild
        refine ⟨(Path.split t).1, (Path.split t).2, parts, ?_, Bool.eq_false_iff.2 hbefore, hpart,
          hslash, hall⟩
        cases rounds with
        | zero => rfl
        | succ rounds => rw [peel, if_neg hbefore]

theorem isIn_of_mem_parts {path part : Text} (hpath : Wildcard.isIn path = false)
    (h : part ∈ Path.parts path) : Wildcard.isIn part = false := by
  rw [Wildcard.isIn, List.any_eq_false] at hpath ⊢
  intro c hc
  exact hpath c ((mem_pieces (List.mem_filter.1 h).1).2 hc)

/-- The parts of a text without wildcards, and then one that has some: the leading directories
are those before it. -/
theorem takeWhile_dropLast {before after : List Text} {part : Text}
    (hbefore : ∀ p ∈ before, Wildcard.isIn p = false) (hpart : Wildcard.isIn part = true) :
    ((before ++ part :: after).dropLast.takeWhile fun p => !Wildcard.isIn p) = before := by
  have hall : (before.takeWhile fun p => !Wildcard.isIn p) = before := by
    rw [List.takeWhile_eq_self_iff]
    intro p hp
    rw [hbefore p hp]
    rfl
  cases after with
  | nil => rw [List.dropLast_concat, hall]
  | cons next after =>
      rw [List.dropLast_append_of_ne_nil (List.cons_ne_nil _ _), List.dropLast_cons_cons,
        List.takeWhile_append_of_pos fun p hp => by rw [hbefore p hp]; rfl,
        List.takeWhile_cons_of_neg (by rw [hpart]; decide), List.append_nil]

/-- A match goes on from the leading directories of its pattern, and nothing in it leads back if
nothing in the pattern does. -/
theorem exists_below (proper : tree.Proper) {root pattern path : Text}
    (hpattern : Path.back ∉ Path.parts pattern) (h : path ∈ paths tree root pattern) :
    ∃ below, Path.parts path = Discovery.leading pattern ++ below ∧ Path.back ∉ below := by
  by_cases hwild : Wildcard.isIn pattern = true
  · obtain ⟨start, part, rest, hread, hstart, hpart, hslash, hparts⟩ :=
      Pattern.exists_peel (Nat.le_refl _) hwild []
    rw [List.flatMap_nil, List.append_nil] at hparts
    have hname : Path.IsPart part := by
      refine ⟨?_, ?_, hslash⟩
      · rintro rfl
        cases hpart
      · rintro rfl
        exact absurd hpart (by decide)
    -- the leading directories end before the first part with wildcards, and so does the start of
    -- the search
    have hleading : Discovery.leading pattern = Path.parts start := by
      rw [Discovery.leading, hparts, List.flatMap_cons, hname.parts, List.singleton_append]
      exact takeWhile_dropLast (fun p hp => isIn_of_mem_parts hstart hp) hpart
    have hback : ∀ p ∈ part :: rest, Path.back ∉ Path.parts p := by
      intro p hp hmem
      rw [hparts, List.mem_append, not_or] at hpattern
      exact hpattern.2 (List.mem_flatMap.2 ⟨p, hp, hmem⟩)
    unfold paths at h
    rw [Pattern.read, hread] at h
    obtain ⟨first, hfirst, below, hbelow, hnone⟩ := parts_of_mem_extend proper hback h
    rw [List.mem_singleton.1 hfirst] at hbelow
    exact ⟨below, hleading ▸ hbelow, hnone⟩
  · -- without wildcards the pattern is one path, which is there or not
    have hread : (Pattern.read pattern).parts = [] := by
      unfold Pattern.read
      cases pattern with
      | nil => rfl
      | cons c rest => rw [List.length_cons, Pattern.peel, if_neg hwild]
    have hself : path = pattern := by
      simp only [paths, hread, List.isEmpty_nil, if_true] at h
      split at h
      case isTrue => exact List.mem_singleton.1 h
      case isFalse => cases h
    obtain ⟨below, hbelow⟩ := Discovery.leading_isPrefix pattern
    refine ⟨below, by rw [hself, hbelow], fun hmem => hpattern ?_⟩
    rw [← hbelow]
    exact List.mem_append_right _ hmem

end Glob

end TypeShape
