/-
Paths and their parts.

Slashes come and go when paths are put together and taken apart, and what stays is the parts:
those of `Path.append` are the parts of both sides, and so are those of `Path.split`. Names that
are parts themselves come back from the absolute path of them, so different places have
different paths.
-/
import TypeShape.Files.Wildcard
import TypeShape.Files.Path
import TypeShape.Proofs.Text.Scan

namespace TypeShape.Path

-- ================================================================= parts

/-- A name that can be a part of a path. -/
structure IsPart (name : Text) : Prop where
  nonempty : name ≠ []
  noDot : name ≠ ['.']
  noSlash : slash ∉ name

instance : DecidablePred IsPart := fun name =>
  decidable_of_iff (name ≠ [] ∧ name ≠ ['.'] ∧ slash ∉ name)
    ⟨fun h => ⟨h.1, h.2.1, h.2.2⟩, fun h => ⟨h.nonempty, h.noDot, h.noSlash⟩⟩

/-- The part that leads back. -/
def back : Text := ['.', '.']

theorem isPart_of_mem_parts {path part : Text} (h : part ∈ parts path) : IsPart part := by
  obtain ⟨hpiece, hpart⟩ := List.mem_filter.1 h
  rw [Bool.not_eq_true', Bool.or_eq_false_iff, List.isEmpty_eq_false_iff] at hpart
  exact ⟨hpart.1, fun hdot => by simp [hdot] at hpart, (mem_pieces hpiece).1⟩

@[simp] theorem parts_nil : parts [] = [] := rfl

/-- Around a slash the parts are those of both sides. -/
theorem parts_append_cons (path rest : Text) :
    parts (path ++ slash :: rest) = parts path ++ parts rest := by
  rw [parts, pieces_append_cons, List.filter_append]
  rfl

theorem parts_cons_slash (rest : Text) : parts (slash :: rest) = parts rest :=
  parts_append_cons [] rest

/-- A name is its only part. -/
theorem IsPart.parts {name : Text} (h : IsPart name) : parts name = [name] := by
  rw [Path.parts, pieces_of_notMem h.noSlash]
  simp [h.nonempty, h.noDot]

/-- The parts of a path with another one behind it are those of both. -/
theorem parts_append (path part : Text) : parts (append path part) = parts path ++ parts part := by
  unfold append
  split
  case h_1 hlast =>
    rw [List.getLast?_eq_none_iff.1 hlast, parts_nil, List.nil_append]
  case h_2 c hlast =>
    split
    case isTrue hc =>
      obtain ⟨init, rfl⟩ := List.getLast?_eq_some_iff.1 hlast
      rw [hc, List.append_assoc, List.singleton_append, parts_append_cons, parts_append_cons,
        parts_nil, List.append_nil]
    case isFalse => exact parts_append_cons path part

-- ============================================================= splitting

/-- Slashes before a path say nothing. -/
theorem parts_slashes_append {slashes : Text} (h : ∀ c ∈ slashes, c = slash) (rest : Text) :
    parts (slashes ++ rest) = parts rest := by
  induction slashes with
  | nil => rfl
  | cons c slashes ih =>
      obtain ⟨rfl, hslashes⟩ := List.forall_mem_cons.1 h
      rw [List.cons_append, parts_cons_slash, ih hslashes]

/-- A text is the rest and its longest end whose characters pass a test; the rest has no last
character that does. -/
theorem exists_longest_end (p : Char → Bool) (t : Text) :
    t = (t.reverse.dropWhile p).reverse ++ (t.reverse.takeWhile p).reverse
      ∧ (∀ c ∈ (t.reverse.takeWhile p).reverse, p c = true)
      ∧ ∀ c, (t.reverse.dropWhile p).reverse.getLast? = some c → p c = false := by
  refine ⟨?_, fun c hc => List.mem_takeWhile_imp (List.mem_reverse.1 hc), fun c hlast => ?_⟩
  · rw [← List.reverse_append, List.takeWhile_append_dropWhile, List.reverse_reverse]
  · rw [List.getLast?_reverse] at hlast
    have hfirst := List.head?_dropWhile_not p t.reverse
    rw [hlast] at hfirst
    simpa using hfirst

/-- Without its end a text is what stands before. -/
theorem take_length_sub {t before last : Text} (h : t = before ++ last) :
    t.take (t.length - last.length) = before := by
  rw [h, List.length_append, Nat.add_sub_cancel, List.take_left]

/-- A path is split at slashes, and these are gone if anything else stands before them. -/
theorem exists_split (path : Text) : ∃ gap, path = (split path).1 ++ (gap ++ (split path).2)
    ∧ slash ∉ (split path).2 ∧ (∀ c ∈ gap, c = slash)
    ∧ (gap = [] → ∀ c ∈ (split path).1, c = slash) := by
  obtain ⟨hpath, hname, hlast⟩ := exists_longest_end (· != slash) path
  have hbefore := take_length_sub hpath
  have hnone : slash ∉ (path.reverse.takeWhile (· != slash)).reverse := by
    intro h
    simpa using hname slash h
  simp only [split, hbefore]
  generalize (path.reverse.dropWhile (· != slash)).reverse = before at hpath hlast
  obtain ⟨hbare, hslashes, hend⟩ := exists_longest_end (· == slash) before
  have hgap : ∀ c ∈ (before.reverse.takeWhile (· == slash)).reverse, c = slash := by
    intro c hc
    exact eq_of_beq (hslashes c hc)
  split
  case isTrue hempty =>
    rw [List.isEmpty_iff.1 hempty, List.nil_append] at hbare
    refine ⟨[], hpath, hnone, fun c hc => absurd hc List.not_mem_nil, fun _ c hc => ?_⟩
    rw [hbare] at hc
    exact hgap c hc
  case isFalse hne =>
    refine ⟨(before.reverse.takeWhile (· == slash)).reverse, ?_, hnone, hgap, fun hnil => ?_⟩
    · rw [← List.append_assoc, ← hbare]
      exact hpath
    · -- the last character before the name is a slash, and what was left of it has none there
      rw [hnil, List.append_nil] at hbare
      rw [← hbare] at hend hne
      cases hsome : before.getLast? with
      | none => exact absurd (List.isEmpty_iff.2 (List.getLast?_eq_none_iff.1 hsome)) hne
      | some c =>
          have hc := hlast c hsome
          rw [bne, hend c hsome] at hc
          cases hc

/-- Both sides of a split path have its parts. -/
theorem parts_split (path : Text) :
    parts path = parts (split path).1 ++ parts (split path).2 := by
  obtain ⟨gap, hpath, -, hgap, hnone⟩ := exists_split path
  generalize (split path).1 = before at hpath hnone
  generalize (split path).2 = name at hpath
  cases gap with
  | nil =>
      have hbefore := parts_slashes_append (hnone rfl)
      have hempty : parts before = [] := by
        rw [← List.append_nil before, hbefore, parts_nil]
      rw [hpath, List.nil_append, hbefore, hempty, List.nil_append]
  | cons c gap =>
      obtain ⟨rfl, hslashes⟩ := List.forall_mem_cons.1 hgap
      rw [hpath, List.cons_append, parts_append_cons, parts_slashes_append hslashes]

/-- Where there is more than slashes, splitting takes off a character. -/
theorem length_split_lt {path : Text} {c : Char} (hmem : c ∈ path) (hc : c ≠ slash) :
    (split path).1.length < path.length := by
  obtain ⟨gap, hpath, -, hgap, hnone⟩ := exists_split path
  have hlength := congrArg List.length hpath
  rw [List.length_append, List.length_append] at hlength
  by_cases hempty : gap = []
  · have hname : (split path).2 ≠ [] := by
      intro hnil
      rw [hempty, hnil, List.append_nil, List.append_nil] at hpath
      rw [hpath] at hmem
      exact hc (hnone hempty c hmem)
    have := List.length_pos_iff.2 hname
    omega
  · have := List.length_pos_iff.2 hempty
    omega

-- ======================================================== absolute paths

theorem parts_join {names : List Text} (h : ∀ name ∈ names, IsPart name) :
    parts (Text.join [slash] names) = names := by
  cases names with
  | nil => rfl
  | cons name names =>
      rw [parts, pieces_join (List.cons_ne_nil name names) fun n hn => (h n hn).noSlash,
        List.filter_eq_self]
      intro n hn
      simp [(h n hn).nonempty, (h n hn).noDot]

/-- The parts of an absolute path are the names that it was made of. -/
theorem parts_absolute {names : List Text} (h : ∀ name ∈ names, IsPart name) :
    parts (absolute names) = names := by
  rw [absolute, parts_cons_slash, parts_join h]

theorem absolute_injOn {names others : List Text} (h : ∀ name ∈ names, IsPart name)
    (h' : ∀ name ∈ others, IsPart name) (heq : absolute names = absolute others) :
    names = others := by
  rw [← parts_absolute h, heq, parts_absolute h']

-- ============================================================= following

theorem followReversed_of_notMem {place names : List Text} (h : back ∉ names) :
    followReversed place names = names.reverse ++ place := by
  induction names generalizing place with
  | nil => rfl
  | cons name names ih =>
      obtain ⟨hname, hnames⟩ := not_or.1 (mt List.mem_cons.2 h)
      rw [followReversed, if_neg (show name ≠ ['.', '.'] from Ne.symm hname), ih hnames]
      simp

/-- Parts that do not lead back are followed one by one. -/
theorem follow_of_notMem {place names : List Text} (h : back ∉ names) :
    follow place names = place ++ names := by
  rw [follow, followReversed_of_notMem h, List.reverse_append, List.reverse_reverse,
    List.reverse_reverse]

/-- Followed from the root of all files, parts lead to names that do not lead back. -/
theorem mem_followReversed {place names : List Text} {name : Text}
    (h : name ∈ followReversed place names) : name ∈ place ∨ name ∈ names ∧ name ≠ back := by
  induction names generalizing place with
  | nil => exact .inl h
  | cons first names ih =>
      unfold followReversed at h
      split at h
      case isTrue =>
        rcases ih h with h | ⟨h, hne⟩
        · exact .inl (List.mem_of_mem_drop h)
        · exact .inr ⟨List.mem_cons_of_mem _ h, hne⟩
      case isFalse hfirst =>
        rcases ih h with h | ⟨h, hne⟩
        · rcases List.mem_cons.1 h with rfl | h
          · exact .inr ⟨List.mem_cons_self .., hfirst⟩
          · exact .inl h
        · exact .inr ⟨List.mem_cons_of_mem _ h, hne⟩

/-- Where a path leads to, every name is a part of it and leads nowhere back. -/
theorem isPart_of_mem_follow {path name : Text} (h : name ∈ follow [] (parts path)) :
    IsPart name ∧ name ≠ back := by
  rcases mem_followReversed (List.mem_reverse.1 h) with h | ⟨h, hne⟩
  · cases h
  · exact ⟨isPart_of_mem_parts h, hne⟩

end TypeShape.Path
