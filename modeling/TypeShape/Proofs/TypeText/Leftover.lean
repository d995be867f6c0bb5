/-
Which artifacts are left.

A removal brings together what stood on both sides of it, and what is brought together is not
looked at again: the search goes on behind it, and the form that was removed first is not looked
for once more. So a text may be left with artifacts that have characters before them, and then
removing artifacts again changes it again (`strip_joined`). But all of these artifacts are joined:
their characters did not stand side by side in the text (`strip_leftover`).

To tell so, a text is read with the places of its characters. An artifact of the text that is left
was never skipped, and so it was met with an empty stack; from then on it is at the bottom
(`Scans.front`). Where every closing brace of a text closes an artifact, none is joined, since its
closing brace would have to close another one (`Scans.closed`, `Closed.seam`).
-/
import Mathlib.Data.List.Infix
import Mathlib.Data.List.Nodup
import Mathlib.Data.List.Perm.Subperm
import TypeShape.Proofs.TypeText.Scanner

namespace TypeShape.TypeText

variable {α : Type} {char : α → Char} {artifact tail t u : Text} {mark : Char}
  {stack unread out word before after : List α}

-- ================================================== statement vocabulary

/-- What is left of a text, with the places where it stood. -/
def traced (t : Text) : List (Char × Nat) :=
  scan Prod.fst brokenForm [] (scan Prod.fst escapedForm [] t.zipIdx)

/-- Every closing brace closes an artifact. -/
def Closed (t : Text) : Prop :=
  ∀ u, u <+: t → u.getLast? = some '}' → ∃ artifact ∈ artifacts, artifact <:+ u

instance (t : Text) : Decidable (Closed t) :=
  decidable_of_iff (∀ u ∈ t.inits, u.getLast? = some '}' → ∃ artifact ∈ artifacts, artifact <:+ u)
    (forall_congr' fun u => by rw [List.mem_inits])

-- ====================================================== parts of sublists

/-- What stands together and is left stands together in what is left. -/
theorem infix_of_sublist {l : List α} (h : word <:+: l) (hsub : out.Sublist l) (hnodup : l.Nodup)
    (hmem : word ⊆ out) : word <:+: out := by
  obtain ⟨x, y, rfl⟩ := h
  obtain ⟨o₁₂, o₃, rfl, h₁₂, h₃⟩ := List.sublist_append_iff.1 hsub
  obtain ⟨o₁, o₂, rfl, h₁, h₂⟩ := List.sublist_append_iff.1 h₁₂
  obtain ⟨hxw, -, hy⟩ := List.nodup_append'.1 hnodup
  obtain ⟨-, hword, hx⟩ := List.nodup_append'.1 hxw
  have hall : word ⊆ o₂ := by
    intro c hc
    rcases List.mem_append.1 (hmem hc) with h | h
    · rcases List.mem_append.1 h with h | h
      · exact absurd hc (hx (h₁.subset h))
      · exact h
    · exact absurd (h₃.subset h) (hy (List.mem_append_right x hc))
  have heq : o₂ = word := h₂.eq_of_length_le (hword.subperm hall).length_le
  exact ⟨o₁, o₃, by rw [heq]⟩

/-- What stands at the front and is left is at the front of what is left. -/
theorem front_of_sublist {rest : List α} (hne : word ≠ []) (hnodup : (word ++ rest).Nodup)
    (h : (before ++ word ++ after).Sublist (word ++ rest)) : before = [] := by
  cases before with
  | nil => rfl
  | cons b before =>
      cases word with
      | nil => exact absurd rfl hne
      | cons c word =>
          have hleft := h.nodup hnodup
          cases h with
          | cons _ h => exact absurd (h.subset (by simp)) (List.nodup_cons.1 hnodup).1
          | cons_cons => exact absurd (by simp) (List.nodup_cons.1 hleft).1

-- ============================================================= marks

theorem Scans.eq_scan (h : Scans char artifact stack unread out) (hne : artifact ≠ []) :
    out = scan char artifact stack unread := by
  induction h with
  | stop => rw [scan]
  | skip skipped _ ih => rw [ih, scan_skip hne skipped]
  | push bottom _ ih => rw [ih, scan_push bottom]

/-- Reading looks at the characters only. -/
theorem Scans.map (h : Scans char artifact stack unread out) :
    Scans id artifact (stack.map char) (unread.map char) (out.map char) := by
  induction h with
  | stop =>
      rw [List.map_reverse]
      exact .stop
  | skip skipped _ ih =>
      rw [List.map_cons, List.map_append]
      exact .skip (by rw [List.map_id, skipped]) ih
  | push bottom _ ih =>
      refine .push (fun next => ?_) ih
      rw [← List.map_cons, List.map_id] at next
      rw [bottom next, List.map_nil]

theorem map_scan (hne : artifact ≠ []) (stack unread : List α) :
    (scan char artifact stack unread).map char
      = scan id artifact (stack.map char) (unread.map char) :=
  (scans hne stack unread).map.eq_scan hne

/-- What is left was there, in this order. -/
theorem Scans.sublist (h : Scans char artifact stack unread out) :
    out.Sublist (stack.reverse ++ unread) := by
  induction h with
  | stop => simp
  | @skip c stack word unread out _ _ ih =>
      refine ih.trans ?_
      rw [List.reverse_cons, List.append_assoc]
      exact (List.Sublist.refl _).append (List.sublist_append_of_sublist_right
        (List.sublist_append_right ..))
  | push _ _ ih => simpa using ih

/-- The characters that are left are what is left of the text. -/
theorem map_traced (t : Text) : (traced t).map Prod.fst = strip t := by
  rw [traced, map_scan (by decide), map_scan (by decide), List.zipIdx_map_fst, strip_eq_scanned]
  rfl

-- ====================================================== artifacts of the text

/-- Past characters that open no artifact there is no artifact that begins among them. -/
theorem infix_of_append (hword : word.map char = mark :: tail) (hmark : mark ∉ before.map char)
    (h : word <:+: before ++ after) : word <:+: after := by
  induction before with
  | nil => exact h
  | cons c before ih =>
      obtain ⟨hc, hmark⟩ := List.ne_and_not_mem_of_not_mem_cons hmark
      rcases List.infix_cons_iff.1 h with h | h
      · have hopen : mark :: tail <+: char c :: (before ++ after).map char := by
          rw [← hword, ← List.map_cons]
          exact h.map char
        exact absurd (List.cons_prefix_cons.1 hopen).1 hc
      · exact ih hmark h

/-- Of the artifacts that come next one is skipped as a whole, and no other one in part. -/
theorem eq_or_infix {skipped : List α} (hmark : mark ∉ tail) (hword : word.map char = mark :: tail)
    (hskipped : skipped.map char = mark :: tail) (h : word <:+: skipped ++ unread) :
    word = skipped ∨ word <:+: unread := by
  cases skipped with
  | nil => cases hskipped
  | cons c skipped =>
      obtain ⟨-, htail⟩ := List.cons.inj hskipped
      rcases List.infix_cons_iff.1 h with h | h
      · left
        refine (List.prefix_of_prefix_length_le h (List.prefix_append ..) ?_).eq_of_length ?_
        · rw [← List.length_map char, hword, ← hskipped, List.length_map]
        · rw [← List.length_map char, hword, ← hskipped, List.length_map]
      · exact .inr (infix_of_append hword (htail ▸ hmark) h)

/-- What is skipped is not among what is left to be read. -/
theorem nodup_of_skip {c : α} {skipped : List α}
    (h : ((c :: stack).reverse ++ (skipped ++ unread)).Nodup) :
    (skipped ++ (stack.reverse ++ unread)).Nodup := by
  refine (List.perm_append_comm_assoc ..).nodup_iff.1 (h.sublist ?_)
  rw [List.reverse_cons]
  exact (List.sublist_append_left ..).append (List.Sublist.refl _)

/-- An artifact of the text that is left has nothing before it. -/
theorem Scans.front (h : Scans char (mark :: tail) stack unread out) (hmark : mark ∉ tail)
    (hword : word.map char = mark :: tail) (hnodup : (stack.reverse ++ unread).Nodup)
    (hown : word <:+: unread) (hleft : before ++ word ++ after = out) : before = [] := by
  have hne : word ≠ [] := by
    rintro rfl
    cases hword
  induction h with
  | stop => exact absurd (List.infix_nil.1 hown) hne
  | @skip c stack skipped unread out hskipped rest ih =>
      have hapart := nodup_of_skip hnodup
      rcases eq_or_infix hmark hword hskipped hown with rfl | hown
      · -- what is skipped is not left
        obtain ⟨d, hd⟩ := List.exists_mem_of_ne_nil word hne
        have hmem : d ∈ stack.reverse ++ unread :=
          rest.sublist.subset (hleft ▸ List.mem_append_left after (List.mem_append_right before hd))
        exact absurd hmem (List.disjoint_of_nodup_append hapart hd)
      · exact ih (List.nodup_append'.1 hapart).2.1 hown hleft
  | @push c stack unread out bottom rest ih =>
      have hsame : (c :: stack).reverse ++ unread = stack.reverse ++ c :: unread := by simp
      rcases List.infix_cons_iff.1 hown with ⟨others, hothers⟩ | hown
      · -- it comes next, so the stack is empty, and it is at the front of all that may be left
        obtain rfl : stack = [] :=
          bottom ⟨others.map char, by rw [← hothers, List.map_append, hword]⟩
        have hsub := rest.sublist
        rw [hsame, ← hleft, List.reverse_nil, List.nil_append, ← hothers] at hsub
        exact front_of_sublist hne (hothers ▸ hnodup) hsub
      · exact ih (by rwa [hsame]) hown hleft

-- ================================================================ places

theorem nodup_zipIdx (t : Text) : t.zipIdx.Nodup := by
  have hplaces : (t.zipIdx.map Prod.snd).Nodup := by
    rw [List.zipIdx_map_snd]
    exact List.nodup_range'
  exact hplaces.of_map

theorem sublist_scan (hne : artifact ≠ []) (l : List α) :
    (scan char artifact [] l).Sublist l :=
  (scans hne [] l).sublist

theorem traced_sublist (t : Text) : (traced t).Sublist t.zipIdx :=
  (sublist_scan (by decide) _).trans (sublist_scan (by decide) _)

/-- What is left and stood together at the start or behind it, as an artifact, is at the start. -/
theorem traced_front {before word after : List (Char × Nat)} (hmem : artifact ∈ artifacts)
    (hleft : before ++ word ++ after = traced t) (hword : word.map Prod.fst = artifact)
    (hown : word <:+: t.zipIdx) : before = [] := by
  have hne : word ≠ [] := by
    rintro rfl
    exact artifact_ne_nil hmem hword.symm
  have hsub : (traced t).Sublist (scan Prod.fst escapedForm [] t.zipIdx) :=
    sublist_scan (by decide) _
  have hfirst : (scan Prod.fst escapedForm [] t.zipIdx).Sublist t.zipIdx :=
    sublist_scan (by decide) _
  have hnodup := (nodup_zipIdx t).sublist hfirst
  have hinside : word <:+: scan Prod.fst escapedForm [] t.zipIdx := by
    refine infix_of_sublist hown hfirst (nodup_zipIdx t) fun c hc => hsub.subset ?_
    rw [← hleft]
    exact List.mem_append_left after (List.mem_append_right before hc)
  have hescaped : '{' ∉ "\\n\x7d".toList := by decide
  have hbroken : '{' ∉ "\n\x7d".toList := by decide
  rcases List.mem_cons.1 hmem with rfl | hmem
  · -- at the front of what the first reading left, and so still there
    obtain ⟨first, rest, hsplit⟩ := hinside
    obtain rfl : first = [] :=
      (scans (List.cons_ne_nil _ _) [] t.zipIdx).front hescaped hword (nodup_zipIdx t) hown hsplit
    rw [List.nil_append] at hsplit
    rw [← hleft, ← hsplit] at hsub
    exact front_of_sublist hne (hsplit ▸ hnodup) hsub
  · obtain rfl := List.mem_singleton.1 hmem
    exact (scans (List.cons_ne_nil _ _) [] _).front hbroken hword hnodup hinside hleft

/-- Only what has no artifacts after its start is left as it is. -/
theorem strip_eq_self_iff : strip t = t ↔ Stripped t := by
  refine ⟨fun h artifact hmem before after hsplit => ?_, Stripped.strip⟩
  have hall : traced t = t.zipIdx := by
    refine (traced_sublist t).eq_of_length ?_
    rw [← List.length_map Prod.fst, map_traced, h, List.length_zipIdx]
  have hmarks : (t.zipIdx.map Prod.fst) = before ++ (artifact ++ after) := by
    rw [List.zipIdx_map_fst, ← hsplit, List.append_assoc]
  obtain ⟨first, others, hfirst, hbefore, hothers⟩ := List.map_eq_append_iff.1 hmarks
  obtain ⟨word, rest, hword, hartifact, -⟩ := List.map_eq_append_iff.1 hothers
  have hcut : first ++ word ++ rest = t.zipIdx := by rw [hfirst, hword, List.append_assoc]
  obtain rfl := traced_front hmem (hcut.trans hall.symm) hartifact ⟨first, rest, hcut⟩
  exact hbefore.symm

-- ========================================================= closing braces

/-- An artifact holds one closing brace, at its end. -/
theorem exists_of_mem_artifacts (hmem : artifact ∈ artifacts) :
    ∃ w, artifact = w ++ ['}'] ∧ '}' ∉ w := by
  have table : ∀ artifact ∈ artifacts,
      artifact = artifact.dropLast ++ ['}'] ∧ '}' ∉ artifact.dropLast := by decide
  exact ⟨_, table artifact hmem⟩

/-- No artifact ends in another one. -/
theorem eq_of_suffix {a b : Text} (ha : a ∈ artifacts) (hb : b ∈ artifacts) (h : a <:+ b) :
    a = b := by
  have table : ∀ a ∈ artifacts, ∀ b ∈ artifacts, a <:+ b → a = b := by decide
  exact table a ha b hb h

/-- Of the texts between which an artifact stands, another one lies in the latter. -/
theorem suffix_of_suffix {skipped p v : Text} (hmem : artifact ∈ artifacts)
    (hskipped : skipped ∈ artifacts) (hlast : v.getLast? = some '}')
    (h : artifact <:+ p ++ (skipped ++ v)) : artifact <:+ v := by
  obtain ⟨w, rfl, hw⟩ := exists_of_mem_artifacts hmem
  obtain ⟨s, rfl, -⟩ := exists_of_mem_artifacts hskipped
  obtain ⟨v, rfl⟩ := List.getLast?_eq_some_iff.1 hlast
  have hinit : w.reverse <+: v.reverse ++ '}' :: (s.reverse ++ p.reverse) := by
    have h := List.reverse_prefix.2 h
    simpa using h
  have hprefix := prefix_append_cons (by simpa using hw) hinit
  rw [← List.reverse_prefix]
  simpa using hprefix

/-- A beginning of two texts in a row ends in the first or in the second one. -/
theorem prefix_append_cases {u p q : Text} (h : u <+: p ++ q) :
    u <+: p ∨ ∃ v, v ≠ [] ∧ u = p ++ v ∧ v <+: q := by
  rcases List.prefix_or_prefix_of_prefix h (List.prefix_append p q) with h' | ⟨v, rfl⟩
  · exact .inl h'
  · by_cases hne : v = []
    · exact .inl (by rw [hne, List.append_nil])
    · exact .inr ⟨v, hne, rfl, (List.prefix_append_right_inj p).1 h⟩

namespace Closed

variable {p q skipped v : Text} {top : Char}

/-- Behind an artifact that is skipped every closing brace closes an artifact by itself. -/
theorem behind (h : Closed (p ++ top :: (skipped ++ q))) (hskipped : skipped ∈ artifacts)
    (hv : v <+: q) (hlast : v.getLast? = some '}') : ∃ artifact ∈ artifacts, artifact <:+ v := by
  obtain ⟨rest, rfl⟩ := hv
  have hwhole : (p ++ top :: (skipped ++ v)).getLast? = some '}' := by
    simp [List.getLast?_append, List.getLast?_cons, hlast]
  obtain ⟨artifact, hmem, hartifact⟩ := h (p ++ top :: (skipped ++ v)) ⟨rest, by simp⟩ hwhole
  have hbehind : artifact <:+ (p ++ [top]) ++ (skipped ++ v) := by simpa using hartifact
  exact ⟨artifact, hmem, suffix_of_suffix hmem hskipped hlast hbehind⟩

/-- So every closing brace still closes one when the artifact is gone. -/
theorem skip (h : Closed (p ++ top :: (skipped ++ q))) (hskipped : skipped ∈ artifacts) :
    Closed (p ++ q) := by
  intro u hu hlast
  rcases prefix_append_cases hu with hu | ⟨v, hne, rfl, hv⟩
  · exact h u (hu.trans (List.prefix_append ..)) hlast
  · rw [List.getLast?_append_of_ne_nil p hne] at hlast
    obtain ⟨artifact, hmem, hartifact⟩ := h.behind hskipped hv hlast
    exact ⟨artifact, hmem, hartifact.trans (List.suffix_append ..)⟩

/-- And none reaches across the place where it was. -/
theorem seam (h : Closed (p ++ top :: (skipped ++ q))) (hskipped : skipped ∈ artifacts)
    (hmem : artifact ∈ artifacts) {u : Text} (hu : u <+: p ++ q) (hartifact : artifact <:+ u) :
    u <+: p ∨ ∃ v, u = p ++ v ∧ v <+: q ∧ artifact <:+ v := by
  rcases prefix_append_cases hu with hu | ⟨v, hne, rfl, hv⟩
  · exact .inl hu
  · refine .inr ⟨v, rfl, hv, ?_⟩
    obtain ⟨w, rfl, -⟩ := exists_of_mem_artifacts hmem
    have hlast : v.getLast? = some '}' := by
      obtain ⟨u, hu⟩ := hartifact
      rw [← List.getLast?_append_of_ne_nil p hne, ← hu, ← List.append_assoc]
      exact List.getLast?_concat
    obtain ⟨own, hown, hsuffix⟩ := h.behind hskipped hv hlast
    have hboth : own <:+ p ++ v := hsuffix.trans (List.suffix_append ..)
    rcases List.suffix_or_suffix_of_suffix hartifact hboth with hle | hle
    · rwa [eq_of_suffix hmem hown hle]
    · rwa [← eq_of_suffix hown hmem hle]

end Closed

-- ============================================================ readings

/-- An artifact is found as a beginning only. -/
def AtStart (artifact t : Text) : Prop :=
  ∀ u, u <+: t → artifact <:+ u → u = artifact

theorem stripped_of_atStart (h : ∀ artifact ∈ artifacts, AtStart artifact t) : Stripped t := by
  rintro artifact hmem before after rfl
  have heq := h artifact hmem (before ++ artifact) (List.prefix_append ..) (List.suffix_append ..)
  exact List.append_cancel_right (heq.trans (List.nil_append artifact).symm)

section

variable {stack unread out : Text}

/-- Reading leaves the closing braces with their artifacts. -/
theorem Scans.closed (h : Scans id artifact stack unread out) (hmem : artifact ∈ artifacts)
    (hclosed : Closed (stack.reverse ++ unread)) : Closed out := by
  induction h with
  | stop => rwa [List.append_nil] at hclosed
  | @skip c stack word unread out skipped _ ih =>
      rw [List.map_id] at skipped
      rw [skipped, List.reverse_cons, List.append_assoc, List.singleton_append] at hclosed
      exact ih (hclosed.skip hmem)
  | push _ _ ih => exact ih (by simpa using hclosed)

/-- It leaves an artifact that began on the stack where the stack began. -/
theorem Scans.atStart_own (h : Scans id artifact stack unread out) (hmem : artifact ∈ artifacts)
    (hclosed : Closed (stack.reverse ++ unread))
    (hstack : ∀ u, u <+: stack.reverse ++ unread → artifact <:+ u →
      u.length < stack.length + artifact.length → u = artifact) : AtStart artifact out := by
  induction h with
  | @stop stack =>
      rw [List.append_nil] at hstack
      refine fun u hu hartifact => hstack u hu hartifact ?_
      have hle := hu.length_le
      have hpos := List.length_pos_iff.2 (artifact_ne_nil hmem)
      rw [List.length_reverse] at hle
      omega
  | @skip c stack word unread out skipped _ ih =>
      rw [List.map_id] at skipped
      rw [skipped, List.reverse_cons, List.append_assoc, List.singleton_append] at hclosed hstack
      refine ih (hclosed.skip hmem) fun u hu hartifact hlength => ?_
      rcases hclosed.seam hmem hmem hu hartifact with hu | ⟨v, rfl, -, hv⟩
      · refine hstack u (hu.trans (List.prefix_append ..)) hartifact ?_
        rw [List.length_cons]
        omega
      · have hle := hv.length_le
        rw [List.length_append, List.length_reverse] at hlength
        omega
  | @push c stack unread out bottom _ ih =>
      have hsame : (c :: stack).reverse ++ unread = stack.reverse ++ c :: unread := by simp
      rw [hsame] at ih
      refine ih hclosed fun u hu hartifact hlength => ?_
      by_cases hearlier : u.length < stack.length + artifact.length
      · exact hstack u hu hartifact hearlier
      · -- it begins with the character that is read
        obtain ⟨before, rfl⟩ := hartifact
        obtain ⟨after, hafter⟩ := hu
        rw [List.length_append, List.length_cons] at hlength
        rw [List.length_append] at hearlier
        rw [List.append_assoc] at hafter
        obtain ⟨hbefore, hnext⟩ := List.append_inj hafter (by rw [List.length_reverse]; omega)
        rw [List.map_id] at bottom
        have hempty := bottom ⟨after, hnext⟩
        rw [hbefore, hempty]
        rfl

/-- And one of the other form where it was, at the start. -/
theorem Scans.atStart_other {other : Text} (h : Scans id artifact stack unread out)
    (hmem : artifact ∈ artifacts) (hother : other ∈ artifacts)
    (hclosed : Closed (stack.reverse ++ unread)) (hstart : AtStart other (stack.reverse ++ unread)) :
    AtStart other out := by
  induction h with
  | stop => rwa [List.append_nil] at hstart
  | @skip c stack word unread out skipped _ ih =>
      rw [List.map_id] at skipped
      rw [skipped, List.reverse_cons, List.append_assoc, List.singleton_append] at hclosed hstart
      refine ih (hclosed.skip hmem) fun u hu hsuffix => ?_
      rcases hclosed.seam hmem hother hu hsuffix with hu | ⟨v, rfl, ⟨rest, rfl⟩, hv⟩
      · exact hstart u (hu.trans (List.prefix_append ..)) hsuffix
      · -- it would have stood behind what is skipped
        have heq := hstart (stack.reverse ++ c :: (artifact ++ v)) ⟨rest, by simp⟩
          (hv.trans ⟨stack.reverse ++ c :: artifact, by simp⟩)
        have hlength := congrArg List.length heq
        have hle := hv.length_le
        simp only [List.length_append, List.length_cons] at hlength
        omega
  | push _ _ ih => exact ih (by simpa using hclosed) (by simpa using hstart)

end

/-- Where every closing brace closes an artifact, no artifact is left behind the start. -/
theorem Closed.stripped (h : Closed t) : Stripped (strip t) := by
  have hescaped : escapedForm ∈ artifacts := by decide
  have hbroken : brokenForm ∈ artifacts := by decide
  have hfirst : Scans id escapedForm [] t (scanned escapedForm t) := scans (by decide) [] t
  have hsecond : Scans id brokenForm [] (scanned escapedForm t) (strip t) := by
    rw [strip_eq_scanned]
    exact scans (by decide) [] _
  -- nothing begins on an empty stack
  have hempty (artifact t u : Text) (hsuffix : artifact <:+ u)
      (hlength : u.length < ([] : Text).length + artifact.length) : u = artifact := by
    have hle := hsuffix.length_le
    rw [List.length_nil] at hlength
    omega
  have hmiddle : Closed (scanned escapedForm t) := hfirst.closed hescaped h
  have hstart : AtStart escapedForm (scanned escapedForm t) :=
    hfirst.atStart_own hescaped h fun u _ => hempty _ t u
  refine stripped_of_atStart fun artifact hmem => ?_
  rcases List.mem_cons.1 hmem with rfl | hmem
  · exact hsecond.atStart_other hbroken hescaped hmiddle hstart
  · obtain rfl := List.mem_singleton.1 hmem
    exact hsecond.atStart_own hbroken hmiddle fun u _ => hempty _ t u

-- ============================================================== removal

/-- Removing artifacts twice comes to the same as removing them once exactly if no artifact is
left that has characters before it. Every one that is left so was joined: its characters did not
stand together in the text. If every closing brace closes an artifact, there is none. -/
theorem strip_leftover (t : Text) :
    (strip (strip t) = strip t ↔ Stripped (strip t))
    ∧ (traced t).map Prod.fst = strip t ∧ (traced t).Sublist t.zipIdx
    ∧ (∀ artifact ∈ artifacts, ∀ before word after, before ++ word ++ after = traced t →
      word.map Prod.fst = artifact → before ≠ [] → ¬ word <:+: t.zipIdx)
    ∧ (Closed t → Stripped (strip t) ∧ strip (strip t) = strip t) := by
  refine ⟨strip_eq_self_iff, map_traced t, traced_sublist t, ?_, fun h => ?_⟩
  · intro artifact hmem before word after hleft hword hbefore hown
    exact hbefore (traced_front hmem hleft hword hown)
  · exact ⟨h.stripped, h.stripped.strip⟩

/-- An artifact of each form behind a member of an intersection, and one at the start. -/
theorem strip_leftover_closed :
    let t : Text := "\x7b\n\x7d | a&\x7b\\n\x7d | b&\x7b\n\x7d"
    Closed t ∧ strip t = "\x7b\n\x7d | a | b".toList ∧ strip (strip t) = strip t := by
  intro t
  have hclosed : Closed t := by decide
  obtain ⟨-, -, -, -, htwice⟩ := strip_leftover t
  exact ⟨hclosed, by decide, (htwice hclosed).2⟩

/-- An empty object inside of another one that holds nothing else: its removal makes the outer one
an artifact, which is left. -/
theorem strip_joined :
    strip "string &\x7b \x7b\n\x7d\n\x7d" = "string &\x7b\n\x7d".toList
    ∧ ¬ Stripped (strip "string &\x7b \x7b\n\x7d\n\x7d")
    ∧ strip (strip "string &\x7b \x7b\n\x7d\n\x7d") = "string ".toList := by
  decide +kernel

end TypeShape.TypeText
