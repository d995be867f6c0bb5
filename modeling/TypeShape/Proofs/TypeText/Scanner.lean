/-
Removing artifacts is reading with a stack.

What stands before the place of the search is a stack: a removal drops its last character and the
artifact that comes next, and the search goes on behind both. So one form of artifacts is removed
by one reading from left to right (`scan`), and a text is read twice, once for each form
(`strip_scanned`). The only place where the search leaves an artifact where it is, the very start,
is that where the stack is empty; what is left there is passed as a whole, which makes no
difference, since no artifact opens inside of another one.

Characters may be read with something attached to them (`scan` looks at the characters alone), so
that it can be told which ones of a text are left.
-/
import TypeShape.Proofs.TypeText.Artifact

namespace TypeShape.TypeText

variable {α : Type} {char : α → Char} {artifact tail t u : Text} {mark : Char}
  {stack unread out word : List α}

-- ================================================== statement vocabulary

/-- The empty object whose line break is written as a backslash and an `n`. -/
def escapedForm : Text := "\x7b\\n\x7d"

/-- The empty object that is broken over two lines. -/
def brokenForm : Text := "\x7b\n\x7d"

/-- Read onto a stack: where the artifact comes next and the stack is not empty, the artifact is
skipped and one character taken off the stack; anything else goes onto the stack. What is on the
stack at the end is left. -/
def scan (char : α → Char) (artifact : Text) (stack : List α) : List α → List α
  | [] => stack.reverse
  | c :: unread =>
    if artifact <+: (c :: unread).map char ∧ stack ≠ [] then
      scan char artifact stack.tail (unread.drop (artifact.length - 1))
    else scan char artifact (c :: stack) unread
termination_by unread => unread.length

/-- What is left of a text that is read for one form of artifacts. -/
def scanned (artifact t : Text) : Text :=
  scan id artifact [] t

/-- No artifact has a character before it. -/
def Stripped (t : Text) : Prop :=
  ∀ artifact ∈ artifacts, ∀ before after, before ++ artifact ++ after = t → before = []

-- =============================================================== reading

/-- The steps of reading, one for each way to go on. -/
inductive Scans (char : α → Char) (artifact : Text) : List α → List α → List α → Prop
  | stop {stack : List α} : Scans char artifact stack [] stack.reverse
  | skip {c : α} {stack word unread out : List α} (skipped : word.map char = artifact)
      (rest : Scans char artifact stack unread out) :
      Scans char artifact (c :: stack) (word ++ unread) out
  | push {c : α} {stack unread out : List α}
      (bottom : artifact <+: (c :: unread).map char → stack = [])
      (rest : Scans char artifact (c :: stack) unread out) :
      Scans char artifact stack (c :: unread) out

/-- An artifact is one character and those after it. -/
theorem length_sub_one {c : α} (hword : (c :: word).map char = artifact) :
    artifact.length - 1 = word.length := by
  rw [← hword, List.length_map, List.length_cons, Nat.add_sub_cancel]

theorem scan_push {c : α} (h : artifact <+: (c :: unread).map char → stack = []) :
    scan char artifact stack (c :: unread) = scan char artifact (c :: stack) unread := by
  rw [scan, if_neg fun ⟨next, hne⟩ => hne (h next)]

theorem scan_skip {c : α} (hne : artifact ≠ []) (hword : word.map char = artifact) :
    scan char artifact (c :: stack) (word ++ unread) = scan char artifact stack unread := by
  cases word with
  | nil => exact absurd hword.symm hne
  | cons d word =>
      have hnext : artifact <+: (d :: (word ++ unread)).map char := by
        rw [← hword, ← List.cons_append, List.map_append]
        exact List.prefix_append ..
      rw [List.cons_append, scan, if_pos ⟨hnext, List.cons_ne_nil c stack⟩,
        length_sub_one hword, List.drop_left, List.tail_cons]

/-- Reading goes by these steps. -/
theorem scans (hne : artifact ≠ []) (stack unread : List α) :
    Scans char artifact stack unread (scan char artifact stack unread) := by
  induction stack, unread using scan.induct char artifact with
  | case1 stack =>
      rw [scan]
      exact .stop
  | case2 stack c unread h ih =>
      obtain ⟨⟨rest, hnext⟩, hstack⟩ := h
      obtain ⟨top, stack, rfl⟩ := List.exists_cons_of_ne_nil hstack
      obtain ⟨word, others, hunread, hword, -⟩ := List.map_eq_append_iff.1 hnext.symm
      cases word with
      | nil => exact absurd hword.symm hne
      | cons d word =>
          rw [List.cons_append] at hunread
          obtain ⟨rfl, rfl⟩ := List.cons.inj hunread
          rw [length_sub_one hword, List.drop_left, List.tail_cons] at ih
          rw [← List.cons_append, scan_skip hne hword]
          exact .skip hword ih
  | case3 stack c unread h ih =>
      have hbottom : artifact <+: (c :: unread).map char → stack = [] :=
        fun next => by_contra fun hstack => h ⟨next, hstack⟩
      rw [scan_push hbottom]
      exact .push hbottom ih

-- ============================================================== the loop

/-- Up to the first artifact everything goes onto the stack. -/
theorem scan_of_indexOf? {i : Nat} {stack u : Text} (h : Text.indexOf? artifact u = some i) :
    scan id artifact stack u = scan id artifact ((u.take i).reverse ++ stack) (u.drop i) := by
  induction u generalizing i stack with
  | nil =>
      unfold Text.indexOf? at h
      split at h
      case isTrue =>
        cases h
        rfl
      case isFalse => cases h
  | cons c rest ih =>
      unfold Text.indexOf? at h
      split at h
      case isTrue =>
        cases h
        rfl
      case isFalse away =>
        obtain ⟨j, found, rfl⟩ := Option.map_eq_some_iff.1 h
        have hpush : artifact <+: (c :: rest).map id → stack = [] := by
          rw [List.map_id]
          exact fun next => absurd (List.isPrefixOf_iff_prefix.2 next) away
        rw [scan_push hpush, ih found]
        simp

/-- Without artifacts everything does. -/
theorem scan_of_indexOf?_eq_none {stack u : Text} (h : Text.indexOf? artifact u = none) :
    scan id artifact stack u = stack.reverse ++ u := by
  induction u generalizing stack with
  | nil => rw [scan, List.append_nil]
  | cons c rest ih =>
      unfold Text.indexOf? at h
      split at h
      case isTrue => cases h
      case isFalse away =>
        have hpush : artifact <+: (c :: rest).map id → stack = [] := by
          rw [List.map_id]
          exact fun next => absurd (List.isPrefixOf_iff_prefix.2 next) away
        rw [scan_push hpush, ih (Option.map_eq_none_iff.1 h)]
        simp

/-- Where no artifact opens, characters go onto the stack. -/
theorem scan_append (hword : mark ∉ word.map char) :
    scan char (mark :: tail) stack (word ++ unread)
      = scan char (mark :: tail) (word.reverse ++ stack) unread := by
  induction word generalizing stack with
  | nil => rfl
  | cons c word ih =>
      obtain ⟨hc, hword⟩ := List.ne_and_not_mem_of_not_mem_cons hword
      have hpush : mark :: tail <+: (c :: (word ++ unread)).map char → stack = [] :=
        fun next => absurd (List.cons_prefix_cons.1 next).1 hc
      rw [List.cons_append, scan_push hpush, ih hword]
      simp

/-- An artifact at the bottom of the stack is passed. -/
theorem scan_bottom (hmark : mark ∉ tail) (u : Text) :
    scan id (mark :: tail) [] (mark :: tail ++ u)
      = scan id (mark :: tail) (mark :: tail).reverse u := by
  have hword : mark ∉ tail.map id := by rwa [List.map_id]
  rw [List.cons_append, scan_push fun _ => rfl, scan_append hword]
  simp

/-- The search leaves what reading leaves, if no artifact opens inside of another one. -/
theorem Ends.eq_scan {start : Nat} (h : Ends (mark :: tail) start t u) (hmark : mark ∉ tail)
    (hstart : start ≤ t.length) :
    u = scan id (mark :: tail) (t.take start).reverse (t.drop start) := by
  have hne : mark :: tail ≠ [] := List.cons_ne_nil mark tail
  -- what is before the place of the search lies on the stack, top first; what is found there is
  -- skipped together with that top
  induction h with
  | @done start t none =>
      rw [scan_of_indexOf?_eq_none (Option.map_eq_none_iff.1 none), List.reverse_reverse,
        List.take_append_drop]
  | @kept start t u found _ ih =>
      obtain ⟨hle, hlength⟩ := indexFrom?_eq_some found hne
      obtain rfl : start = 0 := Nat.le_zero.1 hle
      obtain ⟨j, here, hj⟩ := Option.map_eq_some_iff.1 found
      obtain rfl : j = 0 := by omega
      obtain ⟨rest, hrest⟩ := indexOf?_eq_some here
      rw [List.drop_zero, List.drop_zero] at hrest
      rw [ih (by omega), ← hrest, List.take_left, List.drop_left, List.take_zero, List.drop_zero,
        List.reverse_nil, scan_bottom hmark]
  | @removed start i t u found _ ih =>
      obtain ⟨hle, hlength⟩ := indexFrom?_eq_some found hne
      obtain ⟨j, here, hj⟩ := Option.map_eq_some_iff.1 found
      obtain ⟨rest, hrest⟩ := indexOf?_eq_some here
      have hstack : ((t.drop start).take j).reverse ++ (t.take start).reverse
          = (t.take (i + 1)).reverse := by
        rw [← List.reverse_append, ← List.take_add, ← hj, Nat.add_comm]
      obtain ⟨top, htop⟩ : ∃ top, t.take (i + 1) = t.take i ++ [top] :=
        ⟨t[i], List.take_succ_eq_append_getElem (by omega)⟩
      have hunread : (t.drop start).drop j = t.drop (i + 1) := by
        rw [List.drop_drop, ← hj, Nat.add_comm]
      have hskipped : (mark :: tail).map id = mark :: tail := List.map_id _
      have hafter : rest = t.drop (i + 1 + (mark :: tail).length) := by
        rw [← List.drop_drop, ← hunread, ← hrest, List.drop_left]
      have hlength' : (t.take i).length = i := List.length_take_of_le (by omega)
      rw [ih (by rw [List.length_append]; omega), scan_of_indexOf? here, hstack, ← hrest, htop,
        List.reverse_append, List.reverse_singleton, List.singleton_append,
        scan_skip hne hskipped, hafter, List.take_left' hlength', List.drop_left' hlength']

/-- One form of artifacts is removed by one reading. -/
theorem stripOne_eq_scanned (hmark : mark ∉ tail) (t : Text) :
    stripOne t (mark :: tail) = scanned (mark :: tail) t :=
  (ends_stripOne (List.cons_ne_nil mark tail) t).eq_scan hmark (Nat.zero_le _)

theorem stripOne_escaped (t : Text) : stripOne t escapedForm = scanned escapedForm t :=
  have hmark : '{' ∉ "\\n\x7d".toList := by decide
  stripOne_eq_scanned hmark t

theorem stripOne_broken (t : Text) : stripOne t brokenForm = scanned brokenForm t :=
  have hmark : '{' ∉ "\n\x7d".toList := by decide
  stripOne_eq_scanned hmark t

/-- Both forms are removed by two readings, one after the other. -/
theorem strip_eq_scanned (t : Text) : strip t = scanned brokenForm (scanned escapedForm t) := by
  rw [← stripOne_escaped, ← stripOne_broken]
  rfl

-- ========================================================= nothing to do

theorem artifact_ne_nil {artifact : Text} (hmem : artifact ∈ artifacts) : artifact ≠ [] := by
  have table : ∀ artifact ∈ artifacts, artifact ≠ [] := by decide
  exact table artifact hmem

/-- After its first character such a text has no artifacts. -/
theorem stripped_iff : Stripped t ↔ ∀ artifact ∈ artifacts, ¬ artifact <:+: t.tail := by
  refine forall₂_congr fun artifact hmem => ?_
  constructor
  · rintro h ⟨before, after, heq⟩
    cases t with
    | nil => exact artifact_ne_nil hmem (List.infix_nil.1 ⟨before, after, heq⟩)
    | cons c rest =>
        have hsplit : c :: before ++ artifact ++ after = c :: rest := congrArg (c :: ·) heq
        exact List.cons_ne_nil c before (h _ _ hsplit)
  · rintro h before after rfl
    cases before with
    | nil => rfl
    | cons c before => exact absurd ⟨before, after, rfl⟩ h

instance (t : Text) : Decidable (Stripped t) :=
  decidable_of_iff _ stripped_iff.symm

/-- Where artifacts stand at the start only, everything goes onto the stack. -/
theorem scan_eq_append {stack u : Text}
    (h : ∀ before after, before ++ artifact ++ after = stack.reverse ++ u → before = []) :
    scan id artifact stack u = stack.reverse ++ u := by
  induction u generalizing stack with
  | nil => rw [scan, List.append_nil]
  | cons c rest ih =>
      have hpush : artifact <+: (c :: rest).map id → stack = [] := by
        rw [List.map_id]
        rintro ⟨after, hafter⟩
        exact List.reverse_eq_nil_iff.1 (h stack.reverse after (by rw [List.append_assoc, hafter]))
      have hstack : (c :: stack).reverse ++ rest = stack.reverse ++ c :: rest := by simp
      rw [scan_push hpush, ih (by rwa [hstack]), hstack]

theorem Stripped.scanned {artifact t : Text} (h : Stripped t) (hmem : artifact ∈ artifacts) :
    scanned artifact t = t :=
  scan_eq_append (h artifact hmem)

/-- Such a text is left as it is. -/
theorem Stripped.strip (h : Stripped t) : strip t = t := by
  rw [strip_eq_scanned, h.scanned (by decide), h.scanned (by decide)]

-- ============================================================== removal

/-- The search for the one form of artifacts ends, and so does that for the other form after it,
and what they leave is what two readings with a stack leave. A text in which artifacts stand at
the start only is left as it is. -/
theorem strip_scanned (t : Text) :
    Ends escapedForm 0 t (scanned escapedForm t)
    ∧ Ends brokenForm 0 (scanned escapedForm t) (strip t)
    ∧ strip t = scanned brokenForm (scanned escapedForm t)
    ∧ (Stripped t → strip t = t) := by
  have hescaped : Ends escapedForm 0 t (stripOne t escapedForm) := ends_stripOne (by decide) t
  have hbroken : Ends brokenForm 0 (scanned escapedForm t)
      (stripOne (scanned escapedForm t) brokenForm) := ends_stripOne (by decide) _
  rw [stripOne_escaped] at hescaped
  rw [stripOne_broken, ← strip_eq_scanned] at hbroken
  exact ⟨hescaped, hbroken, strip_eq_scanned t, Stripped.strip⟩

/-- An artifact at the start stays. -/
theorem strip_scanned_leading :
    let t : Text := "\x7b\\n\x7d & x"
    Stripped t ∧ strip t = t ∧ Ends brokenForm 0 (scanned escapedForm t) t := by
  intro t
  have hstripped : Stripped t := by decide
  obtain ⟨-, hbroken, -, hsame⟩ := strip_scanned t
  have hstrip := hsame hstripped
  exact ⟨hstripped, hstrip, hstrip ▸ hbroken⟩

end TypeShape.TypeText
