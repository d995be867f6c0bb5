/-
The names of the models for inline objects are words of source text.

The name of a model goes into the text that its literal is read from. It is made of the
owner's name and characters of a key that are letters, digits or underscores, the first of them
in upper case. None of these is a blank or a punctuation mark, so a name that grows by them is
still one word (`isWord_inlineName`).
-/
import TypeShape.Proofs.Source.Takes
import TypeShape.Resolve.Plan

namespace TypeShape

open Source (isNameChar isNameStart isSpace isWord punctuation wideSpaceRanges)

-- ===================================================== ranges of names

/-- A range of code points that are characters of names: capital letters of ASCII, or
characters above ASCII without the blanks. -/
def NameRange (low high : Nat) : Prop :=
  (65 ≤ low ∧ high ≤ 90)
    ∨ 128 ≤ low ∧ (high < 0xD800 ∨ 0xDFFF < low ∧ high < 0x110000)
      ∧ ∀ w ∈ wideSpaceRanges, high < w.1 ∨ w.2 < low

instance (low high : Nat) : Decidable (NameRange low high) :=
  inferInstanceAs (Decidable (_ ∨ _))

theorem punctuation_ascii : punctuation.all isAscii = true := by
  decide

/-- Above ASCII all but the blanks can go on a name. -/
theorem isNameChar_of_wide {c : Char} (hwide : 128 ≤ c.toNat)
    (hspace : inRanges wideSpaceRanges c = false) : isNameChar c = true := by
  have hascii : isAscii c = false := decide_eq_false (Nat.not_lt.2 hwide)
  have hmark : c ∉ punctuation := by
    intro h
    have hlow := List.all_eq_true.1 punctuation_ascii c h
    rw [hascii] at hlow
    cases hlow
  have hcontrol : 32 ≤ c.toNat := Nat.le_trans (by decide) hwide
  simp [isNameChar, isSpace, hascii, hspace, hmark, hcontrol]

theorem isNameChar_capital : ∀ n : Fin 128, 65 ≤ n.val → n.val ≤ 90 →
    isNameChar (Char.ofNat n) = true := by
  decide +kernel

namespace NameRange

variable {low high n : Nat}

/-- Every code point of the range is that of a character of names. -/
theorem isNameChar (h : NameRange low high) (hlow : low ≤ n) (hhigh : n ≤ high) :
    isNameChar (Char.ofNat n) = true := by
  rcases h with ⟨hfirst, hlast⟩ | ⟨hwide, hvalid, hspaces⟩
  · exact isNameChar_capital ⟨n, by omega⟩ (by dsimp only; omega) (by dsimp only; omega)
  · have valid : n.isValidChar := by
      unfold Nat.isValidChar
      omega
    have hn : (Char.ofNat n).toNat = n := by
      rw [Char.ofNat, dif_pos valid]
      rfl
    refine isNameChar_of_wide (hn.symm ▸ by omega) ?_
    unfold inRanges
    rw [hn, List.any_eq_false]
    intro w hw
    have := hspaces w hw
    simp
    omega

end NameRange

-- =========================================================== characters

theorem isNameChar_of_alphanum : ∀ n : Fin 128, (Char.ofNat n).isAlphanum = true →
    isNameChar (Char.ofNat n) = true ∧ isNameChar (Char.ofNat n).toUpper = true := by
  decide +kernel

theorem alphanumericRanges_names : ∀ range ∈ alphanumericRanges, NameRange range.1 range.2 := by
  decide +kernel

/-- What a run maps characters to are characters of names. -/
theorem upperRuns_names : ∀ run ∈ upperRuns,
    0 ≤ (run.1 : Int) + run.2.2.2
      ∧ NameRange ((run.1 : Int) + run.2.2.2).toNat ((run.2.1 : Int) + run.2.2.2).toNat := by
  decide +kernel

theorem upperExpansions_names : ∀ e ∈ upperExpansions, ∀ n ∈ e.2, NameRange n n := by
  decide +kernel

/-- Letters and digits can go on a name, whatever their script. -/
theorem isNameChar_of_isAlphanumeric {c : Char} (hc : isAlphanumeric c = true) :
    isNameChar c = true := by
  unfold isAlphanumeric at hc
  split at hc
  case isTrue hascii =>
    have hlt : c.toNat < 128 := of_decide_eq_true hascii
    have h := isNameChar_of_alphanum ⟨c.toNat, hlt⟩
    rw [Char.ofNat_toNat] at h
    exact (h hc).1
  case isFalse =>
    obtain ⟨range, hrange, hin⟩ := List.any_eq_true.1 hc
    simp only [Bool.and_eq_true, decide_eq_true_eq] at hin
    have h := (alphanumericRanges_names range hrange).isNameChar hin.1 hin.2
    rwa [Char.ofNat_toNat] at h

/-- So can all that a name takes of a key. -/
theorem isNameChar_of_kept {c : Char} (hc : isAlphanumeric c = true ∨ c = '_') :
    isNameChar c = true := by
  rcases hc with hc | rfl
  · exact isNameChar_of_isAlphanumeric hc
  · decide

/-- And the capital forms of these. -/
theorem isNameChar_of_mem_upperOf {c d : Char} (hc : isAlphanumeric c = true ∨ c = '_')
    (hd : d ∈ upperOf c) : isNameChar d = true := by
  unfold upperOf at hd
  split at hd
  case isTrue hascii =>
    rw [List.mem_singleton.1 hd]
    rcases hc with hc | rfl
    · rw [isAlphanumeric, if_pos hascii] at hc
      have hlt : c.toNat < 128 := of_decide_eq_true hascii
      have h := isNameChar_of_alphanum ⟨c.toNat, hlt⟩
      rw [Char.ofNat_toNat] at h
      exact (h hc).2
    · decide
  case isFalse =>
    unfold mapCase at hd
    split at hd
    case h_1 e code codes hfind =>
      obtain ⟨n, hn, rfl⟩ := List.mem_map.1 hd
      have h := upperExpansions_names _ (List.mem_of_find?_eq_some hfind) n hn
      exact h.isNameChar (Nat.le_refl n) (Nat.le_refl n)
    case h_2 =>
      rw [List.mem_singleton.1 hd]
      unfold mapByRuns
      split
      case h_1 run first last step shift hfind =>
        have hrun := List.find?_some hfind
        obtain ⟨hpos, hname⟩ := upperRuns_names _ (List.mem_of_find?_eq_some hfind)
        simp only [Bool.and_eq_true, decide_eq_true_eq] at hrun
        dsimp only at hpos hname
        exact hname.isNameChar (by omega) (by omega)
      case h_2 => exact isNameChar_of_kept hc

-- ================================================================ names

/-- The name of a model for an inline object is the name of its owner, and characters of names. -/
theorem inlineName_eq_append (owner key : Text) :
    ∃ added, inlineName owner key = owner ++ added ∧ ∀ c ∈ added, isNameChar c = true := by
  have hkept : ∀ c ∈ key.filter fun c => isAlphanumeric c || c == '_',
      isAlphanumeric c = true ∨ c = '_' := by
    intro c hc
    simpa using (List.mem_filter.1 hc).2
  unfold inlineName
  split
  case h_1 => exact ⟨[], (List.append_nil owner).symm, List.forall_mem_nil _⟩
  case h_2 c rest heq =>
    rw [heq] at hkept
    refine ⟨upperOf c ++ rest, List.append_assoc .., fun d hd => ?_⟩
    rcases List.mem_append.1 hd with hd | hd
    · exact isNameChar_of_mem_upperOf (hkept c (List.mem_cons_self ..)) hd
    · exact isNameChar_of_kept (hkept d (List.mem_cons_of_mem _ hd))

/-- So it is a word if the name of the owner is one. -/
theorem isWord_inlineName {owner : Text} (howner : isWord owner = true) (key : Text) :
    isWord (inlineName owner key) = true := by
  obtain ⟨added, heq, hadded⟩ := inlineName_eq_append owner key
  obtain ⟨d, s, rfl, hd⟩ := Source.exists_of_isWord howner
  simp only [isWord, Bool.and_eq_true, List.all_eq_true] at howner ⊢
  rw [heq]
  refine ⟨by simpa using hd, fun e he => ?_⟩
  rcases List.mem_append.1 he with he | he
  · exact howner.2 e he
  · exact hadded e he

end TypeShape
