/-
The types of members are texts between the braces.

What is reported as the type of a member is the text of its annotation, or the comment
before it, or `any`. So the types of the members of a body lie in the text after the
brace that opens it.
-/
import TypeShape.Proofs.Source.Types

namespace TypeShape.Source

-- ============================================================== results

/-- A parser whose results have a property wherever it succeeds within a scope. -/
class Reads (σ : Scope) {α : Type} (good : α → Prop) (p : Parser α) : Prop where
  reads : ∀ {c : Cursor} {a : α} {c' : Cursor}, σ.Within c → p c = .ok (a, c') → good a

variable {σ : Scope} {α β : Type} {good : β → Prop}

instance Reads.bind {p : Parser α} {f : α → Parser β} [hp : Keeps σ p]
    [hf : ∀ a, Reads σ good (f a)] : Reads σ good (p >>= f) := by
  refine ⟨fun hc h => ?_⟩
  obtain ⟨a, c', hpc, hfc⟩ := bind_eq_ok.1 h
  exact (hf a).reads (hp.keeps hc hpc) hfc

instance Reads.seq {p : Parser α} {q : Parser β} [hp : Keeps σ p] [hq : Reads σ good q] :
    Reads σ good (p >>= fun _ => q) :=
  .bind

instance Reads.choose {p : Parser Bool} {q q' : Parser β} [hp : Keeps σ p] [hq : Reads σ good q]
    [hq' : Reads σ good q'] : Reads σ good (p >>= fun b => if b = true then q else q') := by
  have hchoice (b : Bool) : Reads σ good (if b = true then q else q') := by
    cases b
    · exact hq'
    · exact hq
  exact .bind

/-- What is known of the first result may be used for the second. -/
theorem Reads.bind_of {known : α → Prop} {p : Parser α} {f : α → Parser β} [hp : Keeps σ p]
    (hr : Reads σ known p) (hf : ∀ a : { a // known a }, Reads σ good (f a)) :
    Reads σ good (p >>= f) := by
  refine ⟨fun hc h => ?_⟩
  obtain ⟨a, c', hpc, hfc⟩ := bind_eq_ok.1 h
  exact (hf ⟨a, hr.reads hc hpc⟩).reads (hp.keeps hc hpc) hfc

instance Reads.get_bind {f : Cursor → Parser β}
    [hf : ∀ c : { c // σ.Within c }, Reads σ good (f c)] : Reads σ good (get >>= f) :=
  ⟨fun {c _ _} hc h => (hf ⟨c, hc⟩).reads hc h⟩

instance Reads.ite {b : Prop} [Decidable b] {p q : Parser β} [hp : Reads σ good p]
    [hq : Reads σ good q] : Reads σ good (if b then p else q) := by
  split
  · exact hp
  · exact hq

instance Reads.fail : Reads σ good (Source.fail : Parser β) :=
  ⟨fun _ h => by cases h⟩

theorem Reads.pure {b : β} (h : good b) : Reads σ good (Pure.pure b : Parser β) :=
  ⟨fun _ hb => by cases hb; exact h⟩

/-- The results of repeated steps keep what every step keeps. -/
theorem Reads.iterate {init : β} {step : β → Parser (β × Bool)} (hinit : good init)
    [hkeeps : ∀ s, Keeps σ (step s)]
    (hstep : ∀ s : { s // good s }, Reads σ (fun r => good r.1) (step s)) :
    Reads σ good (Source.iterate init step) := by
  refine ⟨fun {c a c'} hc h => ?_⟩
  unfold Source.iterate at h
  generalize c.left + 1 = rounds at h
  induction rounds generalizing init c with
  | zero => cases h
  | succ rounds ih =>
      unfold loop at h
      cases hs : step init c with
      | error e =>
          rw [hs] at h
          cases h
      | ok r =>
          obtain ⟨⟨s', again⟩, c''⟩ := r
          rw [hs] at h
          have hs' := (hstep ⟨init, hinit⟩).reads hc hs
          cases again with
          | true => exact ih hs' ((hkeeps init).keeps hc hs) h
          | false =>
              cases h
              exact hs'

-- ================================================================ texts

/-- The text that a parser takes opens with the next lexeme. -/
theorem textOf_isPrefix {p : Parser Unit} {c c' : Cursor} {t : Text}
    (h : textOf p c = .ok (t, c')) : t <+: ahead c.rest := by
  unfold textOf at h
  cases hpc : p c with
  | error e =>
      rw [hpc] at h
      cases h
  | ok r =>
      rw [hpc] at h
      cases h
      rw [← skipFrom_between c.left c.line]
      exact List.take_prefix ..

/-- A lexeme that is seen is a beginning of what comes next. -/
theorem rest_eq_of_isPrefixOf {s t : Text} (h : s.isPrefixOf t = true) :
    t = s ++ t.drop s.length := by
  obtain ⟨rest, rfl⟩ := List.isPrefixOf_iff_prefix.1 h
  rw [List.drop_left]

/-- A symbol that is taken is what comes next. -/
theorem symbol_eq_ok {s : Text} {c c' : Cursor} (h : symbol s c = .ok ((), c')) :
    c.skip.rest = s ++ c'.rest := by
  obtain ⟨seen, _, hsees, h⟩ := bind_eq_ok.1 h
  cases hsees
  cases hseen : s.isPrefixOf c.skip.rest with
  | false =>
      rw [hseen] at h
      cases h
  | true =>
      rw [hseen] at h
      cases h
      exact rest_eq_of_isPrefixOf hseen

/-- So is one that may be taken. -/
theorem symbol?_eq_ok {s : Text} {c c' : Cursor} (h : symbol? s c = .ok (true, c')) :
    c.skip.rest = s ++ c'.rest := by
  obtain ⟨seen, _, hsees, h⟩ := bind_eq_ok.1 h
  cases hsees
  cases hseen : s.isPrefixOf c.skip.rest with
  | false =>
      rw [hseen] at h
      cases h
  | true =>
      rw [hseen] at h
      cases h
      exact rest_eq_of_isPrefixOf hseen

namespace Rules

variable (rules : Rules) [hr : rules.Sound]

/-- The type of a property is what its annotation says. -/
instance Reads.annotation : Reads σ (TypeIn σ.text) rules.annotation := by
  refine ⟨fun {c type c'} hc h => ?_⟩
  obtain ⟨hasColon, c₁, hcolon, h⟩ := bind_eq_ok.1 h
  cases hasColon with
  | false =>
      cases h
      exact .inl rfl
  | true =>
      obtain ⟨comment, _, hcomment, h⟩ := bind_eq_ok.1 h
      cases hcomment
      obtain ⟨written, _, hwritten, h⟩ := bind_eq_ok.1 h
      cases h
      obtain ⟨before, hbefore⟩ := hc.skip.rest
      rw [symbol?_eq_ok hcolon] at hbefore
      exact .inr ⟨before, c₁.rest, written, hbefore, textOf_isPrefix hwritten, rfl⟩

-- ============================================================== members

/-- What follows an annotation may use that the scope has it. -/
instance Reads.annotation_bind {f : Text → Parser β}
    [hf : ∀ t : { t // TypeIn σ.text t }, Reads σ good (f t)] :
    Reads σ good (rules.annotation >>= f) :=
  .bind_of (Reads.annotation rules) hf

instance Reads.no_properties : Reads σ (TypesIn σ.text) (Pure.pure [] : Parser (List Property)) :=
  .pure fun _ h => nomatch h

instance Reads.property (key : Text) (type : { t // TypeIn σ.text t }) (isOptional : Bool) :
    Reads σ (TypesIn σ.text)
      (Pure.pure [{ name := key, type := type.1, isOptional }] : Parser (List Property)) :=
  .pure fun _ h => List.mem_singleton.1 h ▸ type.2

set_option synthInstance.maxSize 1000 in
instance Reads.typeMember : Reads σ (TypesIn σ.text) rules.typeMember := by
  unfold Rules.typeMember
  infer_instance

instance Reads.static_property (isStatic : Bool) (key : Text) (type : { t // TypeIn σ.text t })
    (isOptional : Bool) :
    Reads σ (TypesIn σ.text)
      (Pure.pure (if isStatic then [] else [{ name := key, type := type.1, isOptional }])
        : Parser (List Property)) := by
  split <;> infer_instance

set_option synthInstance.maxSize 512 in
instance Reads.classMemberAfter (isStatic : Bool) (key : Text) :
    Reads σ (TypesIn σ.text) (rules.classMemberAfter isStatic key) := by
  unfold Rules.classMemberAfter
  infer_instance

set_option synthInstance.maxSize 1000 in
instance Reads.classMember : Reads σ (TypesIn σ.text) rules.classMember := by
  unfold Rules.classMember
  infer_instance

-- =============================================================== bodies

instance Reads.typeMember_bind {f : List Property → Parser β}
    [hf : ∀ ps : { ps // TypesIn σ.text ps }, Reads σ good (f ps)] :
    Reads σ good (rules.typeMember >>= f) :=
  .bind_of (Reads.typeMember rules) hf

instance Reads.classMember_bind {f : List Property → Parser β}
    [hf : ∀ ps : { ps // TypesIn σ.text ps }, Reads σ good (f ps)] :
    Reads σ good (rules.classMember >>= f) :=
  .bind_of (Reads.classMember rules) hf

instance Reads.read_so_far (read : { ps // TypesIn σ.text ps }) (again : Bool) :
    Reads σ (fun r => TypesIn σ.text r.1)
      (Pure.pure (read.1, again) : Parser (List Property × Bool)) :=
  .pure read.2

instance Reads.read_more (read more : { ps // TypesIn σ.text ps }) (again : Bool) :
    Reads σ (fun r => TypesIn σ.text r.1)
      (Pure.pure (read.1 ++ more.1, again) : Parser (List Property × Bool)) :=
  .pure (read.2.append more.2)

instance Reads.memberRound (read : { ps // TypesIn σ.text ps }) :
    Reads σ (fun r => TypesIn σ.text r.1) (rules.memberRound read) := by
  unfold Rules.memberRound
  infer_instance

instance Reads.fieldRound (read : { ps // TypesIn σ.text ps }) :
    Reads σ (fun r => TypesIn σ.text r.1) (rules.fieldRound read) := by
  unfold Rules.fieldRound
  infer_instance

instance Reads.iterate_bind {step : List Property → Parser (List Property × Bool)}
    {f : List Property → Parser (List Property)} [∀ ps, Keeps σ (step ps)]
    [hstep : ∀ ps : { ps // TypesIn σ.text ps }, Reads σ (fun r => TypesIn σ.text r.1) (step ps)]
    [hf : ∀ ps : { ps // TypesIn σ.text ps }, Reads σ (TypesIn σ.text) (f ps)] :
    Reads σ (TypesIn σ.text) (Source.iterate [] step >>= f) :=
  .bind_of (.iterate (fun _ h => nomatch h) hstep) hf

instance Reads.read_all (read : { ps // TypesIn σ.text ps }) :
    Reads σ (TypesIn σ.text) (Pure.pure read.1 : Parser (List Property)) :=
  .pure read.2

end Rules

namespace Rules

variable (rules : Rules) [hr : rules.Sound]

/-- The members that are read after an opening brace have their types after it. -/
theorem types_after_brace {p : Parser (List Property)} {c c' : Cursor} {ps : List Property}
    (hp : ∀ σ : Scope, Reads σ (TypesIn σ.text) p) (hc : σ.Within c)
    (h : (do symbol "\x7b"; p) c = .ok (ps, c')) :
    ∃ body, '{' :: body <:+ c.rest ∧ TypesIn body ps := by
  obtain ⟨_, c₁, hbrace, h⟩ := bind_eq_ok.1 h
  have hrest := symbol_eq_ok hbrace
  have hskip : c.skip.rest <:+ c.rest := (skipFrom_suffix ..).1
  have hc₁ : σ.Within c₁ := (inferInstance : Keeps σ (symbol "\x7b")).keeps hc hbrace
  rw [hrest] at hskip
  exact ⟨c₁.rest, hskip,
    (hp (σ.narrow c₁.rest hc₁.rest)).reads (hc₁.narrow _ (List.suffix_refl _)) h⟩

/-- The types of the members of an object type stand after its brace. -/
theorem typeMembers_types {c c' : Cursor} {ps : List Property} (hc : σ.Within c)
    (h : rules.typeMembers c = .ok (ps, c')) :
    ∃ body, '{' :: body <:+ c.rest ∧ TypesIn body ps :=
  types_after_brace (fun _ => inferInstance) hc h

/-- The types of the members of a class stand after its brace. -/
theorem classMembers_types {c c' : Cursor} {ps : List Property} (hc : σ.Within c)
    (h : rules.classMembers c = .ok (ps, c')) :
    ∃ body, '{' :: body <:+ c.rest ∧ TypesIn body ps :=
  types_after_brace (fun _ => inferInstance) hc h

end Rules

end TypeShape.Source
