/-
The names of the models for inline objects are names of interfaces.

The name of a model is pasted into source text and read back from there, once for each level at
which objects are nested. The parser finds declarations with names of source text only
(`RoomFor`), and every such name it finds again when an interface is written with it
(`namesInterface_iff`). What a key adds to such a name can go on a name, so the names of a whole
chain of models are read back (`readLiteral_inlineNames`).
-/
import TypeShape.Proofs.Source.Literal
import TypeShape.Proofs.Source.Word

namespace TypeShape

open Source (IsBody IsName literalDeclaration literalText parseText readLiteral)

variable {owner name literal : Text}

-- ================================================== statement vocabulary

/-- The parser finds an interface with this name in some source text. -/
def NamesInterface (name : Text) : Prop :=
  ∃ source path file, parseText source path = .ok file
    ∧ ∃ d ∈ file.declarations, d.kind = Declaration.interfaceKind ∧ d.name = name

-- ================================================================= names

/-- The declarations of a file are named by names of source text. -/
theorem isName_of_parseText {source path : Text} {file : ParsedFile}
    (h : parseText source path = .ok file) {d : Declaration} (hd : d ∈ file.declarations) :
    IsName d.name := by
  unfold parseText at h
  cases hds : Source.declarations (Source.markupSuffix.isSuffixOf path) source with
  | error line =>
      rw [hds] at h
      cases h
  | ok ds =>
      rw [hds] at h
      cases h
      obtain ⟨-, -, -, ⟨hname, -⟩, -⟩ := Source.roomFor_of_declarations hds d hd
      exact hname

/-- The names of interfaces are the names of source text. -/
theorem namesInterface_iff : NamesInterface name ↔ IsName name := by
  constructor
  · rintro ⟨source, path, file, hparse, d, hd, -, rfl⟩
    exact isName_of_parseText hparse hd
  · intro hname
    have hbody : IsBody "\x7b\x7d" [] := by decide +kernel
    have hpath : Source.markupSuffix.isSuffixOf "x.ts" = false := by decide
    exact ⟨_, _, _, hbody.parseText_of_isName hname hpath, _, List.mem_singleton_self _, rfl, rfl⟩

/-- What a key adds to a name goes on the name. -/
theorem isName_inlineName (howner : IsName owner) (key : Text) : IsName (inlineName owner key) := by
  obtain ⟨added, heq, hadded⟩ := inlineName_eq_append owner key
  rw [heq]
  exact howner.append hadded

theorem isName_inlineNames (howner : IsName owner) (keys : List Text) :
    IsName (keys.foldl inlineName owner) := by
  induction keys generalizing owner with
  | nil => exact howner
  | cons key keys ih => exact ih (isName_inlineName howner key)

-- ============================================================== literals

/-- Under two names a literal is read alike, but for the name. -/
theorem readLiteral_iff (howner : IsName owner) (hname : IsName name) {d : Declaration} :
    readLiteral name literal = .ok d
      ↔ d.name = name ∧ readLiteral owner literal = .ok { d with name := owner } := by
  rw [Source.readLiteral_of_isName howner, Source.readLiteral_of_isName hname]
  cases Source.readBody literal with
  | error line => simp
  | ok body =>
      obtain ⟨read, kind, properties, line⟩ := d
      simp only [literalDeclaration, Except.ok.injEq, Declaration.mk.injEq, true_and]
      rw [eq_comm (a := name)]

/-- The name of an interface, after any chain of keys, is the name of an interface. With a literal
that is the body of one it is read back as it is, and with it the properties of the body; and every
text is read under it as it is read under the name of the owner. -/
theorem readLiteral_inlineNames (howner : NamesInterface owner) (keys : List Text) :
    let model := keys.foldl inlineName owner
    NamesInterface model
    ∧ (∀ literal properties, IsBody literal properties →
      readLiteral model literal = .ok (literalDeclaration model properties))
    ∧ ∀ literal d, readLiteral model literal = .ok d
      ↔ d.name = model ∧ readLiteral owner literal = .ok { d with name := owner } := by
  intro model
  have hname : IsName owner := namesInterface_iff.1 howner
  have hmodel : IsName model := isName_inlineNames hname keys
  exact ⟨namesInterface_iff.2 hmodel, fun literal properties hbody =>
    hbody.readLiteral_of_isName hmodel, fun literal d => readLiteral_iff hname hmodel⟩

/-- An owner whose name opens with an escape, and keys that open with characters whose capital
forms are two characters. -/
theorem readLiteral_inlineNames_escaped :
    let owner : Text := "\\u0054räger"
    let model : Text := "\\u0054rägerʼNSSe_1"
    NamesInterface owner ∧ ["ŉ", "ße-_1"].foldl inlineName owner = model
    ∧ readLiteral model "\x7b a?: string \x7d"
      = .ok (literalDeclaration model [⟨"a", "string", true⟩]) := by
  intro owner model
  have hescape : Source.IsEscape "\\u0054" :=
    .plain rfl (List.all_eq_true.1 (by decide))
  have hrest : Source.GoesOn "räger" :=
    Source.goesOn_of_forall (List.all_eq_true.1 (by decide))
  have howner : NamesInterface owner := namesInterface_iff.2 (.escape hescape hrest)
  have hmodel : ["ŉ".toList, "ße-_1"].foldl inlineName owner = model := by decide +kernel
  have hbody : IsBody "\x7b a?: string \x7d" [⟨"a", "string", true⟩] := by decide +kernel
  obtain ⟨-, hread, -⟩ := readLiteral_inlineNames howner ["ŉ", "ße-_1"]
  rw [hmodel] at hread
  exact ⟨howner, hmodel, hread _ _ hbody⟩

end TypeShape
