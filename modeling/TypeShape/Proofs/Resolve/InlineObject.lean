/-
Inline objects that are bodies of interfaces.

An inline object is read twice. The scan for its brace says how far it goes, and the parser
reads it as the body of an interface with a made-up name. The two agree on its end where all of
its braces stand in code (`splitObject?_of_isBody`), but the scan also counts the braces in
quotes and in comments. And the made-up name is harmless as long as it is a word: then the
members of the object are those of the literal, and another name changes the names of models and
nothing else (`run_inlineObject`). A name that is none can end an interface of its own before the
literal begins.
-/
import TypeShape.Declaration.Loose
import TypeShape.Proofs.Queue.Together
import TypeShape.Proofs.Resolve.Depth
import TypeShape.Proofs.Schema.Unnamed
import TypeShape.Proofs.Source.Literal
import TypeShape.Proofs.Source.Walk.Braces
import TypeShape.Proofs.Source.Word
import TypeShape.Proofs.TypeText.Split

namespace TypeShape

open Source (IsBody exposed isWord readLiteral)

variable {literal t : Text} {properties : List Property}

-- =================================================== where a body ends

namespace Source.IsBody

/-- A body of an interface that ends with a brace, and whose braces all stand in code, is one
inline object. -/
theorem objectText (h : IsBody literal properties) (hopen : literal.head? = some '{')
    (hclose : literal.getLast? = some '}') (hexposed : exposed .code literal = true) :
    ObjectText literal := by
  cases literal with
  | nil => cases hopen
  | cons d text =>
      cases hopen
      obtain ⟨c, hmembers, hend⟩ := h
      obtain ⟨p, hp, htext⟩ := exposed_cons hexposed
      cases hp
      have hahead : ahead ('{' :: text) = '{' :: text := ahead_cons rfl (by decide) text
      have hstands : (Cursor.start false ('{' :: text)).Stands ('{' :: text) := ⟨rfl, rfl⟩
      have hskip : (Cursor.start false ('{' :: text)).skip.rest = '{' :: text := by
        rw [hstands.skip]
        exact hahead
      have hstep := inStep_of_typeMembers hskip rfl htext hmembers
      obtain ⟨inside, hscan⟩ := hstep.scanned
      have happend := closeBraces?_append hscan
      -- what is left is skipped, and so is free of braces, but the text ends with one
      have hnil : c.rest = [] := by
        obtain ⟨n, hrest, hpasses, -⟩ := skips_of_exposed hstep.exposed
        have hall : c.rest.take n = c.rest :=
          List.take_of_length_le (List.drop_eq_nil_iff.1 (hrest.symm.trans hend))
        have hbraceless : Braceless c.rest := hall ▸ hpasses.taken
        by_contra hne
        have hlast : ('{' :: text).getLast? = c.rest.getLast? := by
          rw [← happend, ← List.cons_append, List.getLast?_append_of_ne_nil _ hne]
        rw [hlast] at hclose
        exact absurd (hbraceless '}' (List.mem_of_getLast? hclose)) (by decide)
      rw [hnil, List.append_nil] at happend
      rw [hnil, happend] at hscan
      exact .of_closeBraces? hscan

end Source.IsBody

-- ============================================================= members

namespace Sequential

variable {resolve resolve' : Property → Traced Schema}

/-- Where no property tells names of models apart, neither do their fields. -/
theorem unnamed_fieldsBy (properties : List Property)
    (h : ∀ p, Schema.unnamed <$> resolve p = Schema.unnamed <$> resolve' p) :
    List.map Schema.unnamedField <$> fieldsBy resolve properties
      = List.map Schema.unnamedField <$> fieldsBy resolve' properties := by
  induction properties with
  | nil => rfl
  | cons p rest ih =>
      unfold fieldsBy
      refine Traced.map_bind_congr (h p) fun s s' hs => ?_
      refine Traced.map_bind_congr ih fun others others' hothers => ?_
      rw [map_pure, map_pure, List.map_cons, List.map_cons, hothers]
      simp only [Schema.unnamedField, hs]

end Sequential

-- ================================================================ names

namespace Sequential

variable {r : Registry} {name name' : Text}

/-- A type is resolved alike under all words, but for the names of models. -/
theorem unnamed_ofType (hblind : r.Blind) (depth : Nat) (hname : isWord name = true)
    (hname' : isWord name' = true) (t : Text) :
    Schema.unnamed <$> ofType readLiteral r depth name t
      = Schema.unnamed <$> ofType readLiteral r depth name' t := by
  induction depth generalizing name name' t with
  | zero => rfl
  | succ depth ih =>
      unfold ofType
      dsimp only
      cases Plan.inlineObject? (Text.trim t) with
      | none => rfl
      | some found =>
          obtain ⟨object, modifiers⟩ := found
          dsimp only
          obtain ⟨lists, literal⟩ := unwrapLists object.length object
          dsimp only
          rw [Source.readLiteral_eq hname, Source.readLiteral_eq hname']
          cases Source.readBody literal with
          | error line => rfl
          | ok body =>
              obtain ⟨properties, others⟩ := body
              dsimp only
              rw [Traced.bind_of_ok (a := Source.literalDeclaration name properties) _ rfl,
                Traced.bind_of_ok (a := Source.literalDeclaration name' properties) _ rfl,
                Traced.map_after, Traced.map_after]
              refine congrArg (Traced.after _) ?_
              -- the properties are named after the word, so the induction is over all words
              have hfields := unnamed_fieldsBy properties fun p =>
                ih (isWord_inlineName hname p.name) (isWord_inlineName hname' p.name) p.type
              refine Traced.map_bind_congr hfields fun fields fields' heq => ?_
              refine hblind.applyModifiers modifiers ?_
              rw [Schema.unnamed_nested, Schema.unnamed_nested, Schema.unnamed_modelOf,
                Schema.unnamed_modelOf, heq]

end Sequential

namespace Plan

variable {r : Registry} {name name' : Text}

/-- Working together gives what working in order gives, if it gives anything. -/
theorem toOption_result_run {plan : Plan} (h : plan.Waits) :
    plan.run.result.toOption = plan.inOrder.result.toOption := by
  obtain ⟨result, houtcome, hagrees⟩ := outcome_run h
  rw [result_of_outcome houtcome, hagrees]

/-- The result of a type is that of the plain recursion. -/
theorem result_run_ofPropertyType {s : Schema} :
    (ofPropertyType readLiteral r name t).run.result = .ok s
      ↔ (Sequential.typeOf r readLiteral name t).result = .ok s := by
  unfold ofPropertyType Sequential.typeOf
  rw [result_run (waits_ofType readLiteral r _ name t), inOrder_ofType]

/-- A type comes to one shape under all words, or fails under all of them. -/
theorem unnamed_run_ofPropertyType (hblind : r.Blind) (hname : isWord name = true)
    (hname' : isWord name' = true) (t : Text) :
    (ofPropertyType readLiteral r name t).run.result.toOption.map Schema.unnamed
      = (ofPropertyType readLiteral r name' t).run.result.toOption.map Schema.unnamed := by
  -- one depth that is great enough under both names
  let depth := depthFor name t + depthFor name' t
  have hdeep (model : Text) (h : depthFor model t ≤ depth) :
      (ofPropertyType readLiteral r model t).run.result.toOption.map Schema.unnamed
        = (Schema.unnamed <$> Sequential.ofType readLiteral r depth model t).result.toOption := by
    have hbraces := Sequential.braces_lt_depthFor model t
    unfold ofPropertyType
    rw [toOption_result_run (waits_ofType ..), inOrder_ofType, Traced.result_map,
      Sequential.ofType_depth r readLiteral_shrinks hbraces (Nat.lt_of_lt_of_le hbraces h)]
    cases (Sequential.ofType readLiteral r depth model t).result <;> rfl
  rw [hdeep name (Nat.le_add_right ..), hdeep name' (Nat.le_add_left ..),
    Sequential.unnamed_ofType hblind depth hname hname']

-- ============================================================== members

/-- What the members of an inline object come to, each by itself. -/
def Members (r : Registry) (model : Text) (properties : List Property) (schemas : List Schema) :
    Prop :=
  List.Forall₂ (fun p s =>
    (ofPropertyType readLiteral r (inlineName model p.name) p.type).run.result = .ok s)
    properties schemas

/-- An inline object comes to the model of the members that are read, or fails with one of them. -/
theorem result_run_objectText (htrim : Text.trim t = literal) (hobject : ObjectText literal)
    {d : Declaration} (hread : readLiteral name literal = .ok d) {s : Schema} :
    (ofPropertyType readLiteral r name t).run.result = .ok s
      ↔ ∃ schemas, Members r d.name d.properties schemas
        ∧ s = .modelOf d.name (fields d.properties schemas) := by
  have hinline : inlineObject? literal = some (literal, []) := by
    have h := hobject.inlineObject? 0
    rwa [TypeText.suffixes, List.append_nil] at h
  have hlists : unwrapLists literal.length literal = (0, literal) := by
    have hlength := hobject.lt_length 0
    have h := hobject.unwrapLists hlength
    rwa [TypeText.suffixes, List.append_nil] at h
  unfold Members
  simp only [result_run_ofPropertyType]
  rw [Sequential.typeOf_eq r readLiteral_shrinks, htrim, hinline]
  dsimp only
  rw [hlists]
  dsimp only
  rw [hread, Traced.bind_of_ok (a := d) _ rfl, Traced.result_after]
  exact Sequential.modelOf_fieldsBy_eq_ok_iff

/-- Under a word these are the members of the literal. -/
theorem result_run_isBody (hname : isWord name = true) (htrim : Text.trim t = literal)
    (hobject : ObjectText literal) (hbody : IsBody literal properties) {s : Schema} :
    (ofPropertyType readLiteral r name t).run.result = .ok s
      ↔ ∃ schemas, Members r name properties schemas
        ∧ s = .modelOf name (fields properties schemas) :=
  result_run_objectText htrim hobject (hbody.readLiteral hname)

-- ======================================================= inline objects

/-- A literal that the parser takes for the body of an interface is split off as a whole, and is
resolved member by member, if all of its braces stand in code. -/
theorem splitObject?_of_isBody (hbody : IsBody literal properties)
    (hopen : literal.head? = some '{') (hclose : literal.getLast? = some '}')
    (hexposed : exposed .code literal = true) :
    (∀ name path, isWord name = true → Source.markupSuffix.isSuffixOf path = false →
      Source.parseText (Source.literalText name literal) path
        = .ok ⟨path, [Source.literalDeclaration name properties]⟩)
    ∧ TypeText.splitObject? literal = some (literal, [])
    ∧ ∀ r name s, isWord name = true →
      ((ofPropertyType readLiteral r name literal).run.result = .ok s
        ↔ ∃ schemas, Members r name properties schemas
          ∧ s = .modelOf name (fields properties schemas)) := by
  have hobject := hbody.objectText hopen hclose hexposed
  refine ⟨fun name path hname hpath => hbody.parseText hname hpath, ?_, fun r name s hname => ?_⟩
  · have h := hobject.splitObject? 0
    rwa [TypeText.suffixes, List.append_nil] at h
  · exact result_run_isBody hname (trim_solid hobject.solid) hobject hbody

/-- An object in an object, with a comment, a quoted key and a function. -/
theorem splitObject?_of_isBody_nested :
    let literal : Text :=
      "\x7b at: \x7b x: number \x7d; /* metres */ 'on-change'?: () => void \x7d"
    TypeText.splitObject? literal = some (literal, [])
    ∧ (ofPropertyType readLiteral .empty "Line" literal).run.result
      = .ok (.model "Line" [⟨"at", true, .model "LineAt" [⟨"x", true, .number {}⟩]⟩,
        ⟨"on-change", false, .any⟩]) := by
  intro literal
  let inner : Text := "\x7b x: number \x7d"
  have hinner : IsBody inner [⟨"x", "number", false⟩] := by decide +kernel
  have hliteral : IsBody literal
      [⟨"at", inner, false⟩, ⟨"on-change", "() => void", true⟩] := by decide +kernel
  obtain ⟨-, -, hat⟩ := splitObject?_of_isBody hinner rfl rfl (by decide +kernel)
  obtain ⟨-, hsplit, hline⟩ := splitObject?_of_isBody hliteral rfl rfl (by decide +kernel)
  have hmember := (hat .empty "LineAt" _ (by decide)).2 ⟨[.number {}], .cons rfl .nil, rfl⟩
  exact ⟨hsplit, (hline .empty "Line" _ (by decide)).2
    ⟨[_, .any], .cons hmember (.cons rfl .nil), rfl⟩⟩

/-- A brace in a quoted key: the object is cut off there. -/
theorem splitObject?_of_isBody_quoted :
    let literal : Text := "\x7b \"\x7d\": string \x7d"
    IsBody literal [⟨"\x7d", "string", false⟩]
    ∧ TypeText.splitObject? literal
      = some ("\x7b \"\x7d".toList, "\": string \x7d".toList) := by
  decide +kernel

/-- A property whose type is one inline object, under an owner whose name is a word: it comes to
the model of the members of the literal or fails with one of them, and another name and another
key change no more than names of models. -/
theorem run_inlineObject (r : Registry) (d : Declaration) (p : Property)
    (hname : isWord d.name = true) (htrim : Text.trim p.type = literal)
    (hobject : ObjectText literal) (hbody : IsBody literal properties) :
    let result (name key : Text) :=
      (ofPropertyType readLiteral r (inlineName name key) p.type).run.result
    (∀ s, result d.name p.name = .ok s ↔ ∃ schemas,
      Members r (inlineName d.name p.name) properties schemas
        ∧ s = .modelOf (inlineName d.name p.name) (fields properties schemas))
    ∧ (r.Blind → ∀ name key, isWord name = true →
      (result name key).toOption.map Schema.unnamed
        = (result d.name p.name).toOption.map Schema.unnamed) := by
  intro result
  have hmodel := isWord_inlineName hname p.name
  refine ⟨fun s => result_run_isBody hmodel htrim hobject hbody, fun hblind name key hother => ?_⟩
  exact unnamed_run_ofPropertyType hblind (isWord_inlineName hother key) hmodel p.type

/-- A declaration from JSON whose property has a limit in its object. -/
theorem run_inlineObject_order :
    let item : Json := .obj [("name", .str "Order"), ("properties", .arr [.obj
      [("name", .str "line-item"), ("type", .str " \x7b sku: string & MaxLength<8> \x7d ")]])]
    let r : Registry :=
      { types := [], modifiers := [("MaxLength<>", Modifier.mostLength)], interfaces := [] }
    let fields : List (Field Schema) := [⟨"sku", true, .string ⟨none, some 8⟩⟩]
    ∃ d p, Declaration.ofJson item = .ok d ∧ d.properties = [p]
      ∧ (ofPropertyType readLiteral r (inlineName d.name p.name) p.type).run.result
        = .ok (.model "OrderLineitem" fields)
      ∧ ∀ name key, isWord name = true →
        (ofPropertyType readLiteral r (inlineName name key) p.type).run.result.toOption.map
          Schema.unnamed = some (.model [] fields) := by
  intro item r fields
  let p : Property := ⟨"line-item", " \x7b sku: string & MaxLength<8> \x7d ", false⟩
  let d : Declaration := ⟨"Order", .str "interface", [p], .null⟩
  let literal : Text := "\x7b sku: string & MaxLength<8> \x7d"
  have hblind : r.Blind :=
    List.forall_mem_singleton.2 (Modifier.Blind.stock [] _ (List.mem_cons_self ..))
  have htrim : Text.trim " \x7b sku: string & MaxLength<8> \x7d " = literal := by decide
  have hobject : ObjectText literal := ⟨rfl, by decide, by decide⟩
  have hbody : IsBody literal [⟨"sku", "string & MaxLength<8>", false⟩] := by decide +kernel
  obtain ⟨hresult, hnames⟩ := run_inlineObject r d p (by decide) htrim hobject hbody
  have hmodel := (hresult (.model "OrderLineitem" fields)).2
    ⟨[.string ⟨none, some 8⟩], .cons rfl .nil, rfl⟩
  refine ⟨d, p, rfl, rfl, hmodel, fun name key hname => ?_⟩
  rw [hnames hblind name key hname, hmodel]
  rfl

/-- The name of a declaration from JSON ends an interface of its own, and the property gets the
members of that one. -/
theorem run_inlineObject_injected :
    let item : Json := .obj [("name", .str "X \x7b evil: string \x7d interface Y"),
      ("properties", .arr [.obj [("name", .str "p"), ("type", .str "\x7b a: number \x7d")]])]
    ∃ d p, Declaration.ofJson item = .ok d ∧ d.properties = [p]
      ∧ ObjectText p.type ∧ IsBody p.type [⟨"a", "number", false⟩]
      ∧ (ofPropertyType readLiteral .empty (inlineName d.name p.name) p.type).run.result
        = .ok (.model "X" [⟨"evil", true, .string {}⟩]) := by
  intro item
  let literal : Text := "\x7b a: number \x7d"
  let p : Property := ⟨"p", literal, false⟩
  let d : Declaration := ⟨"X \x7b evil: string \x7d interface Y", .str "interface", [p], .null⟩
  have hobject : ObjectText literal := ⟨rfl, by decide, by decide⟩
  have hbody : IsBody literal [⟨"a", "number", false⟩] := by decide +kernel
  have hmodel : inlineName d.name p.name = "X \x7b evil: string \x7d interface YP" := by decide
  have hread : (readLiteral "X \x7b evil: string \x7d interface YP" literal).toOption.map
      (fun read => (read.name, read.properties))
        = some ("X".toList, [⟨"evil", "string", false⟩]) := by
    decide +kernel
  obtain ⟨read, hread, heq⟩ := Option.map_eq_some_iff.1 hread
  obtain ⟨hname, hproperties⟩ := Prod.mk.inj heq
  refine ⟨d, p, rfl, rfl, hobject, hbody, ?_⟩
  rw [hmodel, result_run_objectText (trim_solid hobject.solid) hobject
    (toOption_eq_some_iff.1 hread), hname, hproperties]
  exact ⟨[.string {}], .cons rfl .nil, rfl⟩

end Plan

end TypeShape
