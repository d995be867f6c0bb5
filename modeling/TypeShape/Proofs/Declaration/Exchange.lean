/-
Parsed files come back from their JSON text.

The text itself is the business of `Json.read_render`; what is left is that the loose
data in it is read as the declarations it was made of. The defaults for loose data are
where that could go wrong: an empty type would come back as any type, so a property with
an empty type is ruled out, and so is a line or a kind that no JSON text tells apart.

A line of too many digits is ruled out as well, since it cannot be written
(`dump_longLine`).
-/
import Mathlib.Data.List.Forall2
import TypeShape.Batch.Basic
import TypeShape.Declaration.Exchange
import TypeShape.Proofs.Json.RoundTrip

namespace TypeShape

-- ============================================================ what is written

/-- A declaration as the parser makes them: every property has a type, the kind is a word
and the line a number, if it is known, and of no more digits than can be written. -/
structure Declaration.Plain (d : Declaration) : Prop where
  types : ∀ p ∈ d.properties, p.type ≠ []
  kind : ∃ word, d.kind = .str word
  line : d.line = .null ∨ ∃ n : Int, d.line = .int n ∧ n.natAbs < firstLong

theorem Property.exact_toJson (p : Property) : p.toJson.Exact := by
  have keys : (["name", "type", "is_optional"] : List Text).Nodup := by decide +kernel
  refine .obj keys ?_
  intro entry h
  simp only [List.mem_cons, List.not_mem_nil, or_false] at h
  rcases h with rfl | rfl | rfl
  · exact .str p.name
  · exact .str p.type
  · exact .bool p.isOptional

/-- So the text of a declaration loses nothing of it. -/
theorem Declaration.Plain.exact_toJson {d : Declaration} (h : d.Plain) : d.toJson.Exact := by
  have keys : (["name", "kind", "properties", "line"] : List Text).Nodup := by decide +kernel
  refine .obj keys ?_
  intro entry mem
  simp only [List.mem_cons, List.not_mem_nil, or_false] at mem
  rcases mem with rfl | rfl | rfl | rfl
  · exact .str d.name
  · obtain ⟨word, kind⟩ := h.kind
    show d.kind.Exact
    rw [kind]
    exact .str word
  · refine .arr fun item mem => ?_
    obtain ⟨p, -, rfl⟩ := List.mem_map.1 mem
    exact p.exact_toJson
  · show d.line.Exact
    rcases h.line with line | ⟨n, line, -⟩
    · rw [line]
      exact .null
    · rw [line]
      exact .int n

/-- The line is the only number in a declaration. -/
theorem Declaration.Plain.isWritable_toJson {d : Declaration} (h : d.Plain) :
    d.toJson.isWritable = true := by
  refine Json.haveWritable_iff.2 fun entry mem => ?_
  simp only [List.mem_cons, List.not_mem_nil, or_false] at mem
  rcases mem with rfl | rfl | rfl | rfl
  · rfl
  · obtain ⟨word, kind⟩ := h.kind
    show d.kind.isWritable = true
    rw [kind]
    rfl
  · refine Json.areWritable_iff.2 fun item mem => ?_
    obtain ⟨p, -, rfl⟩ := List.mem_map.1 mem
    rfl
  · show d.line.isWritable = true
    rcases h.line with line | ⟨n, line, short⟩
    · rw [line]
      rfl
    · rw [line]
      exact Json.isWritable_int.2 short

/-- Nor does that of a file. -/
theorem ParsedFile.exact_toJson {f : ParsedFile} (h : ∀ d ∈ f.declarations, d.Plain) :
    f.toJson.Exact := by
  have keys : (["file_path", "declarations"] : List Text).Nodup := by decide +kernel
  refine .obj keys ?_
  intro entry mem
  simp only [List.mem_cons, List.not_mem_nil, or_false] at mem
  rcases mem with rfl | rfl
  · exact .str f.path
  · refine .arr fun item mem => ?_
    obtain ⟨d, here, rfl⟩ := List.mem_map.1 mem
    exact (h d here).exact_toJson

theorem ParsedFile.isWritable_toJson {f : ParsedFile} (h : ∀ d ∈ f.declarations, d.Plain) :
    f.toJson.isWritable = true := by
  refine Json.haveWritable_iff.2 fun entry mem => ?_
  simp only [List.mem_cons, List.not_mem_nil, or_false] at mem
  rcases mem with rfl | rfl
  · rfl
  · refine Json.areWritable_iff.2 fun item mem => ?_
    obtain ⟨d, here, rfl⟩ := List.mem_map.1 mem
    exact (h d here).isWritable_toJson

-- ========================================================== what is read back

/-- A property with a type is read from its own JSON. -/
theorem Property.ofJson_toJson {p : Property} (h : p.type ≠ []) : ofJson p.toJson = .ok p := by
  obtain ⟨c, type, cons⟩ := List.exists_cons_of_ne_nil h
  obtain ⟨name, _, isOptional⟩ := p
  cases cons
  rfl

theorem Declaration.propertiesOfJson_toJson {properties : List Property}
    (h : ∀ p ∈ properties, p.type ≠ []) :
    propertiesOfJson (properties.map Property.toJson) = .ok properties := by
  induction properties with
  | nil => rfl
  | cons p properties ih =>
      rw [List.map_cons, propertiesOfJson, Property.ofJson_toJson (h p (List.mem_cons_self ..)),
        ih fun q mem => h q (List.mem_cons_of_mem _ mem)]
      rfl

/-- A declaration is read from its own JSON: with its name, kind and line, and with its
properties in order. -/
theorem Declaration.ofJson_toJson {d : Declaration} (h : ∀ p ∈ d.properties, p.type ≠ []) :
    ofJson d.toJson = .ok d := by
  obtain ⟨name, kind, properties, line⟩ := d
  cases properties with
  | nil => rfl
  | cons p more =>
      have back := propertiesOfJson_toJson h
      have body : ofEntries name
          [("name", .str name), ("kind", kind),
            ("properties", .arr ((p :: more).map Property.toJson)), ("line", line)]
          = .ok { name, kind, properties := p :: more, line } := by
        show (do
          let properties ← propertiesOfJson ((p :: more).map Property.toJson)
          return Declaration.mk name kind properties line) = _
        rw [back]
        rfl
      show (ofEntries name _).mapError _ = _
      rw [body]
      rfl

/-- A file that was read back has the path and the declarations of the original. -/
theorem BatchFile.contents_toJson {f : ParsedFile}
    (h : ∀ d ∈ f.declarations, ∀ p ∈ d.properties, p.type ≠ []) :
    contents (.loose f.toJson) = contents (.parsed f) := by
  have items : (f.declarations.map Declaration.toJson).map Declaration.ofJson
      = f.declarations.map .ok := by
    rw [List.map_map]
    exact List.map_congr_left fun d mem => Declaration.ofJson_toJson (h d mem)
  show Except.ok (f.path, (f.declarations.map Declaration.toJson).map Declaration.ofJson) = _
  rw [items]
  rfl

-- ================================================================ batches

namespace Batch

variable (read : LiteralReader) (suffix : Text)

/-- Only what is in a file counts, not whether it was parsed or read back. -/
theorem resolveFiles_congr {α : Type} {before after : α → BatchFile} {files : List α}
    (same : ∀ f ∈ files, (before f).contents = (after f).contents) (r : Registry) :
    resolveFiles read suffix r (files.map before) = resolveFiles read suffix r (files.map after) := by
  induction files generalizing r with
  | nil => rfl
  | cons f files ih =>
      have first : resolveFile read suffix r (before f) = resolveFile read suffix r (after f) := by
        unfold resolveFile
        rw [same f (List.mem_cons_self ..)]
      have rest := fun r => ih (fun g mem => same g (List.mem_cons_of_mem _ mem)) r
      rw [List.map_cons, List.map_cons, resolveFiles, resolveFiles, first]
      simp only [rest]

end Batch

namespace Exchange

/-- Parsed files are written as JSON text and read back: every declaration is the
original one, in its file and in its place, and a batch over what was read comes to what
the batch over the original files comes to, or fails as that does. -/
theorem load_dump {files : List ParsedFile}
    (plain : ∀ f ∈ files, ∀ d ∈ f.declarations, d.Plain) :
    ∃ text loaded, dump files = .ok text ∧ load text = .ok loaded
      ∧ List.Forall₂ (fun value f => ∃ entries items, value = .obj entries
          ∧ Json.lookup? entries "file_path" = some (.str f.path)
          ∧ Json.lookup? entries "declarations" = some (.arr items)
          ∧ items.map Declaration.ofJson = f.declarations.map .ok) loaded files
      ∧ ∀ read suffix registry,
          Batch.convert read suffix registry (loaded.map .loose)
            = Batch.convert read suffix registry (files.map .parsed) := by
  have typed : ∀ f ∈ files, ∀ d ∈ f.declarations, ∀ p ∈ d.properties, p.type ≠ [] :=
    fun f hf d hd => (plain f hf d hd).types
  -- the text is read back since no number has a fraction, and is there since none has too many
  -- digits
  have whole : (Json.arr (files.map ParsedFile.toJson)).Exact := by
    refine .arr fun item mem => ?_
    obtain ⟨f, here, rfl⟩ := List.mem_map.1 mem
    exact ParsedFile.exact_toJson (plain f here)
  have writable : (Json.arr (files.map ParsedFile.toJson)).isWritable = true := by
    refine Json.areWritable_iff.2 fun item mem => ?_
    obtain ⟨f, here, rfl⟩ := List.mem_map.1 mem
    exact ParsedFile.isWritable_toJson (plain f here)
  refine ⟨_, files.map ParsedFile.toJson, if_pos writable, ?_, ?_, ?_⟩
  · unfold load
    rw [Json.read_render whole writable]
  · rw [List.forall₂_map_left_iff, List.forall₂_same]
    intro f here
    refine ⟨_, f.declarations.map Declaration.toJson, rfl, rfl, rfl, ?_⟩
    rw [List.map_map]
    exact List.map_congr_left fun d mem => Declaration.ofJson_toJson (typed f here d mem)
  · -- a batch sees of its files only their contents, and these are the same
    intro read suffix registry
    have same : Batch.resolveFiles read suffix registry
        (files.map (BatchFile.loose ∘ ParsedFile.toJson))
          = Batch.resolveFiles read suffix registry (files.map BatchFile.parsed) :=
      Batch.resolveFiles_congr read suffix
        (fun f here => BatchFile.contents_toJson (typed f here)) registry
    unfold Batch.convert
    rw [List.map_map, same]

/-- Quotes, backslashes, control characters and characters of two code units in every
place that holds text. -/
def awkwardFiles : List ParsedFile :=
  [{ path := "a \"b\"\\c\u0001.ts"
     declarations :=
      [{ name := "Ünï𝄞\n"
         kind := Declaration.classKind
         properties :=
          [{ name := "\u0000\u007f", type := "'😀\\'[]", isOptional := true },
           { name := "", type := " ", isOptional := false }]
         line := .int (-40) }] },
   { path := "", declarations := [{ name := "", kind := .str [], properties := [], line := .null }] }]

/-- Both files come back, whatever their texts have in them. -/
theorem load_dump_awkwardFiles :
    (∀ f ∈ awkwardFiles, ∀ d ∈ f.declarations, d.Plain)
      ∧ ∃ text loaded, dump awkwardFiles = .ok text ∧ load text = .ok loaded
        ∧ loaded.length = 2
        ∧ ∀ read suffix registry,
            Batch.convert read suffix registry (loaded.map .loose)
              = Batch.convert read suffix registry (awkwardFiles.map .parsed) := by
  have plain : ∀ f ∈ awkwardFiles, ∀ d ∈ f.declarations, d.Plain := by
    intro f here d mem
    simp only [awkwardFiles, List.mem_cons, List.not_mem_nil, or_false] at here
    rcases here with rfl | rfl
    · cases List.mem_singleton.1 mem
      refine ⟨?_, ⟨_, rfl⟩, .inr ⟨-40, rfl, by decide +kernel⟩⟩
      intro p mem
      simp only [List.mem_cons, List.not_mem_nil, or_false] at mem
      rcases mem with rfl | rfl
      · exact (by decide +kernel)
      · exact (by decide +kernel)
    · cases List.mem_singleton.1 mem
      exact ⟨fun _ h => (nomatch h), ⟨_, rfl⟩, .inl rfl⟩
  obtain ⟨text, loaded, written, ok, each, same⟩ := load_dump plain
  exact ⟨plain, text, loaded, written, ok, each.length_eq, same⟩

/-- An empty interface with a line of one digit too many. -/
def longLineFiles : List ParsedFile :=
  [{ path := "a.ts"
     declarations :=
      [{ name := "A", kind := Declaration.interfaceKind, properties := []
         line := .int (.ofNat firstLong) }] }]

/-- Its types are not empty, its kind is a word and its line a number, and yet it cannot be
written. -/
theorem dump_longLine :
    (∀ f ∈ longLineFiles, ∀ d ∈ f.declarations, (∀ p ∈ d.properties, p.type ≠ [])
        ∧ (∃ word, d.kind = .str word) ∧ ∃ n : Int, d.line = .int n)
      ∧ dump longLineFiles = .error .written
      ∧ ¬ ∃ text loaded, dump longLineFiles = .ok text ∧ load text = .ok loaded := by
  have long : (Json.arr (longLineFiles.map ParsedFile.toJson)).isWritable = false := by
    decide +kernel
  have failed : dump longLineFiles = .error .written := by
    unfold dump Json.write
    rw [long]
    rfl
  refine ⟨?_, failed, ?_⟩
  · intro f here d mem
    obtain rfl := List.mem_singleton.1 here
    obtain rfl := List.mem_singleton.1 mem
    exact ⟨fun p none => (nomatch none), ⟨_, rfl⟩, ⟨_, rfl⟩⟩
  · rintro ⟨text, loaded, written, -⟩
    rw [failed] at written
    cases written

end Exchange

end TypeShape
