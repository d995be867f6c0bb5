/-
Calls of the tools that give a text for the patterns.

The text may be the JSON text of a list, and then its items are handed on as they are; any other
text is a pattern itself. So conversion never fails, and what it leaves to the tool is of the
declared kind unless an item is no text (`handed`, `Patterns`). Such an item, or a null character
in a directory that is looked up, ends the call with a fault of its own, and so does a number of
too many digits, be it the line of a declaration that is to be written or in the declarations that
are given. Every other fault comes from generation, and the tool reports it as its own
(`Task.call_text`).
-/
import TypeShape.Generate
import TypeShape.Proofs.Batch.Generation
import TypeShape.Proofs.Files.Discovery
import TypeShape.Proofs.Json.RoundTrip
import TypeShape.Proofs.Parameter.Choice

namespace TypeShape

-- =============================================================== binding

namespace Parameter

/-- The value that a parameter was bound to, by its name. -/
def value? (bound : List (Parameter × Json)) (name : Text) : Option Json :=
  Json.lookup? (bound.map fun (p, v) => (p.name, v)) name

/-- All parameters are bound, in their order. -/
theorem map_fst_bindAll {named : List (Text × Json)} {parameters : List Parameter}
    {left : List Json} {bound : List (Parameter × Json)}
    (h : bindAll named parameters left = some bound) : bound.map (·.1) = parameters := by
  induction parameters generalizing left bound with
  | nil =>
      cases left with
      | nil =>
          cases h
          rfl
      | cons v left => cases h
  | cons p parameters ih =>
      obtain ⟨⟨v, left'⟩, -, h⟩ := Option.bind_eq_some_iff.1 h
      obtain ⟨rest, hrest, h⟩ := Option.bind_eq_some_iff.1 h
      cases h
      rw [List.map_cons, ih hrest]

/-- A call binds one value to each parameter. -/
theorem exists_values {parameters : List Parameter} {a : Arguments}
    {bound : List (Parameter × Json)} (h : bind? parameters a = some bound) :
    ∃ values, values.length = parameters.length ∧ bound = parameters.zip values := by
  have hparameters : bound.map (·.1) = parameters := by
    unfold bind? at h
    split at h
    case isTrue => exact map_fst_bindAll h
    case isFalse => cases h
  refine ⟨bound.map (·.2), ?_, ?_⟩
  · rw [← hparameters, List.length_map, List.length_map]
  · rw [← hparameters, List.zip_map']
    exact (List.map_id bound).symm

end Parameter

-- ================================================================ values

namespace Discovery

/-- The value that a text for patterns is handed on as: the list that it is read as, or itself. -/
def handed (t : Text) : Json :=
  match Json.read t with
  | .ok (.arr items) => .arr items
  | _ => .str t

/-- The items of such a value. -/
def items (t : Text) : List Json :=
  match Json.read t with
  | .ok (.arr items) => items
  | _ => [.str t]

/-- Patterns as they are declared: a text, or a list of texts. -/
inductive Patterns : Json → Prop
  | one (t : Text) : Patterns (.str t)
  | several (ts : List Text) : Patterns (.arr (ts.map .str))

theorem itemsOfJson_handed (t : Text) : itemsOfJson (handed t) = .ok (items t) := by
  unfold handed items
  split
  case h_1 => rfl
  case h_2 => rfl

/-- A list as JSON text is handed on as that list. -/
theorem handed_render {values : List Json} (exact : Json.Exact (.arr values))
    (writable : (Json.arr values).isWritable = true) :
    handed (Json.render (.arr values)) = .arr values
      ∧ items (Json.render (.arr values)) = values := by
  unfold handed items
  rw [Json.read_render exact writable]
  exact ⟨rfl, rfl⟩

theorem exists_map_str {items : List Json} (h : ∀ item ∈ items, ∃ s, item = .str s) :
    ∃ ts : List Text, items = ts.map .str := by
  induction items with
  | nil => exact ⟨[], rfl⟩
  | cons item items ih =>
      obtain ⟨⟨s, rfl⟩, hitems⟩ := List.forall_mem_cons.1 h
      obtain ⟨ts, rfl⟩ := ih hitems
      exact ⟨s :: ts, rfl⟩

/-- What is handed on is of the declared kind unless an item is no text. -/
theorem patterns_handed_iff (t : Text) :
    Patterns (handed t) ↔ ∀ item ∈ items t, ∃ s, item = .str s := by
  unfold handed items
  split
  case h_1 items _ =>
    constructor
    · intro h item hitem
      cases h with
      | several ts =>
          obtain ⟨s, -, rfl⟩ := List.mem_map.1 hitem
          exact ⟨s, rfl⟩
    · intro h
      obtain ⟨ts, rfl⟩ := exists_map_str h
      exact .several ts
  case h_2 =>
    constructor
    · intro _ item hitem
      exact ⟨t, List.mem_singleton.1 hitem⟩
    · intro _
      exact .one t

/-- A text whose groups stand for patterns with leading directories that can be looked up. -/
def Usable (item : Json) : Prop :=
  ∃ pattern, item = .str pattern ∧ ∀ e ∈ Brace.expand pattern, Clean (leading e)

/-- What is no text is no pattern. -/
theorem patternOfJson_of_noText {item : Json} (h : ∀ s, item ≠ .str s) :
    patternOfJson item = .error .notPattern := by
  unfold patternOfJson
  split
  case h_1 s => exact absurd rfl (h s)
  case h_2 => rfl

theorem usable_of_patternOfJson {item : Json} {pattern : Text}
    (h : patternOfJson item = .ok pattern) : Usable item := by
  by_cases htext : ∃ s, item = .str s
  · obtain ⟨s, rfl⟩ := htext
    rw [patternOfJson_str] at h
    split at h
    case isTrue hclean => exact ⟨s, rfl, hclean⟩
    case isFalse => cases h
  · rw [patternOfJson_of_noText (not_exists.1 htext)] at h
    cases h

/-- An item is refused for one of two reasons. -/
theorem patternOfJson_eq_error {item : Json} {e : Fault} (h : patternOfJson item = .error e) :
    e = .notPattern ∨ e = .nullCharacter := by
  by_cases htext : ∃ s, item = .str s
  · obtain ⟨s, rfl⟩ := htext
    rw [patternOfJson_str] at h
    split at h
    case isTrue => cases h
    case isFalse =>
      cases h
      exact .inr rfl
  · rw [patternOfJson_of_noText (not_exists.1 htext)] at h
    cases h
    exact .inl rfl

/-- Everything that is looked up for a text can be: the root, and what its items name. -/
structure Ready (root t : Text) : Prop where
  root : Clean (Path.parts root)
  usable : ∀ item ∈ items t, Usable item

theorem select_handed (tree : FileTree) (root t : Text) :
    select tree root (handed t) = (lookUp (Path.parts root) >>= fun _ =>
      (items t).mapM patternOfJson >>= fun patterns => files tree root patterns) := by
  unfold select
  rw [itemsOfJson_handed]
  rfl

/-- Once everything could be looked up, only that there are no files is a fault. -/
theorem select_of_ready {tree : FileTree} {root t : Text} (ready : Ready root t) {e : Fault}
    (failed : select tree root (handed t) = .error e) : ∃ patterns, e = .noFiles patterns := by
  have htexts : ∀ item ∈ items t, ∃ s, item = .str s := by
    intro item hitem
    obtain ⟨s, hs, -⟩ := ready.usable item hitem
    exact ⟨s, hs⟩
  obtain ⟨patterns, hpatterns⟩ := exists_map_str htexts
  have hclean : ∀ e ∈ expanded patterns, Clean (leading e) := by
    intro e he
    obtain ⟨pattern, hpattern, he⟩ := List.mem_flatMap.1 he
    obtain ⟨s, hs, hclean⟩ :=
      ready.usable (.str pattern) (hpatterns ▸ List.mem_map_of_mem hpattern)
    cases hs
    exact hclean e he
  rw [select_handed, lookUp_eq, if_pos ready.root, hpatterns, mapM_patternOfJson_str,
    if_pos hclean] at failed
  replace failed : files tree root patterns = .error e := failed
  unfold files at failed
  dsimp only at failed
  split at failed
  case isTrue =>
    cases failed
    exact ⟨patterns, rfl⟩
  case isFalse => cases failed

/-- What cannot be looked up, or is no text, is a fault of its own. -/
theorem select_of_not_ready (tree : FileTree) {root t : Text} (unready : ¬ Ready root t) :
    select tree root (handed t) = .error .notPattern
      ∨ select tree root (handed t) = .error .nullCharacter := by
  rw [select_handed, lookUp_eq]
  by_cases hroot : Clean (Path.parts root)
  · rw [if_pos hroot]
    cases hitems : (items t).mapM patternOfJson with
    | error e =>
        obtain ⟨item, -, hitem⟩ := exists_of_mapM_eq_error hitems
        rcases patternOfJson_eq_error hitem with rfl | rfl
        · exact .inl rfl
        · exact .inr rfl
    | ok patterns =>
        refine absurd ⟨hroot, fun item hmem => ?_⟩ unready
        obtain ⟨pattern, hpattern⟩ := exists_of_mapM_eq_ok hitems item hmem
        exact usable_of_patternOfJson hpattern
  · rw [if_neg hroot]
    exact .inr rfl

end Discovery

-- ================================================================= tools

/-- The ends that a tool's task is documented with: an answer, or a failure of the task for a
fault of generation. -/
inductive Task.Reports (task : Task) : Except Fault Workspace.Answer → Prop
  | answer (a : Workspace.Answer) : Reports task (.ok a)
  | failed {cause : Fault} (h : cause.isGeneration = true) :
      Reports task (.error (.failed task cause))

namespace Workspace

variable {w : Workspace} {t : Text}

/-- Files that cannot be read are a fault of generation. -/
theorem load_generation {paths : List Text} {e : Fault}
    (failed : w.files.load w.config.sizeLimit paths = .error e) : e.isGeneration = true := by
  obtain ⟨path, -, hpath⟩ := exists_of_mapM_eq_error failed
  cases hparse : w.files.parse w.config.sizeLimit path with
  | ok f =>
      rw [hparse] at hpath
      cases hpath
  | error why =>
      rw [hparse] at hpath
      cases hpath
      rfl

/-- Once everything could be looked up, files are selected and parsed or it fails in
generation. -/
theorem parsed_generation (ready : Discovery.Ready w.config.root t) {e : Fault}
    (failed : w.parsed (Discovery.handed t) = .error e) : e.isGeneration = true := by
  unfold parsed at failed
  rcases bind_eq_error failed with failed | ⟨paths, -, failed⟩
  · obtain ⟨patterns, rfl⟩ := Discovery.select_of_ready ready failed
    rfl
  · rcases bind_eq_error failed with failed | ⟨files, -, failed⟩
    · exact load_generation failed
    · cases failed

/-- What cannot be looked up is no fault of generation. -/
theorem parsed_of_not_ready (unready : ¬ Discovery.Ready w.config.root t) :
    ∃ e, w.parsed (Discovery.handed t) = .error e ∧ (e = .notPattern ∨ e = .nullCharacter) := by
  unfold parsed
  rcases Discovery.select_of_not_ready w.files unready with h | h
  · rw [h]
    exact ⟨_, rfl, .inl rfl⟩
  · rw [h]
    exact ⟨_, rfl, .inr rfl⟩

/-- A fault of generation is reported as that of the task. -/
theorem reports_of_generation {α : Type} {task : Task} {e : Fault} (he : e.isGeneration = true)
    (f : α → Except Fault Answer) : task.Reports (during task (.error e) >>= f) := by
  have hduring : during task (.error e : Except Fault α) = .error (.failed task e) := by
    show Except.error (if e.isGeneration then Fault.failed task e else e) = _
    rw [if_pos he]
  rw [hduring]
  exact .failed he

/-- A task whose faults are those of generation ends as it is documented. -/
theorem reports_during {α : Type} {task : Task} {x : Except Fault α}
    (hx : ∀ e, x = .error e → e.isGeneration = true) {f : α → Except Fault Answer}
    (hf : ∀ a, ∃ answer, f a = .ok answer) : task.Reports (during task x >>= f) := by
  cases x with
  | ok a =>
      obtain ⟨answer, hanswer⟩ := hf a
      show task.Reports (f a)
      rw [hanswer]
      exact .answer answer
  | error e => exact reports_of_generation (hx e rfl) f

theorem during_of_other {α : Type} {task : Task} {e : Fault}
    (he : e = .notPattern ∨ e = .nullCharacter) :
    during task (.error e : Except Fault α) = .error e := by
  rcases he with rfl | rfl
  · rfl
  · rfl

/-- An export ends since the line of a declaration that was found cannot be written. -/
def EndsLong (w : Workspace) (t : Text) (task : Task) (outcome : Except Fault Answer) : Prop :=
  task = .exporting ∧ ∃ paths files number, w.parsed (Discovery.handed t) = .ok (paths, files)
    ∧ Exchange.dump files = .error number ∧ outcome = .error (.longNumber number)

/-- How a task ends that looks up what a text names: if everything could be looked up, as it is
documented or at a line of too many digits, and else with a fault that is not of generation. -/
structure Ends (w : Workspace) (t : Text) (task : Task) (outcome : Except Fault Answer) : Prop where
  ready : Discovery.Ready w.config.root t → task.Reports outcome ∨ EndsLong w t task outcome
  unready : ¬ Discovery.Ready w.config.root t →
    outcome = .error .notPattern ∨ outcome = .error .nullCharacter

/-- What cannot be looked up ends a task, whatever it would go on with. -/
theorem ends_during_of_not_ready {α : Type} {task : Task} {x : Except Fault α}
    (failed : ∃ e, x = .error e ∧ (e = .notPattern ∨ e = .nullCharacter))
    (f : α → Except Fault Answer) :
    (during task x >>= f) = .error .notPattern ∨ (during task x >>= f) = .error .nullCharacter := by
  obtain ⟨e, rfl, he⟩ := failed
  rw [during_of_other he]
  rcases he with rfl | rfl
  · exact .inl rfl
  · exact .inr rfl

/-- The export ends in one of the ways that are told. -/
theorem exportTool_ends : Ends w t .exporting (w.exportTool (Discovery.handed t)) := by
  refine ⟨fun ready => ?_, fun unready =>
    ends_during_of_not_ready (parsed_of_not_ready unready) _⟩
  cases hparsed : w.parsed (Discovery.handed t) with
  | error e =>
      refine .inl ?_
      unfold exportTool
      rw [hparsed]
      exact reports_of_generation (parsed_generation ready hparsed) _
  | ok found =>
      obtain ⟨paths, files⟩ := found
      have htool : w.exportTool (Discovery.handed t)
          = (Exchange.dump files).mapError .longNumber >>= fun text =>
            .ok (.declarations text paths (files.map fun f => f.declarations.length).sum) := by
        unfold exportTool
        rw [hparsed]
        rfl
      rw [htool]
      cases hdump : Exchange.dump files with
      | ok text => exact .inl (.answer _)
      | error number => exact .inr ⟨rfl, paths, files, number, hparsed, hdump, rfl⟩

theorem convert_generation {files : List BatchFile} {e : Fault}
    (failed : (w.convert .empty files).result = .error e) : e.isGeneration = true :=
  Batch.convert_generation Source.reports_readLiteral .empty failed

theorem generateTool_handed (declarations : Json) :
    w.generateTool (Discovery.handed t) declarations
      = during .generating (w.source (Discovery.handed t) declarations) >>= fun o =>
          .ok (.documents (o.validators.map fun (key, schema) => (key, schema.document))) := by
  unfold Discovery.handed
  split
  case h_1 => rfl
  case h_2 => rfl

/-- Declarations that are given are read, or fail in generation or at a number of too many
digits. -/
theorem load_generation_or {u : Text} (paired : Json.Paired u) {e : Fault}
    (failed : Exchange.load u = .error e) : e.isGeneration = true
      ∨ ∃ number, Json.read u = .error (.longNumber number) ∧ e = .longNumber number := by
  unfold Exchange.load at failed
  split at failed
  case h_1 => cases failed
  case h_2 =>
    cases failed
    exact .inl rfl
  case h_3 =>
    cases failed
    exact .inl rfl
  case h_4 number hread =>
    cases failed
    exact .inr ⟨number, hread, rfl⟩
  case h_5 hread => exact absurd hread paired

/-- Given declarations are read in place of files. -/
theorem generateTool_given {u : Text} (paired : Json.Paired u) :
    Task.Reports .generating (w.generateTool (Discovery.handed t) (.str u))
      ∨ ∃ number, Json.read u = .error (.longNumber number)
        ∧ w.generateTool (Discovery.handed t) (.str u) = .error (.longNumber number) := by
  rw [generateTool_handed]
  have hsource : w.source (Discovery.handed t) (.str u)
      = (Traced.ofResult (Exchange.load u) >>= fun files =>
          w.convert .empty (files.map .loose)).result := rfl
  rw [hsource]
  cases hload : Exchange.load u with
  | ok files =>
      refine .inl (reports_during (fun e failed => ?_) fun o => ⟨_, rfl⟩)
      rcases Traced.result_bind_eq_error_iff.1 failed with failed | ⟨files, -, failed⟩
      · cases failed
      · exact convert_generation failed
  | error e =>
      rcases load_generation_or paired hload with he | ⟨number, hread, rfl⟩
      · exact .inl (reports_of_generation he _)
      · exact .inr ⟨number, hread, rfl⟩

/-- So does the generation from files. -/
theorem generateTool_ends : Ends w t .generating (w.generateTool (Discovery.handed t) .null) := by
  rw [generateTool_handed]
  have hsource : w.source (Discovery.handed t) .null
      = (w.generate .empty (Discovery.handed t)).result := rfl
  rw [hsource, generate]
  refine ⟨fun ready => .inl (reports_during (fun e failed => ?_) fun o => ⟨_, rfl⟩),
    fun unready => ends_during_of_not_ready ?_ _⟩
  · rcases Traced.result_bind_eq_error_iff.1 failed with failed | ⟨found, -, failed⟩
    · exact parsed_generation ready failed
    · exact convert_generation failed
  · obtain ⟨e, hparsed, he⟩ := parsed_of_not_ready unready
    rw [hparsed]
    exact ⟨e, rfl, he⟩

end Workspace

-- ================================================================= calls

namespace Task

open Parameter (value?)

/-- A text for a list or a text is converted to what it is handed on as. -/
theorem convert_patterns {kinds : List Kind} (parameter : Text) {t : Text}
    (paired : Json.Paired t) (hkinds : kinds = [.text, .collection .list] ∨ kinds = [.text, .collection .list, .other]) :
    Hint.convert parameter (.choice kinds) (.str t) = .ok (Discovery.handed t) := by
  have htext : .text ∈ kinds := by
    rcases hkinds with rfl | rfl
    · exact List.mem_cons_self ..
    · exact List.mem_cons_self ..
  have hadmits : ∀ v, Hint.admits kinds v = Collection.list.holds v := by
    intro v
    rcases hkinds with rfl | rfl
    · simp [Hint.admits]
    · simp [Hint.admits]
  rw [Hint.convert_of_text_mem htext paired, Hint.meant, Discovery.handed]
  cases Json.read t with
  | error fault => rfl
  | ok v =>
      dsimp only
      rw [hadmits]
      cases v <;> rfl

theorem convertCall_exporting {a : Arguments} {t : Text} (paired : Json.Paired t)
    (hbound : Parameter.bind? exporting.parameters a = some (exporting.parameters.zip [.str t])) :
    Parameter.convertCall exporting.parameters a
      = .ok [("glob_patterns", Discovery.handed t)] := by
  rw [Parameter.convertCall, hbound]
  show ((((Hint.convert _ (.choice [.text, .collection .list]) (.str t)).map _) >>= _).mapError _)
    = _
  rw [convert_patterns _ paired (.inl rfl)]
  rfl

/-- Nothing is changed about declarations. -/
theorem convert_declarations (parameter : Text) {d : Json} (h : d = .null ∨ ∃ u, d = .str u) :
    Hint.convert parameter (.choice [.text, .other]) d = .ok d := by
  rcases h with rfl | ⟨u, rfl⟩
  · rfl
  · rfl

/-- Patterns are converted, and declarations are handed on. -/
theorem convertCall_generating {a : Arguments} {t : Text} {d : Json} (paired : Json.Paired t)
    (hbound : Parameter.bind? generating.parameters a
      = some (generating.parameters.zip [.str t, d]))
    (hd : d = .null ∨ ∃ u, d = .str u) :
    Parameter.convertCall generating.parameters a
      = .ok [("glob_patterns", Discovery.handed t), ("declarations_json", d)] := by
  rw [Parameter.convertCall, hbound]
  show ((((Hint.convert _ (.choice [.text, .collection .list, .other]) (.str t)).map _) >>= fun _ =>
    (((Hint.convert _ (.choice [.text, .other]) d).map _) >>= _) >>= _).mapError _) = _
  rw [convert_patterns _ paired (.inr rfl), convert_declarations _ hd]
  rfl

end Task

end TypeShape
