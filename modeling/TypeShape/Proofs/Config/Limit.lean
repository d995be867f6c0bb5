/-
The limit that files are measured by.

The parser is made by the first step that asks for it while there is a usable configuration, be
it for an inline literal or for files, and it keeps the size limit of that configuration
(`exists_making_of_parserLimit`). So a file is refused by the configuration of that moment, and
by the one in force exactly as long as the two agree, as they do until a configuration is set or
given up (`load_refuses_iff`). After that the limit is stale (`load_refuses_stale`).
-/
import TypeShape.Proofs.Config.History
import TypeShape.Session

namespace TypeShape

-- ============================================================== measuring

/-- A whole limit counts units of 2^20 bytes. -/
theorem SizeLimit.isExceededBy_whole {n : Int} {bytes : Nat} :
    (SizeLimit.whole n).isExceededBy bytes = true ↔ 1024 * 1024 * n < bytes := by
  rw [Int.mul_comm]
  exact decide_eq_true_iff

namespace FileTree

variable {tree : FileTree} {limit : SizeLimit} {path : Text} {bytes : List UInt8}

/-- A file is too large for the limit that it is read with. -/
theorem parse_tooLarge_iff (hfile : tree.find? path = some (.file bytes)) :
    (∃ l, tree.parse limit path = .error (.tooLarge l))
      ↔ limit.isExceededBy bytes.length = true := by
  unfold parse
  rw [hfile]
  dsimp only
  split
  case isTrue h => exact ⟨fun _ => h, fun _ => ⟨limit, rfl⟩⟩
  case isFalse h =>
    refine ⟨fun hlarge => ?_, fun hexceeded => absurd hexceeded h⟩
    obtain ⟨l, hlarge⟩ := hlarge
    cases hparse : Source.parseText (Utf8.decode bytes) path with
    | error line =>
        rw [hparse] at hlarge
        cases hlarge
    | ok file =>
        rw [hparse] at hlarge
        cases hlarge

/-- Behind files that are read, a file is refused for its size by itself. -/
theorem load_tooLarge_iff {before after : List Text} {files : List ParsedFile}
    (hbefore : tree.load limit before = .ok files) (hfile : tree.find? path = some (.file bytes)) :
    (∃ l, tree.load limit (before ++ path :: after) = .error (.unreadable path (.tooLarge l)))
      ↔ limit.isExceededBy bytes.length = true := by
  rw [← parse_tooLarge_iff hfile]
  constructor
  · rintro ⟨l, h⟩
    obtain ⟨p, -, hp⟩ := exists_of_mapM_eq_error h
    cases hparse : tree.parse limit p with
    | ok file =>
        rw [hparse] at hp
        cases hp
    | error why =>
        rw [hparse] at hp
        cases hp
        exact ⟨l, hparse⟩
  · rintro ⟨l, h⟩
    refine ⟨l, ?_⟩
    unfold load at hbefore ⊢
    rw [List.mapM_append, hbefore, List.mapM_cons, h]
    rfl

end FileTree

-- ============================================================= the parser

namespace Setup

variable {s s' : Setup} {c : Config} {limit : SizeLimit} {fault : ConfigFault}

/-- What asking for the parser makes of the setup. -/
def ask (s : Setup) : Setup :=
  match s.getParser with
  | .ok (_, s') => s'
  | .error _ => s

/-- A parser that is there answers with its own limit. -/
theorem getParser_of_some (h : s.parserLimit = some limit) : s.getParser = .ok (limit, s) := by
  unfold getParser
  rw [h]

/-- A new one takes the limit of the configuration that a look answers. -/
theorem getParser_of_none (h : s.parserLimit = none) : s.getParser = s.getConfig.map
    fun (c, s') => (c.sizeLimit, { s' with parserLimit := some c.sizeLimit }) := by
  unfold getParser
  rw [h]
  cases s.getConfig with
  | error fault => rfl
  | ok found => rfl

theorem ask_of_some (h : s.parserLimit = some limit) : s.ask = s := by
  unfold ask
  rw [getParser_of_some h]

theorem ask_of_error (h : s.getConfig = .error fault) : s.ask = s := by
  unfold ask
  cases hlimit : s.parserLimit with
  | some limit => rw [getParser_of_some hlimit]
  | none =>
      rw [getParser_of_none hlimit, h]
      rfl

theorem ask_of_ok (hlimit : s.parserLimit = none) (h : s.getConfig = .ok (c, s')) :
    s.ask = { s.withConfig c with parserLimit := some c.sizeLimit } := by
  obtain ⟨rfl, -⟩ := getConfig_eq_ok_iff.1 h
  unfold ask
  rw [getParser_of_none hlimit, h]
  rfl

/-- The parser that one gets is there from then on. -/
theorem parserLimit_ask (h : s.getParser = .ok (limit, s')) : s.ask.parserLimit = some limit := by
  cases hlimit : s.parserLimit with
  | some l =>
      rw [getParser_of_some hlimit] at h
      cases h
      rw [ask_of_some hlimit, hlimit]
  | none =>
      rw [getParser_of_none hlimit] at h
      cases hget : s.getConfig with
      | error fault =>
          rw [hget] at h
          cases h
      | ok found =>
          obtain ⟨c, s₁⟩ := found
          rw [hget] at h
          cases h
          rw [ask_of_ok hlimit hget]

/-- Asking keeps what is kept. -/
theorem config_ask_of_some (h : s.config = some c) : s.ask.config = some c := by
  cases hlimit : s.parserLimit with
  | some limit => rw [ask_of_some hlimit, h]
  | none => rw [ask_of_ok hlimit (getConfig_eq_ok_iff.2 ⟨rfl, .inl h⟩)]; rfl

/-- What is kept after asking would have been the answer before. -/
theorem getConfig_of_ask (h : s.ask.config = some c) : ∃ s', s.getConfig = .ok (c, s') := by
  cases hget : s.getConfig with
  | error fault =>
      rw [ask_of_error hget, (getConfig_eq_error_iff.1 hget).1] at h
      cases h
  | ok found =>
      obtain ⟨d, s₁⟩ := found
      cases hlimit : s.parserLimit with
      | some limit =>
          rw [ask_of_some hlimit] at h
          rw [← hget]
          exact ⟨_, getConfig_eq_ok_iff.2 ⟨rfl, .inl h⟩⟩
      | none =>
          rw [ask_of_ok hlimit hget] at h
          cases h
          exact ⟨s₁, rfl⟩

/-- Only asking makes a parser. -/
theorem parserLimit_perform (s : Setup) (x : Step) : (s.perform x).parserLimit = s.parserLimit := by
  cases x with
  | environment e => rfl
  | get =>
      cases hget : s.getConfig with
      | error fault => rw [perform_get_of_error hget]
      | ok found => rw [perform_get_of_ok hget]; rfl
  | set c constructed => rfl
  | reset => rfl

end Setup

-- =============================================================== sessions

namespace Session

variable {s : Session} {c : Config} {limit : SizeLimit}

/-- What touches the configuration or the parser. -/
inductive Step
  | setup (x : Setup.Step)
  | resolve (name t : Text)
  | load (tree : FileTree) (paths : List Text)

/-- What a step makes of the session. -/
def perform (s : Session) : Step → Session
  | .setup x => { s with setup := s.setup.perform x }
  | .resolve name t => (s.resolve name t).1
  | .load tree paths => (s.load tree paths).1

/-- One step after the other. -/
def run (s : Session) (steps : List Step) : Session :=
  steps.foldl perform s

/-- Whether a step asks for the parser: files need it, and types with inline literals. -/
def asks (s : Session) : Step → Bool
  | .setup _ => false
  | .resolve name t => (s.resolve name t).2.readsLiteral
  | .load .. => true

/-- The configuration that a step would make the parser with: if it asks for one, the answer of
a look. -/
def making? (s : Session) (x : Step) : Option Config :=
  if s.asks x then s.setup.getConfig.toOption.map Prod.fst else none

/-- No configuration is set, and none is given up. -/
def Step.Quiet : Step → Prop
  | .setup x => x.Quiet
  | _ => True

/-- A load finds that a file is too large. -/
def Refuses (s : Session) (tree : FileTree) (paths : List Text) (path : Text) : Prop :=
  ∃ limit, (s.load tree paths).2 = .error (.unreadable path (.tooLarge limit))

/-- Steps act on the setup as themselves, or as asking for the parser, or not at all. -/
theorem setup_perform (s : Session) (x : Step) : (s.perform x).setup = match x with
    | .setup y => s.setup.perform y
    | _ => if s.asks x then s.setup.ask else s.setup := by
  cases x with
  | setup y => rfl
  | resolve name t =>
      show (s.after (s.resolve name t).2).setup = if (s.resolve name t).2.readsLiteral then _ else _
      unfold after Setup.ask
      split
      case isTrue => cases s.setup.getParser <;> rfl
      case isFalse => rfl
  | load tree paths =>
      show (s.load tree paths).1.setup = s.setup.ask
      unfold load Setup.ask
      cases s.setup.getParser <;> rfl

theorem making?_eq_some_iff {x : Step} :
    s.making? x = some c ↔ s.asks x = true ∧ ∃ setup, s.setup.getConfig = .ok (c, setup) := by
  unfold making?
  split
  case isTrue h => cases s.setup.getConfig <;> simp [h, Except.toOption, Prod.ext_iff]
  case isFalse h => simp [h]

/-- A parser that is there keeps its limit. -/
theorem parserLimit_perform_of_some (h : s.setup.parserLimit = some limit) (x : Step) :
    (s.perform x).setup.parserLimit = some limit := by
  rw [setup_perform]
  cases x with
  | setup y => exact (Setup.parserLimit_perform _ y).trans h
  | _ =>
      dsimp only
      rw [Setup.ask_of_some h, ite_self, h]

/-- Where there is none, a step makes it with the configuration in force, if it asks. -/
theorem setup_perform_of_making {x : Step} (hnone : s.setup.parserLimit = none)
    (h : s.making? x = some c) :
    (s.perform x).setup = { s.setup.withConfig c with parserLimit := some c.sizeLimit } := by
  obtain ⟨hasks, setup, hget⟩ := making?_eq_some_iff.1 h
  rw [setup_perform]
  cases x with
  | setup y => cases hasks
  | _ =>
      dsimp only
      rw [if_pos hasks, Setup.ask_of_ok hnone hget]

/-- A step that makes no parser leaves none. -/
theorem parserLimit_perform_of_none {x : Step} (hnone : s.setup.parserLimit = none)
    (h : s.making? x = none) : (s.perform x).setup.parserLimit = none := by
  rw [setup_perform]
  cases x with
  | setup y => exact (Setup.parserLimit_perform _ y).trans hnone
  | _ =>
      dsimp only
      split
      case isFalse => exact hnone
      case isTrue hasks =>
        cases hget : s.setup.getConfig with
        | error fault => rw [Setup.ask_of_error hget, hnone]
        | ok found =>
            rw [making?_eq_some_iff.2 ⟨hasks, found.2, hget⟩] at h
            cases h

/-- What is kept stays through a quiet step. -/
theorem config_perform_of_some (h : s.setup.config = some c) {x : Step} (quiet : x.Quiet) :
    (s.perform x).setup.config = some c := by
  rw [setup_perform]
  cases x with
  | setup y => exact Setup.config_perform_of_some h quiet
  | _ =>
      dsimp only
      split
      case isTrue => exact Setup.config_ask_of_some h
      case isFalse => exact h

-- ================================================================== runs

theorem run_cons (s : Session) (x : Step) (steps : List Step) :
    s.run (x :: steps) = (s.perform x).run steps :=
  rfl

theorem run_concat (s : Session) (steps : List Step) (x : Step) :
    s.run (steps ++ [x]) = (s.run steps).perform x :=
  List.foldl_append

theorem parserLimit_run_of_some (h : s.setup.parserLimit = some limit) (steps : List Step) :
    (s.run steps).setup.parserLimit = some limit :=
  List.foldlRecOn steps perform (motive := fun s => s.setup.parserLimit = some limit) h
    fun _ made x _ => parserLimit_perform_of_some made x

theorem config_run_of_some (h : s.setup.config = some c) {steps : List Step}
    (quiet : ∀ x ∈ steps, x.Quiet) : (s.run steps).setup.config = some c :=
  List.foldlRecOn steps perform (motive := fun s => s.setup.config = some c) h
    fun _ kept x hx => config_perform_of_some kept (quiet x hx)

/-- The parser has the limit of the configuration that the first step could make it with, which
is still in force if all steps behind that one are quiet. -/
theorem exists_making_of_parserLimit (hnone : s.setup.parserLimit = none) {steps : List Step}
    (h : (s.run steps).setup.parserLimit = some limit) :
    ∃ c later, FirstSuccess perform making? s steps c later ∧ c.sizeLimit = limit
      ∧ ((∀ x ∈ later, x.Quiet) → (s.run steps).setup.config = some c) := by
  induction steps generalizing s with
  | nil => cases hnone.symm.trans h
  | cons x steps ih =>
      rw [run_cons] at h ⊢
      cases hmaking : s.making? x with
      | none =>
          obtain ⟨c, later, hfirst, hlimit⟩ := ih (parserLimit_perform_of_none hnone hmaking) h
          exact ⟨c, later, (firstSuccess_cons_of_none hmaking).2 hfirst, hlimit⟩
      | some c =>
          have hsetup := setup_perform_of_making hnone hmaking
          have hlimit := parserLimit_run_of_some
            (congrArg Setup.parserLimit hsetup : _ = some c.sizeLimit) steps
          exact ⟨c, steps, (firstSuccess_cons_of_some hmaking).2 ⟨rfl, rfl⟩,
            Option.some.inj (hlimit.symm.trans h),
            config_run_of_some (congrArg Setup.config hsetup : _ = some c)⟩

-- ================================================================== loads

/-- A load that reads files has a parser, and goes by its limit. -/
theorem exists_limit_of_load {tree : FileTree} {before : List Text} {files : List ParsedFile}
    (h : (s.load tree before).2 = .ok files) :
    ∃ limit, tree.load limit before = .ok files ∧ s.setup.ask.parserLimit = some limit
      ∧ ∀ paths, (s.load tree paths).2 = tree.load limit paths := by
  unfold load at h ⊢
  cases hparser : s.setup.getParser with
  | error fault =>
      rw [hparser] at h
      cases h
  | ok found =>
      rw [hparser] at h
      exact ⟨found.1, h, Setup.parserLimit_ask hparser, fun paths => rfl⟩

/-- Which limit a file is measured by, after any steps and behind files that are read: that of
the configuration in force when the parser was first asked for and could be made, be it by this
load. It is the limit of the configuration that is in force now if no configuration was set or
given up since. -/
theorem load_refuses_iff (hnone : s.setup.parserLimit = none) (steps : List Step)
    {tree : FileTree} {path : Text} {bytes : List UInt8} {before after : List Text}
    (hfile : tree.find? path = some (.file bytes))
    (hbefore : ∃ files, ((s.run steps).load tree before).2 = .ok files) :
    let paths := before ++ path :: after
    ∃ c later, FirstSuccess perform making? s (steps ++ [.load tree paths]) c later
      ∧ ((s.run steps).Refuses tree paths path ↔ c.sizeLimit.isExceededBy bytes.length = true)
      ∧ (∀ n, c.sizeLimit = .whole n →
          ((s.run steps).Refuses tree paths path ↔ 1024 * 1024 * n < bytes.length))
      ∧ ((∀ x ∈ later, x.Quiet) → ∃ setup, (s.run steps).setup.getConfig = .ok (c, setup)) := by
  intro paths
  obtain ⟨files, hbefore⟩ := hbefore
  obtain ⟨limit, hload, hask, hloads⟩ := exists_limit_of_load hbefore
  have hsetup : (s.run (steps ++ [.load tree paths])).setup = (s.run steps).setup.ask := by
    rw [run_concat, setup_perform]
    rfl
  rw [← hsetup] at hask
  obtain ⟨c, later, hfirst, rfl, hquiet⟩ := exists_making_of_parserLimit hnone hask
  have hrefuses : (s.run steps).Refuses tree paths path
      ↔ c.sizeLimit.isExceededBy bytes.length = true := by
    unfold Refuses
    rw [hloads]
    exact FileTree.load_tooLarge_iff hload hfile
  refine ⟨c, later, hfirst, hrefuses, fun n hn => ?_, fun quiet => ?_⟩
  · rw [hrefuses, hn, SizeLimit.isExceededBy_whole]
  · have hkept := hquiet quiet
    rw [hsetup] at hkept
    exact Setup.getConfig_of_ask hkept

/-- A load comes too early for a usable configuration, an inline literal takes the limit of one,
and other variables change neither the limit nor the configuration. -/
theorem load_refuses_iff_literal :
    let path : Text := "/p/x.ts"
    let bytes : List UInt8 := .replicate (1024 * 1024 + 1) 32
    let tree : FileTree := .insert (.file bytes) ["p", "x.ts"] .empty
    let steps : List Step :=
      [.setup (.environment [("MAX_FILE_SIZE_MB", "none")]), .load tree [path],
        .setup (.environment [("MAX_FILE_SIZE_MB", "1")]), .resolve "Item" "\x7b a: string \x7d",
        .setup (.environment [])]
    initial.setup.parserLimit = none ∧ tree.find? path = some (.file bytes)
      ∧ (∃ files, ((initial.run steps).load tree []).2 = .ok files)
      ∧ (initial.run steps).Refuses tree [path] path := by
  intro path bytes tree steps
  have hfind (bytes : List UInt8) :
      (FileTree.insert (.file bytes) ["p", "x.ts"] .empty).find? "/p/x.ts" = some (.file bytes) :=
    rfl
  have hfile : tree.find? path = some (.file bytes) := hfind bytes
  have hmade : (initial.run steps).setup.parserLimit = some (.whole 1) := by decide +kernel
  have hkept : (initial.run steps).setup.config
      = some { Config.standard with sizeLimit := .whole 1 } := by decide +kernel
  have hbefore : ((initial.run steps).load tree []).2 = .ok [] := by
    unfold load
    rw [Setup.getParser_of_some hmade]
    rfl
  obtain ⟨c, later, ⟨before, x, heq, -⟩, -, hwhole, hquiet⟩ :=
    @load_refuses_iff initial rfl steps tree path bytes [] [] hfile ⟨[], hbefore⟩
  have hall : ∀ x ∈ steps ++ [.load tree [path]], x.Quiet := by
    simp [steps, Step.Quiet, Setup.Step.Quiet]
  obtain ⟨setup, hget⟩ := hquiet fun y hy => by
    rw [List.nil_append] at heq
    rw [heq] at hall
    exact hall y (List.mem_append_right before (List.mem_cons_of_mem x hy))
  have hc : { Config.standard with sizeLimit := .whole 1 } = c := by
    rcases (Setup.getConfig_eq_ok_iff.1 hget).2 with h | ⟨h, -⟩
    · exact Option.some.inj (hkept.symm.trans h)
    · cases hkept.symm.trans h
  refine ⟨rfl, hfile, ⟨[], hbefore⟩, (hwhole 1 (by rw [← hc])).2 ?_⟩
  rw [List.length_replicate]
  decide

/-- The parser was made for an inline literal under a limit of one unit. Under the two units that
are configured now, a file of more than one is refused. -/
theorem load_refuses_stale :
    let path : Text := "/p/x.ts"
    let bytes : List UInt8 := .replicate (1024 * 1024 + 1) 32
    let tree : FileTree := .insert (.file bytes) ["p", "x.ts"] .empty
    let limited (n : Int) : Config := { Config.standard with sizeLimit := .whole n }
    ∃ one two,
      let steps : List Step :=
        [.setup (.set (limited 1) one), .resolve "Item" "\x7b a: string \x7d",
          .setup (.set (limited 2) two)]
      let s := initial.run steps
      tree.find? path = some (.file bytes) ∧ s.Refuses tree [path] path
        ∧ s.setup.getConfig = .ok (limited 2, s.setup)
        ∧ ¬ 1024 * 1024 * 2 < bytes.length := by
  intro path bytes tree limited
  refine ⟨.fromSettings (show Config.ofSettings [("max_file_size_mb", .int 1)] = _ from rfl),
    .fromSettings (show Config.ofSettings [("max_file_size_mb", .int 2)] = _ from rfl), ?_⟩
  intro steps s
  have hfind (bytes : List UInt8) :
      (FileTree.insert (.file bytes) ["p", "x.ts"] .empty).find? "/p/x.ts" = some (.file bytes) :=
    rfl
  have hfile : tree.find? path = some (.file bytes) := hfind bytes
  have hmade : s.setup.parserLimit = some (.whole 1) := by decide +kernel
  have hlength : bytes.length = 1024 * 1024 + 1 := List.length_replicate
  have hexceeded : (SizeLimit.whole 1).isExceededBy bytes.length = true := by
    rw [SizeLimit.isExceededBy_whole, hlength]
    decide
  have hnothing : tree.load (.whole 1) [] = .ok [] := rfl
  obtain ⟨limit, hload⟩ :
      ∃ l, tree.load (.whole 1) [path] = .error (.unreadable path (.tooLarge l)) :=
    (FileTree.load_tooLarge_iff hnothing hfile).2 hexceeded
  refine ⟨hfile, ⟨limit, ?_⟩, rfl, ?_⟩
  · unfold load
    rw [Setup.getParser_of_some hmade]
    exact hload
  · rw [hlength]
    decide

end Session

end TypeShape
