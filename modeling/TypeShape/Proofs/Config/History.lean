/-
The configuration in force, told by what was done before.

A look at the configuration keeps what it finds, and only setting a configuration or giving it
up changes what is kept. So the last of these two kinds of steps decides (`exists_stretch`):
after a configuration was set, it is the answer; after it was given up, or with none set yet,
the first look that finds a usable environment reads the answer from it, and looks before that
one leave nothing behind (`config_run_of_none`). Whatever is kept was let through by a
constructor, so every answer is usable.
-/
import Mathlib.Data.List.Induction
import TypeShape.Config.Setup
import TypeShape.Proofs.Sequence

namespace TypeShape

namespace Config

variable {c d : Config}

-- ============================================================== validity

/-- What a configuration has to be like. -/
structure Usable (c : Config) : Prop where
  limit : c.sizeLimit.isPositive = true
  root : c.root ≠ []
  level : c.logLevel ∈ logLevels

theorem faults_eq_nil_iff : c.faults = [] ↔ c.Usable := by
  have hlimit : (if c.sizeLimit.isPositive then [] else [SettingFault.sizeLimit]) = []
      ↔ c.sizeLimit.isPositive = true := by simp
  have hroot : (if c.root.isEmpty then [SettingFault.root] else []) = [] ↔ c.root ≠ [] := by simp
  have hlevel : (if logLevels.elem c.logLevel then [] else [SettingFault.logLevel]) = []
      ↔ c.logLevel ∈ logLevels := by simp
  unfold faults
  rw [List.append_eq_nil_iff, List.append_eq_nil_iff, hlimit, hroot, hlevel]
  exact ⟨fun h => ⟨h.1.1, h.1.2, h.2⟩, fun h => ⟨⟨h.limit, h.root⟩, h.level⟩⟩

/-- Only usable configurations are let through, as they are. -/
theorem validated_eq_ok_iff : validated d = .ok c ↔ c = d ∧ d.Usable := by
  unfold validated
  rw [← faults_eq_nil_iff, ← List.isEmpty_iff]
  split
  case isTrue h => simp [h, eq_comm]
  case isFalse h => simp [h]

/-- A configuration that one of the constructors has let through. -/
inductive Constructed (c : Config) : Prop
  | fromEnvironment {e : Environment} (h : ofEnvironment e = .ok c)
  | fromSettings {settings : List (Text × Json)} (h : ofSettings settings = .ok c)

/-- Each constructor checks what it lets through. -/
theorem Constructed.usable (h : c.Constructed) : c.Usable := by
  cases h with
  | @fromEnvironment e h =>
      unfold ofEnvironment at h
      dsimp only at h
      split at h
      case h_1 => cases h
      case h_2 => cases h
      case h_3 =>
        obtain ⟨rfl, usable⟩ := validated_eq_ok_iff.1 h
        exact usable
  | @fromSettings settings h =>
      obtain ⟨draft, -, h⟩ := exists_of_bind_eq_ok h
      cases hvalid : validated draft with
      | error fault =>
          rw [hvalid] at h
          cases h
      | ok d =>
          rw [hvalid] at h
          cases h
          obtain ⟨rfl, usable⟩ := validated_eq_ok_iff.1 hvalid
          exact usable

end Config

namespace Setup

open Config (Environment)

variable {s s' : Setup} {c : Config} {e : Environment}

-- ================================================================= steps

/-- What can happen to the configuration. -/
inductive Step
  | environment (e : Environment)
  | get
  | set (c : Config) (constructed : c.Constructed)
  | reset

/-- What a step makes of the setup; a look that fails leaves it alone. -/
def perform (s : Setup) : Step → Setup
  | .environment e => s.withEnvironment e
  | .get =>
    match s.getConfig with
    | .ok (_, s') => s'
    | .error _ => s
  | .set c _ => s.withConfig c
  | .reset => s.withoutConfig

/-- One step after the other. -/
def run (s : Setup) (steps : List Step) : Setup :=
  steps.foldl perform s

/-- Nothing was asked for yet, in a given environment. -/
def fresh (e : Environment) : Setup :=
  initial.withEnvironment e

-- =============================================================== history

/-- The environment after a step: only other variables change it. -/
def Step.change (e : Environment) : Step → Environment
  | .environment e' => e'
  | _ => e

/-- The environment after some steps. -/
def environmentAfter (e : Environment) (steps : List Step) : Environment :=
  steps.foldl Step.change e

/-- What a step reads from an environment: a look the configuration, if it is usable there. -/
def Step.read? (e : Environment) : Step → Option Config
  | .get => (Config.ofEnvironment e).toOption
  | _ => none

/-- No configuration is set, and none is given up. -/
def Step.Quiet : Step → Prop
  | .environment _ => True
  | .get => True
  | .set .. => False
  | .reset => False

/-- Nothing is kept after these steps: there are none, or the last one gives up what was kept. -/
def Cleared (steps : List Step) : Prop :=
  steps = [] ∨ ∃ before, steps = before ++ [.reset]

/-- The first look that finds a usable environment reads this configuration from it. -/
def FirstRead (e : Environment) (steps : List Step) (c : Config) : Prop :=
  ∃ after, FirstSuccess Step.change Step.read? e steps c after

/-- What a look after some steps answers: the configuration that was set last, if it was not
given up since; or else, of the looks since nothing is kept, this one among them, what the first
one with a usable environment reads. -/
inductive Answers (e : Environment) : List Step → Config → Prop
  | given {before after : List Step} {c : Config} (constructed : c.Constructed)
      (quiet : ∀ x ∈ after, x.Quiet) : Answers e (before ++ .set c constructed :: after) c
  | read {before after : List Step} {c : Config} (cleared : Cleared before)
      (quiet : ∀ x ∈ after, x.Quiet)
      (first : FirstRead (environmentAfter e before) (after ++ [.get]) c) :
      Answers e (before ++ after) c

-- ================================================================= looks

/-- A look answers what is kept, or else what it reads, and keeps what it answers. -/
theorem getConfig_eq_ok_iff : s.getConfig = .ok (c, s') ↔ s' = s.withConfig c
    ∧ (s.config = some c ∨ s.config = none ∧ Config.ofEnvironment s.environment = .ok c) := by
  unfold getConfig
  cases hkept : s.config with
  | some d =>
      have hsame : s = s.withConfig d := by
        unfold withConfig
        rw [← hkept]
      simp only [Except.ok.injEq, Prod.mk.injEq, Option.some.injEq, reduceCtorEq, false_and,
        or_false]
      constructor
      · rintro ⟨rfl, rfl⟩
        exact ⟨hsame, rfl⟩
      · rintro ⟨rfl, rfl⟩
        exact ⟨rfl, hsame⟩
  | none =>
      cases Config.ofEnvironment s.environment with
      | error fault => simp [bind, Except.bind]
      | ok d =>
          simp only [bind, Except.bind, pure, Except.pure, Except.ok.injEq, Prod.mk.injEq,
            reduceCtorEq, true_and, false_or]
          constructor
          · rintro ⟨rfl, rfl⟩
            exact ⟨rfl, rfl⟩
          · rintro ⟨rfl, rfl⟩
            exact ⟨rfl, rfl⟩

/-- It fails where nothing is kept and nothing can be read. -/
theorem getConfig_eq_error_iff {fault : ConfigFault} : s.getConfig = .error fault
    ↔ s.config = none ∧ Config.ofEnvironment s.environment = .error fault := by
  unfold getConfig
  cases s.config with
  | some d => simp
  | none => cases Config.ofEnvironment s.environment <;> simp [bind, Except.bind, pure, Except.pure]

/-- A look that fails changes nothing. -/
theorem perform_get_of_error {fault : ConfigFault} (h : s.getConfig = .error fault) :
    s.perform .get = s := by
  unfold perform
  dsimp only
  rw [h]

/-- Any other keeps what it answers. -/
theorem perform_get_of_ok (h : s.getConfig = .ok (c, s')) : s.perform .get = s.withConfig c := by
  unfold perform
  dsimp only
  rw [h]
  exact (getConfig_eq_ok_iff.1 h).1

/-- What is kept after a look is what it answers. -/
theorem config_perform_get :
    (s.perform .get).config = some c ↔ ∃ s', s.getConfig = .ok (c, s') := by
  cases hget : s.getConfig with
  | error fault =>
      rw [perform_get_of_error hget, (getConfig_eq_error_iff.1 hget).1]
      simp
  | ok found =>
      rw [perform_get_of_ok hget]
      simp [withConfig, Prod.ext_iff]

/-- Only other variables change the environment. -/
theorem environment_perform (s : Setup) (x : Step) :
    (s.perform x).environment = x.change s.environment := by
  cases x with
  | environment e => rfl
  | get =>
      cases hget : s.getConfig with
      | error fault => rw [perform_get_of_error hget]; rfl
      | ok found => rw [perform_get_of_ok hget]; rfl
  | set c constructed => rfl
  | reset => rfl

/-- What is kept stays through a quiet step. -/
theorem config_perform_of_some (h : s.config = some c) {x : Step} (quiet : x.Quiet) :
    (s.perform x).config = some c := by
  cases x with
  | environment e => exact h
  | get => exact config_perform_get.2 ⟨_, getConfig_eq_ok_iff.2 ⟨rfl, .inl h⟩⟩
  | set c constructed => cases quiet
  | reset => cases quiet

/-- Where nothing is kept, a quiet step keeps what it reads, if it reads anything. -/
theorem config_perform_of_none (h : s.config = none) {x : Step} (quiet : x.Quiet) :
    (s.perform x).config = x.read? s.environment := by
  cases x with
  | environment e => exact h
  | get =>
      cases hread : Config.ofEnvironment s.environment with
      | error fault =>
          rw [perform_get_of_error (getConfig_eq_error_iff.2 ⟨h, hread⟩), h, Step.read?, hread]
          rfl
      | ok d =>
          rw [config_perform_get.2 ⟨_, getConfig_eq_ok_iff.2 ⟨rfl, .inr ⟨h, hread⟩⟩⟩, Step.read?,
            hread]
          rfl
  | set c constructed => cases quiet
  | reset => cases quiet

-- ================================================================== runs

theorem run_cons (s : Setup) (x : Step) (steps : List Step) :
    s.run (x :: steps) = (s.perform x).run steps :=
  rfl

theorem run_append (s : Setup) (before after : List Step) :
    s.run (before ++ after) = (s.run before).run after :=
  List.foldl_append

theorem environment_run (s : Setup) (steps : List Step) :
    (s.run steps).environment = environmentAfter s.environment steps := by
  induction steps generalizing s with
  | nil => rfl
  | cons x steps ih =>
      rw [run_cons, ih, environment_perform]
      rfl

/-- One more look is quiet. -/
theorem quiet_get {steps : List Step} (quiet : ∀ x ∈ steps, x.Quiet) :
    ∀ x ∈ steps ++ [.get], x.Quiet :=
  List.forall_mem_append.2 ⟨quiet, List.forall_mem_singleton.2 (by trivial)⟩

/-- What is kept stays through quiet steps. -/
theorem config_run_of_some (h : s.config = some c) {steps : List Step}
    (quiet : ∀ x ∈ steps, x.Quiet) : (s.run steps).config = some c :=
  List.foldlRecOn steps perform (motive := fun s => s.config = some c) h
    fun _ kept x hx => config_perform_of_some kept (quiet x hx)

/-- Where nothing is kept, quiet steps keep the first read. -/
theorem config_run_of_none (h : s.config = none) {steps : List Step}
    (quiet : ∀ x ∈ steps, x.Quiet) :
    (s.run steps).config = some c ↔ FirstRead s.environment steps c := by
  unfold FirstRead
  induction steps generalizing s with
  | nil =>
      show s.config = some c ↔ _
      rw [h]
      exact ⟨fun h => (nomatch h), fun h => absurd h.choose_spec not_firstSuccess_nil⟩
  | cons x steps ih =>
      obtain ⟨hx, hsteps⟩ := List.forall_mem_cons.1 quiet
      have hkept := config_perform_of_none h hx
      rw [run_cons]
      cases hread : x.read? s.environment with
      | none =>
          rw [hread] at hkept
          simp only [firstSuccess_cons_of_none hread]
          rw [← environment_perform]
          exact ih hkept hsteps
      | some d =>
          rw [hread] at hkept
          simp only [firstSuccess_cons_of_some hread]
          rw [config_run_of_some hkept hsteps, Option.some.injEq]
          exact ⟨fun h => ⟨steps, h, rfl⟩, fun h => h.choose_spec.1⟩

-- =============================================================== answers

/-- Every history ends with quiet steps, and begins with none before them, or up to a step that
is not quiet. -/
theorem exists_stretch (steps : List Step) : ∃ before after, steps = before ++ after
    ∧ (∀ x ∈ after, x.Quiet)
    ∧ (Cleared before ∨ ∃ earlier c constructed, before = earlier ++ [.set c constructed]) := by
  induction steps using List.reverseRecOn with
  | nil => exact ⟨[], [], rfl, fun x h => (nomatch h), .inl (.inl rfl)⟩
  | append_singleton steps x ih =>
      obtain ⟨before, after, rfl, quiet, hbefore⟩ := ih
      cases x with
      | environment e =>
          exact ⟨before, _, List.append_assoc .., List.forall_mem_append.2
            ⟨quiet, List.forall_mem_singleton.2 (by trivial)⟩, hbefore⟩
      | get => exact ⟨before, _, List.append_assoc .., quiet_get quiet, hbefore⟩
      | set c constructed =>
          exact ⟨_, [], (List.append_nil _).symm, fun x h => (nomatch h),
            .inr ⟨_, c, constructed, rfl⟩⟩
      | reset =>
          exact ⟨_, [], (List.append_nil _).symm, fun x h => (nomatch h), .inl (.inr ⟨_, rfl⟩)⟩

theorem config_run_of_cleared {steps : List Step} (h : Cleared steps) :
    ((fresh e).run steps).config = none := by
  rcases h with rfl | ⟨before, rfl⟩
  · rfl
  · rw [run_append]
    rfl

/-- What is kept after some steps and one more look is what the history answers. -/
theorem config_run_get (e : Environment) (steps : List Step) :
    ((fresh e).run (steps ++ [.get])).config = some c ↔ Answers e steps c := by
  have hgiven {before after : List Step} {d : Config} {constructed : d.Constructed}
      (quiet : ∀ x ∈ after, x.Quiet) :
      ((fresh e).run (before ++ .set d constructed :: after ++ [.get])).config = some d := by
    rw [List.append_assoc, run_append, List.cons_append, run_cons]
    exact config_run_of_some rfl (quiet_get quiet)
  have hread {before after : List Step} (cleared : Cleared before) (quiet : ∀ x ∈ after, x.Quiet) :
      ((fresh e).run (before ++ after ++ [.get])).config = some c
        ↔ FirstRead (environmentAfter e before) (after ++ [.get]) c := by
    rw [List.append_assoc, run_append,
      config_run_of_none (config_run_of_cleared cleared) (quiet_get quiet), environment_run]
    rfl
  constructor
  · intro h
    obtain ⟨before, after, rfl, quiet, cleared | ⟨earlier, d, constructed, rfl⟩⟩ :=
      exists_stretch steps
    · exact .read cleared quiet ((hread cleared quiet).1 h)
    · rw [List.append_assoc earlier, List.singleton_append] at h ⊢
      obtain rfl := Option.some.inj ((hgiven quiet).symm.trans h)
      exact .given constructed quiet
  · intro h
    cases h with
    | given constructed quiet => exact hgiven quiet
    | read cleared quiet first => exact (hread cleared quiet).2 first

-- ============================================================== validity

/-- Only usable configurations are kept. -/
theorem usable_perform (h : ∀ c ∈ s.config, c.Usable) (x : Step) :
    ∀ c ∈ (s.perform x).config, c.Usable := by
  intro c hc
  cases x with
  | environment e => exact h c hc
  | get =>
      obtain ⟨s', hget⟩ := config_perform_get.1 hc
      rcases (getConfig_eq_ok_iff.1 hget).2 with hkept | ⟨-, hread⟩
      · exact h c hkept
      · exact Config.Constructed.usable (.fromEnvironment hread)
  | set d constructed =>
      cases hc
      exact constructed.usable
  | reset => cases hc

theorem usable_run (h : ∀ c ∈ s.config, c.Usable) (steps : List Step) :
    ∀ c ∈ (s.run steps).config, c.Usable :=
  List.foldlRecOn steps perform (motive := fun s => ∀ c ∈ s.config, c.Usable) h
    fun _ usable x _ => usable_perform usable x

-- ========================================================= any one look

/-- A look after any steps answers what the history says, and a usable configuration. If the
history says nothing, the look fails as the environment of the moment does; nothing is kept and
nothing is changed by it, so that a look at other variables reads those. -/
theorem getConfig_run (e : Environment) (steps : List Step) :
    let s := (fresh e).run steps
    (∀ c, (∃ s', s.getConfig = .ok (c, s')) ↔ Answers e steps c)
      ∧ (∀ c s', s.getConfig = .ok (c, s') →
          c.faults = [] ∧ c.sizeLimit.isPositive = true ∧ (∀ n, c.sizeLimit = .whole n → 0 < n)
            ∧ c.root ≠ [] ∧ c.logLevel ∈ logLevels)
      ∧ ∀ fault, s.getConfig = .error fault →
          Config.ofEnvironment (environmentAfter e steps) = .error fault
            ∧ s.config = none ∧ (fresh e).run (steps ++ [.get]) = s
            ∧ ∀ e', ((s.perform .get).withEnvironment e').getConfig.map Prod.fst
                = Config.ofEnvironment e' := by
  intro s
  refine ⟨fun c => ?_, fun c s' hget => ?_, fun fault hget => ?_⟩
  · rw [← config_run_get, run_append]
    exact config_perform_get.symm
  · -- what a look answers is kept by it, and all that is ever kept is usable
    have hkept : (s.perform .get).config = some c := config_perform_get.2 ⟨s', hget⟩
    have usable := usable_perform (usable_run (s := fresh e) (fun c h => (nomatch h)) steps) .get c
      hkept
    refine ⟨Config.faults_eq_nil_iff.2 usable, usable.limit, fun n hn => ?_, usable.root,
      usable.level⟩
    have hlimit := usable.limit
    rw [hn] at hlimit
    exact of_decide_eq_true hlimit
  · obtain ⟨hnone, hread⟩ := getConfig_eq_error_iff.1 hget
    have hsame := perform_get_of_error hget
    rw [environment_run] at hread
    refine ⟨hread, hnone, ?_, fun e' => ?_⟩
    · rw [run_append]
      exact hsame
    · rw [hsame]
      cases hnew : Config.ofEnvironment e' with
      | error fault' =>
          rw [(getConfig_eq_error_iff (s := s.withEnvironment e')).2 ⟨hnone, hnew⟩]
          rfl
      | ok c =>
          rw [(getConfig_eq_ok_iff (s := s.withEnvironment e')).2 ⟨rfl, .inr ⟨hnone, hnew⟩⟩]
          rfl

end Setup

end TypeShape
