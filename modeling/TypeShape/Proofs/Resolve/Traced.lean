/-
Laws of traced computations.

A sequence of two computations gives a result only if both do, and then its events are
those of the first followed by those of the second. Everything else about traced
computations follows from these two facts.
-/
import TypeShape.Resolve.Traced

namespace TypeShape

/-- A result without its fault is there exactly when it is no fault. -/
theorem toOption_eq_some_iff {ε α : Type} {x : Except ε α} {a : α} :
    x.toOption = some a ↔ x = .ok a := by
  cases x <;> simp [Except.toOption]

namespace Traced

variable {α β γ : Type}

-- ========================================================== the pieces

-- what the constructors hold, for `simp` to read off

@[simp] theorem result_pure (a : α) : (pure a : Traced α).result = .ok a := rfl

@[simp] theorem events_pure (a : α) : (pure a : Traced α).events = [] := rfl

@[simp] theorem result_ofResult (r : Except Fault α) : (ofResult r).result = r := rfl

@[simp] theorem events_event (e : Event) (r : Except Fault α) :
    (event e r).events = [e] := rfl

@[simp] theorem result_after (events : List Event) (x : Traced α) :
    (x.after events).result = x.result := rfl

@[simp] theorem events_after (events : List Event) (x : Traced α) :
    (x.after events).events = events ++ x.events := rfl

-- =========================================================== sequences

/-- After a result the second computation goes on. -/
theorem bind_of_ok {x : Traced α} {a : α} (f : α → Traced β) (h : x.result = .ok a) :
    x >>= f = (f a).after x.events := by
  obtain ⟨events, result⟩ := x
  cases h
  rfl

/-- After a fault nothing goes on. -/
theorem bind_of_error {x : Traced α} {e : Fault} (f : α → Traced β)
    (h : x.result = .error e) : x >>= f = ⟨x.events, .error e⟩ := by
  obtain ⟨events, result⟩ := x
  cases h
  rfl

@[simp] theorem pure_bind (a : α) (f : α → Traced β) : (pure a : Traced α) >>= f = f a := by
  rw [bind_of_ok f rfl]
  rfl

/-- A sequence gives a result exactly when both of its parts do. -/
theorem result_bind_eq_ok_iff {x : Traced α} {f : α → Traced β} {b : β} :
    (x >>= f).result = .ok b ↔ ∃ a, x.result = .ok a ∧ (f a).result = .ok b := by
  cases h : x.result with
  | ok a => simp [bind_of_ok f h]
  | error e => simp [bind_of_error f h]

/-- A sequence fails in its first part, or in its second one after a result. -/
theorem result_bind_eq_error_iff {x : Traced α} {f : α → Traced β} {e : Fault} :
    (x >>= f).result = .error e
      ↔ x.result = .error e ∨ ∃ a, x.result = .ok a ∧ (f a).result = .error e := by
  cases h : x.result with
  | ok a => simp [bind_of_ok f h]
  | error e' => simp [bind_of_error f h]

/-- The events of a sequence whose first part gives a result. -/
theorem events_bind_of_ok {x : Traced α} {a : α} (f : α → Traced β) (h : x.result = .ok a) :
    (x >>= f).events = x.events ++ (f a).events := by
  rw [bind_of_ok f h, events_after]

/-- Events before a sequence are events before its first part. -/
theorem after_bind (events : List Event) (x : Traced α) (f : α → Traced β) :
    (x.after events) >>= f = (x >>= f).after events := by
  cases h : x.result with
  | ok a =>
      rw [bind_of_ok f h, bind_of_ok (x := x.after events) f h]
      simp [after]
  | error e =>
      rw [bind_of_error f h, bind_of_error (x := x.after events) f h]
      simp [after]

-- ============================================================= the laws

/-- Sequences may be regrouped. -/
instance : LawfulMonad Traced := by
  apply LawfulMonad.mk' Traced
  case id_map =>
    intro α x
    show x >>= pure = x
    cases h : x.result with
    | ok a =>
        rw [bind_of_ok pure h]
        simp [after, ← h]
    | error e => rw [bind_of_error pure h, ← h]
  case pure_bind =>
    intro α β a f
    exact pure_bind a f
  case bind_assoc =>
    intro α β γ x f g
    cases h : x.result with
    | ok a => rw [bind_of_ok f h, bind_of_ok _ h, after_bind]
    | error e =>
        rw [bind_of_error f h, bind_of_error _ h]
        rfl

/-- A function of what comes out changes nothing on the way. -/
@[simp] theorem result_map (f : α → β) (x : Traced α) : (f <$> x).result = x.result.map f := by
  cases h : x.result with
  | ok a =>
      rw [map_eq_pure_bind, bind_of_ok _ h]
      rfl
  | error e =>
      rw [map_eq_pure_bind, bind_of_error _ h]
      rfl

theorem result_map_eq_ok_iff {f : α → β} {x : Traced α} {b : β} :
    (f <$> x).result = .ok b ↔ ∃ a, x.result = .ok a ∧ f a = b := by
  rw [result_map]
  cases x.result with
  | ok a => simp [Except.map]
  | error e => simp [Except.map]

/-- A function of what comes out keeps the faults. -/
theorem result_map_eq_error_iff {f : α → β} {x : Traced α} {e : Fault} :
    (f <$> x).result = .error e ↔ x.result = .error e := by
  rw [result_map]
  cases x.result with
  | ok a => simp [Except.map]
  | error e' => simp [Except.map]

@[simp] theorem events_map (f : α → β) (x : Traced α) : (f <$> x).events = x.events := by
  cases h : x.result with
  | ok a =>
      rw [map_eq_pure_bind, bind_of_ok _ h]
      exact List.append_nil _
  | error e => rw [map_eq_pure_bind, bind_of_error _ h]

theorem map_after (f : α → β) (events : List Event) (x : Traced α) :
    f <$> x.after events = (f <$> x).after events := by
  rw [map_eq_pure_bind, map_eq_pure_bind, after_bind]

theorem map_event (f : α → β) (e : Event) (r : Except Fault α) :
    f <$> event e r = event e (r.map f) := by
  cases r <;> rfl

/-- A function of what comes out of sequences sees no difference between them, if a function of
what comes out of their first parts sees none and the second parts go on alike with what that one
does not tell apart. -/
theorem map_bind_congr {δ : Type} {f : α → γ} {g : β → δ} {x x' : Traced α} {k k' : α → Traced β}
    (hx : f <$> x = f <$> x') (hk : ∀ a a', f a = f a' → g <$> k a = g <$> k' a') :
    g <$> (x >>= k) = g <$> (x' >>= k') := by
  have hevents : x.events = x'.events := by
    rw [← events_map f x, hx, events_map]
  have hresult : x.result.map f = x'.result.map f := by
    rw [← result_map, hx, result_map]
  rw [map_bind, map_bind]
  cases h : x.result with
  | error e =>
      cases h' : x'.result with
      | error e' =>
          rw [h, h'] at hresult
          rw [bind_of_error _ h, bind_of_error _ h', hevents]
          cases hresult
          rfl
      | ok a' =>
          rw [h, h'] at hresult
          cases hresult
  | ok a =>
      cases h' : x'.result with
      | error e' =>
          rw [h, h'] at hresult
          cases hresult
      | ok a' =>
          rw [h, h'] at hresult
          rw [bind_of_ok _ h, bind_of_ok _ h', hevents, hk a a' (Except.ok.inj hresult)]

end Traced

end TypeShape
