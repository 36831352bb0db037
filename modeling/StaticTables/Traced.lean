import StaticTables.Event

/-!
Computations over an object that may change it, log events, and fail. A failure keeps the changes
and the events up to it: an index that was built on the way stays built.
-/
namespace StaticTables

/-- What a computation leaves behind. -/
structure Outcome (σ α : Type) where
  /-- The value, or what ended the computation. -/
  result : Except Failure α
  /-- The object afterwards. -/
  state : σ
  /-- The events, oldest first. -/
  log : List Event

/-- A computation over an object of type `σ` with a value of type `α`. -/
def Traced (σ α : Type) : Type := σ → Outcome σ α

/-- A computation over no object, such as a construction. -/
abbrev Build (α : Type) : Type := Traced Unit α

namespace Traced

variable {σ τ α β : Type}

/-- Runs the computation on an object. -/
def run (m : Traced σ α) (s : σ) : Outcome σ α := m s

instance : Monad (Traced σ) where
  pure a := fun s => { result := .ok a, state := s, log := [] }
  bind m f := fun s =>
    let first := m s
    match first.result with
    | .ok a =>
      let second := f a first.state
      { second with log := first.log ++ second.log }
    | .error e => { result := .error e, state := first.state, log := first.log }

/-- Fails. -/
def fail (e : Failure) : Traced σ α :=
  fun s => { result := .error e, state := s, log := [] }

/-- Logs an event. -/
def emit (e : Event) : Traced σ Unit :=
  fun s => { result := .ok (), state := s, log := [e] }

/-- Logs events in order. -/
def emitAll (es : List Event) : Traced σ Unit :=
  fun s => { result := .ok (), state := s, log := es }

/-- The object. -/
def get : Traced σ σ :=
  fun s => { result := .ok s, state := s, log := [] }

/-- Replaces the object. -/
def set (s : σ) : Traced σ Unit :=
  fun _ => { result := .ok (), state := s, log := [] }

/-- A value that is known, or a failure. -/
def ofExcept (r : Except Failure α) : Traced σ α :=
  fun s => { result := r, state := s, log := [] }

/-- Runs a computation over a part of the object. -/
def within (part : σ → τ) (put : σ → τ → σ) (m : Traced τ α) : Traced σ α := fun s =>
  let inner := m (part s)
  { result := inner.result, state := put s inner.state, log := inner.log }

/-- Runs a construction and leaves the object alone. -/
def building (m : Build α) : Traced σ α := within (fun _ => ()) (fun s _ => s) m

/-- Runs a computation over another object, `t`, and gives that object as it is afterwards. -/
def settle (m : Traced τ α) (t : τ) : Traced σ τ := fun s =>
  let inner := m t
  { result := inner.result.map fun _ => inner.state, state := s, log := inner.log }

instance : MonadLift (Except Failure) (Traced σ) := ⟨ofExcept⟩

/-! ### What each step leaves behind -/

@[simp] theorem run_pure (a : α) (s : σ) :
    (pure a : Traced σ α).run s = { result := .ok a, state := s, log := [] } := rfl

theorem run_bind (m : Traced σ α) (f : α → Traced σ β) (s : σ) :
    (m >>= f).run s =
      match (m.run s).result with
      | .ok a =>
        let second := (f a).run (m.run s).state
        { second with log := (m.run s).log ++ second.log }
      | .error e => { result := .error e, state := (m.run s).state, log := (m.run s).log } := rfl

@[simp] theorem run_map (f : α → β) (m : Traced σ α) (s : σ) :
    (f <$> m).run s =
      { result := (m.run s).result.map f, state := (m.run s).state, log := (m.run s).log } := by
  show (m >>= fun a => pure (f a)).run s = _
  rw [run_bind]
  cases (m.run s).result <;> simp [Except.map]

@[simp] theorem run_fail (e : Failure) (s : σ) :
    (fail e : Traced σ α).run s = { result := .error e, state := s, log := [] } := rfl

@[simp] theorem run_emit (e : Event) (s : σ) :
    (emit e).run s = { result := .ok (), state := s, log := [e] } := rfl

@[simp] theorem run_emitAll (es : List Event) (s : σ) :
    (emitAll es).run s = { result := .ok (), state := s, log := es } := rfl

@[simp] theorem run_get (s : σ) :
    (get : Traced σ σ).run s = { result := .ok s, state := s, log := [] } := rfl

@[simp] theorem run_set (s t : σ) :
    (set t).run s = { result := .ok (), state := t, log := [] } := rfl

@[simp] theorem run_ofExcept (r : Except Failure α) (s : σ) :
    (ofExcept r : Traced σ α).run s = { result := r, state := s, log := [] } := rfl

@[simp] theorem run_liftM (r : Except Failure α) (s : σ) :
    (liftM r : Traced σ α).run s = { result := r, state := s, log := [] } := rfl

@[simp] theorem run_building (m : Build α) (s : σ) :
    (building m : Traced σ α).run s =
      { result := (m.run ()).result, state := s, log := (m.run ()).log } := rfl

@[simp] theorem run_settle (m : Traced τ α) (t : τ) (s : σ) :
    (settle m t : Traced σ τ).run s =
      { result := (m.run t).result.map fun _ => (m.run t).state, state := s,
        log := (m.run t).log } := rfl

theorem result_bind_eq_ok_iff {m : Traced σ α} {f : α → Traced σ β} {s : σ} {b : β} :
    ((m >>= f).run s).result = .ok b ↔
      ∃ a, (m.run s).result = .ok a ∧ ((f a).run (m.run s).state).result = .ok b := by
  rw [run_bind]
  cases h : (m.run s).result <;> simp

/-- A computation that first looks at the object. -/
theorem run_get_bind (f : σ → Traced σ α) (s : σ) : (get >>= f).run s = (f s).run s := rfl

theorem result_bind_of_error {m : Traced σ α} {f : α → Traced σ β} {s : σ} {e : Failure}
    (h : (m.run s).result = .error e) : ((m >>= f).run s).result = .error e := by
  rw [run_bind, h]

/-- What follows may read the object; if it never changes it, the first step alone does. -/
theorem state_bind_of_keeps {m : Traced σ α} {f : α → Traced σ β} {s : σ}
    (hf : ∀ a t, ((f a).run t).state = t) : ((m >>= f).run s).state = (m.run s).state := by
  rw [run_bind]
  cases (m.run s).result with
  | ok a => exact hf a _
  | error e => rfl

theorem run_within (part : σ → τ) (put : σ → τ → σ) (m : Traced τ α) (s : σ) :
    (within part put m).run s =
      { result := (m.run (part s)).result, state := put s (m.run (part s)).state,
        log := (m.run (part s)).log } := rfl

end Traced

instance {σ : Type} : LawfulMonad (Traced σ) := LawfulMonad.mk' (Traced σ)
  (by intro α x
      funext s
      show (x >>= fun a => pure a).run s = x.run s
      rw [Traced.run_bind]
      cases h : (x.run s).result <;> simp [← h])
  (by intro α β a f; funext s; rfl)
  (by intro α β γ x f g
      funext s
      show (x >>= f >>= g).run s = (x >>= fun a => f a >>= g).run s
      simp only [Traced.run_bind]
      cases (x.run s).result with
      | error e => rfl
      | ok a =>
        cases h : ((f a).run (x.run s).state).result <;> simp [List.append_assoc, h])

end StaticTables
