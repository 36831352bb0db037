import Mathlib
import StaticTables.Hierarchy.Basic
import StaticTables.Link.Partner
import StaticTables.Link.Variant

/-!
# Strict and trusted constructions

A construction puts what it is given through tests and stops at the first that fails. Most tests are
checks of the data, and validation says how these are met: a strict construction warns and reports
the error, a trusted one ends in a fault that names the check and the error. In all else the two go
the same way. They succeed over the same data, with the same object and the same log, and they stop
at the same test.
-/
namespace StaticTables

/-! ## Tests -/

/-- The construction under way when this check fails. -/
def Check.frame : Check → String
  | relationship => "relationship.build"
  | partner => "partner.build"
  | hierarchy => "hierarchy.build"
  | variant => "variant.build"

/-- A test that a construction makes. Where no check is named, the test is about the objects that
are given and not about their data, and validation has no bearing on it. -/
structure Test where
  check : Option Check
  verdict : Except Failure Unit

/-- The failure of the first test that does not pass, with the check that the test belongs to. -/
def firstFailure : List Test → Option (Option Check × Failure)
  | [] => none
  | t :: rest =>
    match t.verdict with
    | .ok () => firstFailure rest
    | .error failure => some (t.check, failure)

theorem firstFailure_eq_none_iff {tests : List Test} :
    firstFailure tests = none ↔ ∀ t ∈ tests, t.verdict = .ok () := by
  induction tests with
  | nil => simp [firstFailure]
  | cons t rest ih =>
    rw [List.forall_mem_cons, ← ih, firstFailure]
    cases t.verdict <;> simp

theorem not_forall_ok_of_firstFailure {tests : List Test} {first : Option Check × Failure}
    (h : firstFailure tests = some first) : ¬ ∀ t ∈ tests, t.verdict = .ok () := by
  rw [← firstFailure_eq_none_iff, h]
  exact Option.some_ne_none first

theorem firstFailure_append (tests rest : List Test) :
    firstFailure (tests ++ rest) = (firstFailure tests).or (firstFailure rest) := by
  induction tests with
  | nil => rfl
  | cons t tests ih =>
    rw [List.cons_append, firstFailure, firstFailure]
    cases t.verdict with
    | ok => exact ih
    | error failure => rfl

/-! ## Steps that are not tests -/

/-- The warnings of a log. -/
def warnings (log : List Event) : List Event := log.filter fun e => e.level = .warn

@[simp] theorem warnings_nil : warnings [] = [] := rfl

@[simp] theorem warnings_append (log rest : List Event) :
    warnings (log ++ rest) = warnings log ++ warnings rest := List.filter_append log rest

@[simp] theorem warnings_validationFailed (check : Check) (e : Error) :
    warnings [.validationFailed check e] = [.validationFailed check e] := rfl

section Steps

variable {α β : Type}

/-- The step succeeds, and it does not warn. -/
def Quiet (m : Build α) : Prop :=
  ∃ a, (m.run ()).result = .ok a ∧ warnings (m.run ()).log = []

/-- A construction ends by logging itself. -/
theorem Quiet.finish {e : Event} (h : warnings [e] = []) (a : α) :
    Quiet (Traced.emit e >>= fun _ => pure a) :=
  ⟨a, rfl, by simpa using h⟩

theorem Quiet.bind {m : Build α} {f : α → Build β} (hm : Quiet m) (hf : ∀ a, Quiet (f a)) :
    Quiet (m >>= f) := by
  obtain ⟨a, hresult, hlog⟩ := hm
  obtain ⟨b, hnext, hrest⟩ := hf a
  refine ⟨b, Traced.result_bind_eq_ok_iff.mpr ⟨a, hresult, hnext⟩, ?_⟩
  rw [Traced.run_bind, hresult]
  simp only [warnings_append, hlog, List.nil_append]
  exact hrest

/-- The index that an eager construction builds comes without a warning. -/
theorem Quiet.force {κ : Type} [IndexKey κ] (table : Table α) (l : LazyIndex α κ) :
    Quiet (Traced.settle (LazyIndex.force table) l) := by
  cases hbuilt : l.built with
  | none =>
    simp only [Quiet, LazyIndex.force, Traced.run_settle, Traced.run_bind,
      LazyIndex.run_get_of_not_built hbuilt]
    exact ⟨_, rfl, rfl⟩
  | some index =>
    simp only [Quiet, LazyIndex.force, Traced.run_settle, Traced.run_bind,
      LazyIndex.run_get_of_built hbuilt]
    exact ⟨_, rfl, rfl⟩

end Steps

/-! ## Two runs side by side -/

section Parallel

variable {α β : Type} {table column : String} {tests rest : List Test}

/-- The outcomes of a construction with these tests under strict and under trusted validation. An
error of a check gets the column `table.column` as its place. -/
inductive ParallelRuns (table column : String) (tests : List Test) :
    Outcome Unit α → Outcome Unit α → Prop
  | passed {a : α} {log : List Event} (first : firstFailure tests = none)
      (quiet : warnings log = []) :
    ParallelRuns table column tests { result := .ok a, state := (), log }
      { result := .ok a, state := (), log }
  | refused {check : Check} {e : Error} {log : List Event}
      (first : firstFailure tests = some (some check, .error e)) (quiet : warnings log = []) :
    ParallelRuns table column tests
      { result := .error (.error (e.located table column check.frame)), state := (),
        log := log ++ [.validationFailed check (e.located table column check.frame)] }
      { result := .error (.fault (.untrue check (e.located table column check.frame))),
        state := (), log }
  | stopped {check : Option Check} {failure : Failure} {log : List Event}
      (first : firstFailure tests = some (check, failure))
      (passed_on : check = none ∨ ∃ f, failure = .fault f) (quiet : warnings log = []) :
    ParallelRuns table column tests { result := .error failure, state := (), log }
      { result := .error failure, state := (), log }

namespace ParallelRuns

theorem of_check (check : Check) (verdict : Except Failure Unit) :
    ParallelRuns table column [{ check := some check, verdict }]
      ((Validation.strict.enforce check (locate table column check.frame verdict)).run ())
      ((Validation.trusted.enforce check (locate table column check.frame verdict)).run ()) := by
  cases verdict with
  | ok => exact .passed rfl rfl
  | error failure =>
    cases failure with
    | error e => exact @ParallelRuns.refused _ _ _ _ check e [] rfl rfl
    | fault f => exact .stopped rfl (.inr ⟨f, rfl⟩) rfl

theorem of_condition (verdict : Except Failure Unit) :
    ParallelRuns table column [{ check := none, verdict }]
      ((Traced.ofExcept verdict : Build Unit).run ())
      ((Traced.ofExcept verdict : Build Unit).run ()) := by
  cases verdict with
  | ok => exact .passed rfl rfl
  | error failure => exact .stopped rfl (.inl rfl) rfl

theorem of_quiet {m : Build α} (quiet : Quiet m) :
    ParallelRuns table column [] (m.run ()) (m.run ()) := by
  obtain ⟨a, hresult, hlog⟩ := quiet
  generalize m.run () = outcome at *
  obtain ⟨result, state, log⟩ := outcome
  obtain rfl : result = .ok a := hresult
  exact .passed rfl hlog

/-- What one part of a construction tests comes before what the next part does. -/
theorem bind {m m' : Build α} {f f' : α → Build β}
    (h : ParallelRuns table column tests (m.run ()) (m'.run ()))
    (hf : ∀ a, ParallelRuns table column rest ((f a).run ()) ((f' a).run ())) :
    ParallelRuns table column (tests ++ rest) ((m >>= f).run ()) ((m' >>= f').run ()) := by
  rw [Traced.run_bind, Traced.run_bind]
  generalize m.run () = strict at h ⊢
  generalize m'.run () = trusted at h ⊢
  cases h with
  | @passed a log first quiet =>
    have hfirst : firstFailure (tests ++ rest) = firstFailure rest := by
      rw [firstFailure_append, first, Option.none_or]
    have next := hf a
    simp only
    generalize (f a).run () = strict at next ⊢
    generalize (f' a).run () = trusted at next ⊢
    cases next with
    | passed second quiet' => exact .passed (hfirst.trans second) (by simp [quiet, quiet'])
    | refused second quiet' =>
      simp only [← List.append_assoc]
      exact .refused (hfirst.trans second) (by simp [quiet, quiet'])
    | stopped second passed_on quiet' =>
      exact .stopped (hfirst.trans second) passed_on (by simp [quiet, quiet'])
  | refused first quiet => exact .refused (by rw [firstFailure_append, first, Option.some_or]) quiet
  | stopped first passed_on quiet =>
    exact .stopped (by rw [firstFailure_append, first, Option.some_or]) passed_on quiet

end ParallelRuns

end Parallel

/-! ## The comparison -/

section Comparison

variable {α : Type} {table column : String} {tests : List Test} {strict trusted : Outcome Unit α}

/-- What comes of a construction under strict and under trusted validation when a check refuses the
data with this error. -/
structure RefusedBy (check : Check) (e : Error) (strict trusted : Outcome Unit α) : Prop where
  reported : strict.result = .error (.error e)
  warned : warnings strict.log = [.validationFailed check e]
  broken : ∃ f, trusted.result = .error (.fault f) ∧
    f.message = "trusted data failed " ++ check.name ++ " validation: " ++ e.message
  silent : warnings trusted.log = []
  /-- The warning comes last, after what both have logged. -/
  log_eq : strict.log = trusted.log ++ [.validationFailed check e]

/-- What comes of a construction with these tests under strict and under trusted validation. An
error of a check gets the column `table.column` as its place. -/
structure Comparison (table column : String) (tests : List Test)
    (strict trusted : Outcome Unit α) : Prop where
  succeeds_iff : (∃ a, trusted.result = .ok a) ↔ ∃ a, strict.result = .ok a
  passes_iff : (∃ a, strict.result = .ok a) ↔ ∀ t ∈ tests, t.verdict = .ok ()
  /-- Over data that passes, validation makes no difference at all. -/
  accepted : ∀ a, strict.result = .ok a → trusted = strict ∧ warnings strict.log = []
  refused : ∀ check e, firstFailure tests = some (some check, .error e) →
    RefusedBy check (e.located table column check.frame) strict trusted
  /-- What is not the error of a check ends both in the same way. -/
  passed_on : ∀ check failure, firstFailure tests = some (check, failure) →
    (check = none ∨ ∃ f, failure = .fault f) →
      strict.result = .error failure ∧ trusted = strict ∧ warnings strict.log = []

theorem ParallelRuns.comparison (h : ParallelRuns table column tests strict trusted) :
    Comparison table column tests strict trusted := by
  cases h with
  | passed first quiet =>
    exact {
      succeeds_iff := Iff.rfl
      passes_iff := by simpa using firstFailure_eq_none_iff.mp first
      accepted := fun _ _ => ⟨rfl, quiet⟩
      refused := by simp [first]
      passed_on := by simp [first] }
  | @refused check e log first quiet =>
    exact {
      succeeds_iff := by simp
      passes_iff := by simp [not_forall_ok_of_firstFailure first]
      accepted := by simp
      refused := by
        intro check' e' first'
        obtain ⟨rfl, rfl⟩ : check = check' ∧ e = e' := by simpa [first] using first'
        exact ⟨rfl, by simp [quiet], ⟨_, rfl, rfl⟩, quiet, rfl⟩
      passed_on := by
        intro check' failure first' passed_on
        obtain ⟨rfl, rfl⟩ : some check = check' ∧ .error e = failure := by
          simpa [first] using first'
        simp at passed_on }
  | @stopped check failure log first passed_on quiet =>
    exact {
      succeeds_iff := Iff.rfl
      passes_iff := by simp [not_forall_ok_of_firstFailure first]
      accepted := by simp
      refused := by
        intro check' e first'
        obtain ⟨rfl, rfl⟩ : check = some check' ∧ failure = .error e := by
          simpa [first] using first'
        simp at passed_on
      passed_on := by
        intro check' failure' first' _
        obtain ⟨rfl, rfl⟩ : check = check' ∧ failure = failure' := by simpa [first] using first'
        exact ⟨rfl, rfl, quiet⟩ }

end Comparison

/-! ## The constructions -/

section Relationship

variable {S T : Type}

/-- What the construction of a relationship tests. -/
def Relationship.tests (declaration : Declaration) (source : Table S) (target : Table T)
    (reference : S → Option (Ref T)) : List Test :=
  [{ check := some .relationship, verdict := check declaration source target reference }]

theorem Relationship.parallel_builds (eager : Bool) (declaration : Declaration) (source : Table S)
    (target : Table T) (reference : S → Option (Ref T)) :
    ParallelRuns source.name declaration.name (tests declaration source target reference)
      ((build { validation := .strict, eager } declaration source target reference).run ())
      ((build { validation := .trusted, eager } declaration source target reference).run ()) := by
  apply ParallelRuns.bind (ParallelRuns.of_check .relationship _)
  intro _
  apply ParallelRuns.of_quiet
  cases eager with
  | false => exact .finish rfl _
  | true => exact .bind (.force source _) fun _ => .finish rfl _

end Relationship

section Partner

variable {A B : Type}

/-- What the construction of a pair tests: that both sides link the tables given, and then that they
lead back. -/
def Partner.tests (forward : Relationship A B) (backward : Relationship B A) (a : Table A)
    (b : Table B) : List Test :=
  [{ check := none, verdict := sameTables forward a.id b.id },
    { check := none, verdict := sameTables backward b.id a.id },
    { check := some .partner, verdict := check forward backward a b }]

theorem Partner.parallel_builds (eager : Bool) (forward : Relationship A B)
    (backward : Relationship B A) (a : Table A) (b : Table B) :
    ParallelRuns a.name forward.name (tests forward backward a b)
      ((build { validation := .strict, eager } forward backward a b).run ())
      ((build { validation := .trusted, eager } forward backward a b).run ()) := by
  apply ParallelRuns.bind (ParallelRuns.of_condition (Partner.sameTables forward a.id b.id))
  intro _
  apply ParallelRuns.bind (ParallelRuns.of_condition (Partner.sameTables backward b.id a.id))
  intro _
  apply ParallelRuns.bind (ParallelRuns.of_check .partner _)
  intro _
  apply ParallelRuns.of_quiet
  exact .finish rfl _

end Partner

section Hierarchy

variable {α : Type}

/-- What the construction of a hierarchy tests: the parents as references into the table, and then
that they come before their children. -/
def Hierarchy.tests (name : String) (table : Table α) (parent : α → Option (Ref α)) : List Test :=
  Relationship.tests { name, optionality := .optional } table table parent ++
    [{ check := some .hierarchy, verdict := check parent table }]

theorem Hierarchy.parallel_builds (eager : Bool) (name : String) (table : Table α)
    (parent : α → Option (Ref α)) :
    ParallelRuns table.name name (tests name table parent)
      ((build { validation := .strict, eager } name table parent).run ())
      ((build { validation := .trusted, eager } name table parent).run ()) := by
  apply ParallelRuns.bind
    (Relationship.parallel_builds eager { name, optionality := .optional } table table parent)
  intro _
  apply ParallelRuns.bind (ParallelRuns.of_check .hierarchy _)
  intro _
  apply ParallelRuns.of_quiet
  exact .finish rfl _

end Hierarchy

section Variant

variable {S τ : Type} [DecidableEq τ]

/-- What the construction of a variant column tests. -/
def VariantColumn.tests (name : String) (optionality : Optionality)
    (candidates : List (Candidate τ)) (describe : τ → String) (source : Table S)
    (value : S → Option (VariantValue τ)) : List Test :=
  [{ check := some .variant, verdict := check name optionality candidates describe source value }]

theorem VariantColumn.parallel_builds (eager : Bool) (name : String) (optionality : Optionality)
    (candidates : List (Candidate τ)) (describe : τ → String) (source : Table S)
    (value : S → Option (VariantValue τ)) :
    ParallelRuns source.name name (tests name optionality candidates describe source value)
      ((build { validation := .strict, eager } name optionality candidates describe source
        value).run ())
      ((build { validation := .trusted, eager } name optionality candidates describe source
        value).run ()) := by
  apply ParallelRuns.bind (ParallelRuns.of_check .variant _)
  intro _
  apply ParallelRuns.of_quiet
  cases eager with
  | false => exact .finish rfl _
  | true => exact .bind (.force source _) fun _ => .finish rfl _

end Variant

/-! ## All constructions -/

/-- Trusted validation accepts what strict validation accepts, in every construction and whether or
not it builds its index at once. Where the first test that fails is a check, the error that strict
validation warns of and reports is the one that trusted validation names in its fault; any other
failure is the same under both. -/
theorem trusted_compared_with_strict (eager : Bool) :
    (∀ {S T : Type} (declaration : Declaration) (source : Table S) (target : Table T)
        (reference : S → Option (Ref T)),
      Comparison source.name declaration.name
        (Relationship.tests declaration source target reference)
        ((Relationship.build { validation := .strict, eager } declaration source target
          reference).run ())
        ((Relationship.build { validation := .trusted, eager } declaration source target
          reference).run ())) ∧
    (∀ {A B : Type} (forward : Relationship A B) (backward : Relationship B A) (a : Table A)
        (b : Table B),
      Comparison a.name forward.name (Partner.tests forward backward a b)
        ((Partner.build { validation := .strict, eager } forward backward a b).run ())
        ((Partner.build { validation := .trusted, eager } forward backward a b).run ())) ∧
    (∀ {α : Type} (name : String) (table : Table α) (parent : α → Option (Ref α)),
      Comparison table.name name (Hierarchy.tests name table parent)
        ((Hierarchy.build { validation := .strict, eager } name table parent).run ())
        ((Hierarchy.build { validation := .trusted, eager } name table parent).run ())) ∧
    ∀ {S τ : Type} [DecidableEq τ] (name : String) (optionality : Optionality)
        (candidates : List (Candidate τ)) (describe : τ → String) (source : Table S)
        (value : S → Option (VariantValue τ)),
      Comparison source.name name
        (VariantColumn.tests name optionality candidates describe source value)
        ((VariantColumn.build { validation := .strict, eager } name optionality candidates describe
          source value).run ())
        ((VariantColumn.build { validation := .trusted, eager } name optionality candidates describe
          source value).run ()) := by
  refine ⟨?_, ?_, ?_, ?_⟩
  · intro S T declaration source target reference
    exact (Relationship.parallel_builds eager declaration source target reference).comparison
  · intro A B forward backward a b
    exact (Partner.parallel_builds eager forward backward a b).comparison
  · intro α name table parent
    exact (Hierarchy.parallel_builds eager name table parent).comparison
  · intro S τ _ name optionality candidates describe source value
    exact (VariantColumn.parallel_builds eager name optionality candidates describe source
      value).comparison

/-- Three posts, the second with the third as its superior. -/
def posts : Table (Option RowId) where
  id := { value := 22 }
  name := "post"
  origin := 0
  rows := #[none, RowId.ofIndex? 2, RowId.ofIndex? 0]
  size_le := by decide

/-- The superiors pass as references, and then the second post is refused. -/
theorem trusted_compared_with_strict_posts :
    RefusedBy .hierarchy
      (Error.located { cause := .hierarchyOrder "post" { index := 1 } { index := 2 } } "post"
        "superior" "hierarchy.build")
      ((Hierarchy.build { validation := .strict, eager := true } "superior" posts
        (Option.map Ref.mk)).run ())
      ((Hierarchy.build { validation := .trusted, eager := true } "superior" posts
        (Option.map Ref.mk)).run ()) := by
  obtain ⟨-, -, hierarchies, -⟩ := trusted_compared_with_strict true
  exact (hierarchies "superior" posts (Option.map Ref.mk)).refused .hierarchy
    { cause := .hierarchyOrder "post" { index := 1 } { index := 2 } } rfl

end StaticTables
