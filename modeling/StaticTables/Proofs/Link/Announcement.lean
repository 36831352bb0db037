import Mathlib
import StaticTables.Link.Junction
import StaticTables.Proofs.Link.Trust
import StaticTables.Proofs.Naming.Labelling

/-!
# What constructions log

The last that a construction does before it returns its object is to log itself under a name of its
own, and nothing that it does before logs this name. So the event tells whether the object was
returned. Where a check refuses the data instead, the last in the log is a warning with the error
that is reported. Labels keep to neither in full: a map that is to have a label for every row is
logged once the labels are on their rows, whether or not all rows have one, and no refused labelling
warns.
-/
namespace StaticTables

/-! ## Events by name -/

/-- An event of this name is in the log. -/
def Logged (name : String) (log : List Event) : Prop := ∃ e ∈ log, e.name = name

variable {α β : Type} {own : String} {log rest : List Event}

@[simp] theorem not_logged_nil : ¬ Logged own [] := by simp [Logged]

@[simp] theorem logged_cons_iff {e : Event} :
    Logged own (e :: log) ↔ e.name = own ∨ Logged own log := by
  simp [Logged]

@[simp] theorem logged_append_iff :
    Logged own (log ++ rest) ↔ Logged own log ∨ Logged own rest := by
  simp [Logged, or_and_right, exists_or]

/-! ## Steps of a construction -/

/-- The step logs nothing of this name. -/
def Silent (own : String) (m : Build α) : Prop := ¬ Logged own (m.run ()).log

/-- The event is logged exactly if the object is returned. -/
def Announced (own : String) (m : Build α) : Prop :=
  Logged own (m.run ()).log ↔ ∃ a, (m.run ()).result = .ok a

theorem silent_ofExcept (r : Except Failure α) : Silent own (Traced.ofExcept r) := not_logged_nil

theorem silent_fail (failure : Failure) : Silent own (Traced.fail failure : Build α) :=
  not_logged_nil

theorem silent_enforce (h : own ≠ "validation.failed") (v : Validation) (check : Check)
    (verdict : Except Failure Unit) : Silent own (v.enforce check verdict) := by
  cases verdict with
  | ok => exact not_logged_nil
  | error failure =>
    cases failure with
    | fault f => exact not_logged_nil
    | error e =>
      cases v with
      | strict => simp [Silent, Event.name, h.symm]
      | trusted => exact not_logged_nil

theorem silent_force {κ : Type} [IndexKey κ] (hlazy : own ≠ "index.lazy_build")
    (hindex : own ≠ "index.build") (table : Table α) (l : LazyIndex α κ) :
    Silent own (Traced.settle (LazyIndex.force table) l) := by
  cases hbuilt : l.built with
  | none =>
    simp [Silent, LazyIndex.force, LazyIndex.run_get_of_not_built hbuilt, Event.name, hlazy.symm,
      hindex.symm]
  | some index =>
    simp [Silent, LazyIndex.force, LazyIndex.run_get_of_built hbuilt]

theorem silent_finish {e : Event} (h : e.name ≠ own) (a : α) :
    Silent own (Traced.emit e >>= fun _ => pure a) := by
  simp [Silent, h]

theorem Silent.bind {m : Build α} {f : α → Build β} (hm : Silent own m)
    (hf : ∀ a, Silent own (f a)) : Silent own (m >>= f) := by
  rw [Silent, Traced.run_bind]
  cases (m.run ()).result with
  | error failure => exact hm
  | ok a => exact fun hlogged => (logged_append_iff.mp hlogged).elim hm (hf a)

/-- A construction ends by logging itself. -/
theorem announced_finish {e : Event} (h : e.name = own) (a : α) :
    Announced own (Traced.emit e >>= fun _ => pure a) :=
  iff_of_true ⟨e, List.mem_append_left _ (List.mem_singleton_self e), h⟩ ⟨a, rfl⟩

theorem Announced.after {m : Build α} {f : α → Build β} (hm : Silent own m)
    (hf : ∀ a, Announced own (f a)) : Announced own (m >>= f) := by
  rw [Announced, Traced.run_bind]
  -- What comes first is silent: where it fails nothing was logged, and else the rest decides.
  cases (m.run ()).result with
  | error failure => exact iff_of_false hm (by simp)
  | ok a => exact logged_append_iff.trans ((or_iff_right hm).trans (hf a))

/-! ## Constructions that check their data -/

/-- The construction logs itself exactly if it returns its object. Where the first of its tests that
fails is a check, it warns of the error that it reports. -/
structure Accountable (own table column : String) (tests : List Test) (m : Build α) : Prop where
  announced : Announced own m
  warned : ∀ check e, firstFailure tests = some (some check, .error e) → ∃ before,
    (m.run ()).log = before ++ [.validationFailed check (e.located table column check.frame)] ∧
      (m.run ()).result = .error (.error (e.located table column check.frame))

theorem ParallelRuns.accountable {table column : String} {tests : List Test} {m m' : Build α}
    (parallel : ParallelRuns table column tests (m.run ()) (m'.run ()))
    (announced : Announced own m) : Accountable own table column tests m where
  announced := announced
  warned := by
    intro check e first
    have refused := parallel.comparison.refused check e first
    exact ⟨_, refused.log_eq, refused.reported⟩

section Links

variable {S T A B J τ : Type}

theorem Relationship.announced_build (settings : Settings) (declaration : Declaration)
    (source : Table S) (target : Table T) (reference : S → Option (Ref T)) :
    Announced "relationship.build" (build settings declaration source target reference) := by
  apply Announced.after (silent_enforce (by decide) _ _ _)
  intro _
  cases settings.eager with
  | false => exact announced_finish rfl _
  | true =>
    exact .after (silent_force (by decide) (by decide) source _) fun _ => announced_finish rfl _

/-- The relationship that a hierarchy is made of does not log the hierarchy. -/
theorem Relationship.silent_build (settings : Settings) (declaration : Declaration)
    (source : Table S) (target : Table T) (reference : S → Option (Ref T)) :
    Silent "hierarchy.build" (build settings declaration source target reference) := by
  apply Silent.bind (silent_enforce (by decide) _ _ _)
  intro _
  cases settings.eager with
  | false => exact silent_finish (by simp [Event.name]) _
  | true =>
    exact .bind (silent_force (by decide) (by decide) source _) fun _ =>
      silent_finish (by simp [Event.name]) _

theorem Partner.announced_build (settings : Settings) (forward : Relationship A B)
    (backward : Relationship B A) (a : Table A) (b : Table B) :
    Announced "partner.build" (build settings forward backward a b) := by
  apply Announced.after (silent_ofExcept (Partner.sameTables forward a.id b.id))
  intro _
  apply Announced.after (silent_ofExcept (Partner.sameTables backward b.id a.id))
  intro _
  apply Announced.after (silent_enforce (by decide) _ _ _)
  intro _
  exact announced_finish rfl _

theorem Junction.announced_build (left : Relationship J A) (right : Relationship J B) :
    Announced "junction.build" (build left right) := by
  unfold build
  split
  next other => exact .after (silent_fail _) fun _ => announced_finish rfl _
  next same => exact announced_finish rfl _

theorem Hierarchy.announced_build (settings : Settings) (name : String) (table : Table α)
    (parent : α → Option (Ref α)) :
    Announced "hierarchy.build" (build settings name table parent) := by
  apply Announced.after (Relationship.silent_build _ _ _ _ _)
  intro _
  apply Announced.after (silent_enforce (by decide) _ _ _)
  intro _
  exact announced_finish rfl _

theorem VariantColumn.announced_build [DecidableEq τ] (settings : Settings) (name : String)
    (optionality : Optionality) (candidates : List (Candidate τ)) (describe : τ → String)
    (source : Table S) (value : S → Option (VariantValue τ)) :
    Announced "variant.build"
      (build settings name optionality candidates describe source value) := by
  apply Announced.after (silent_enforce (by decide) _ _ _)
  intro _
  cases settings.eager with
  | false => exact announced_finish rfl _
  | true =>
    exact .after (silent_force (by decide) (by decide) source _) fun _ => announced_finish rfl _

end Links

/-! ## Labels -/

namespace LabelMap

variable {Λ : Type} {table : Table α} {labels : Enumeration Λ}

theorem announced_build (table : Table α) (labels : Enumeration Λ) :
    Announced "label.build" (build table labels) := by
  apply Announced.after (silent_ofExcept (place table.name labels _ labels.all))
  intro _
  exact announced_finish rfl _

/-- Whether every row has a label is asked after the map is logged, and the answer is not logged. -/
theorem log_buildTotal :
    ((buildTotal table labels).run ()).log = ((build table labels).run ()).log := by
  rw [buildTotal, Traced.run_bind]
  cases ((build table labels).run ()).result with
  | error failure => rfl
  | ok m =>
    simp only
    cases m.byPosition.findIdx? Option.isNone <;>
      simp [refuse, liftM, monadLift, MonadLift.monadLift]

theorem warnings_build : warnings ((build table labels).run ()).log = [] := by
  rw [build, Traced.run_bind]
  cases place table.name labels (Array.replicate table.size none) labels.all <;> rfl

theorem exists_buildTotal_iff :
    (∃ m, ((buildTotal table labels).run ()).result = .ok m) ↔
      labels.Distinct table.size ∧ labels.all.length = table.size := by
  simp only [buildTotal_eq_ok_iff]
  constructor
  · rintro ⟨m, hbuild, htotal⟩
    have hdistinct := exists_build_iff.mp ⟨m, hbuild⟩
    exact ⟨hdistinct, ((labels_of_build hbuild).isTotal_iff_length_eq hdistinct).mp htotal⟩
  · rintro ⟨hdistinct, hlength⟩
    obtain ⟨m, hbuild⟩ := exists_build_iff.mpr hdistinct
    exact ⟨m, hbuild, ((labels_of_build hbuild).isTotal_iff_length_eq hdistinct).mpr hlength⟩

/-- What the constructions of a map leave in the log. -/
structure Recorded (table : Table α) (labels : Enumeration Λ) : Prop where
  announced : Announced "label.build" (build table labels)
  /-- A map for every row is logged when the labels name rows of the table, each its own, and it is
  returned when there are moreover as many labels as rows. -/
  logged_iff : Logged "label.build" ((buildTotal table labels).run ()).log ↔
    labels.Distinct table.size
  returned_iff : (∃ m, ((buildTotal table labels).run ()).result = .ok m) ↔
    labels.Distinct table.size ∧ labels.all.length = table.size
  unwarned : warnings ((build table labels).run ()).log = [] ∧
    warnings ((buildTotal table labels).run ()).log = []

theorem recorded (table : Table α) (labels : Enumeration Λ) : Recorded table labels where
  announced := announced_build table labels
  logged_iff := by
    rw [log_buildTotal, ← exists_build_iff]
    exact announced_build table labels
  returned_iff := exists_buildTotal_iff
  unwarned := by
    rw [log_buildTotal]
    exact ⟨warnings_build, warnings_build⟩

end LabelMap

/-! ## All constructions -/

/-- Every strict construction logs itself exactly if it returns its object, and one that a check
refuses warns of the error right before it reports it. A map with a label for every row is logged
also where it is refused for a row without one, and refused labels are never warned of. -/
theorem constructions_log_or_warn (eager : Bool) :
    (∀ {S T : Type} (declaration : Declaration) (source : Table S) (target : Table T)
        (reference : S → Option (Ref T)),
      Accountable "relationship.build" source.name declaration.name
        (Relationship.tests declaration source target reference)
        (Relationship.build { validation := .strict, eager } declaration source target
          reference)) ∧
    (∀ {A B : Type} (forward : Relationship A B) (backward : Relationship B A) (a : Table A)
        (b : Table B),
      Accountable "partner.build" a.name forward.name (Partner.tests forward backward a b)
        (Partner.build { validation := .strict, eager } forward backward a b)) ∧
    (∀ {A B J : Type} (left : Relationship J A) (right : Relationship J B),
      Announced "junction.build" (Junction.build left right)) ∧
    (∀ {α : Type} (name : String) (table : Table α) (parent : α → Option (Ref α)),
      Accountable "hierarchy.build" table.name name (Hierarchy.tests name table parent)
        (Hierarchy.build { validation := .strict, eager } name table parent)) ∧
    (∀ {S τ : Type} [DecidableEq τ] (name : String) (optionality : Optionality)
        (candidates : List (Candidate τ)) (describe : τ → String) (source : Table S)
        (value : S → Option (VariantValue τ)),
      Accountable "variant.build" source.name name
        (VariantColumn.tests name optionality candidates describe source value)
        (VariantColumn.build { validation := .strict, eager } name optionality candidates describe
          source value)) ∧
    ∀ {α Λ : Type} (table : Table α) (labels : Enumeration Λ), LabelMap.Recorded table labels := by
  refine ⟨?_, ?_, ?_, ?_, ?_, ?_⟩
  · intro S T declaration source target reference
    exact (Relationship.parallel_builds eager declaration source target reference).accountable
      (Relationship.announced_build _ _ _ _ _)
  · intro A B forward backward a b
    exact (Partner.parallel_builds eager forward backward a b).accountable
      (Partner.announced_build _ _ _ _ _)
  · intro A B J left right
    exact Junction.announced_build left right
  · intro α name table parent
    exact (Hierarchy.parallel_builds eager name table parent).accountable
      (Hierarchy.announced_build _ _ _ _)
  · intro S τ _ name optionality candidates describe source value
    exact (VariantColumn.parallel_builds eager name optionality candidates describe source
      value).accountable (VariantColumn.announced_build _ _ _ _ _ _ _)
  · intro α Λ table labels
    exact LabelMap.recorded table labels

/-- The report about a post of which the superior stands behind it. -/
def misplacedPost (post superior : RowId) : Error :=
  Error.located { cause := .hierarchyOrder "post" post superior } "post" "superior"
    "hierarchy.build"

/-- The posts are warned of for the second of them and no hierarchy is logged, though their
superiors have been logged as references before. -/
theorem constructions_log_or_warn_posts :
    firstFailure (Hierarchy.tests "superior" posts (Option.map Ref.mk)) =
        some (some .hierarchy,
          .error { cause := (misplacedPost { index := 1 } { index := 2 }).cause }) ∧
      ¬ Logged "hierarchy.build"
        ((Hierarchy.build { validation := .strict, eager := true } "superior" posts
          (Option.map Ref.mk)).run ()).log ∧
      ∃ before, Logged "relationship.build" before ∧
        ((Hierarchy.build { validation := .strict, eager := true } "superior" posts
          (Option.map Ref.mk)).run ()).log =
          before ++
            [.validationFailed .hierarchy (misplacedPost { index := 1 } { index := 2 })] := by
  obtain ⟨-, -, -, hierarchies, -⟩ := constructions_log_or_warn true
  have accountable := hierarchies "superior" posts (Option.map Ref.mk)
  obtain ⟨before, hlog, hresult⟩ :=
    accountable.warned .hierarchy
      { cause := (misplacedPost { index := 1 } { index := 2 }).cause } rfl
  have hbuilt :
      Logged "relationship.build"
        (before ++
          [.validationFailed .hierarchy (misplacedPost { index := 1 } { index := 2 })]) :=
    hlog ▸ ⟨.relationshipBuild { name := "superior", optionality := .optional } "post" "post",
      by decide, rfl⟩
  refine ⟨rfl, fun logged => ?_, before, ?_, hlog⟩
  · obtain ⟨h, hreturned⟩ := accountable.announced.mp logged
    rw [hresult] at hreturned
    contradiction
  · simpa [Event.name] using hbuilt

namespace LabelMap

/-- A table of one hour. -/
def hours : Table Nat where
  id := { value := 26 }
  name := "hour"
  origin := 0
  rows := #[12]
  size_le := by decide

/-- No name for any hour. -/
def unnamed : Enumeration Char where
  all := []
  position _ := .first
  describe := Char.toString

/-- A map is logged, and yet it is refused for the hour that has no name, without a warning. -/
theorem build_logged_and_refused_hours :
    ((buildTotal hours unnamed).run ()).log = [.labelBuild "hour" 0 1] ∧
      ((buildTotal hours unnamed).run ()).result =
        .error (.error { cause := .labelMismatch "hour" (.uncovered 0) }) := by
  constructor
  · rw [log_buildTotal]
    rfl
  · cbv

end LabelMap

end StaticTables
