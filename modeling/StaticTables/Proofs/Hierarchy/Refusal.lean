import Mathlib
import StaticTables.Proofs.Hierarchy.Forest
import StaticTables.Proofs.Link.Validity

/-!
# Refused parent columns

The parents of a hierarchy are checked twice. First they have to lie in the table at all, like any
other references, and only then each of them has to stand before its child. So a parent outside the
table is reported before any that is merely in the wrong place, however far up that one stands.
-/
namespace StaticTables.Hierarchy

variable {α : Type}

/-! ## What parents have to keep to -/

/-- The parents of these records lie in the table. -/
def ParentsInside (parent : α → Option (Ref α)) (table : Table α) (l : List (Record α)) : Prop :=
  ∀ r ∈ l, ∀ up, parent r.value = some up → up.index < table.size

/-- The parents of these records stand before them. -/
def ParentsFirst (parent : α → Option (Ref α)) (l : List (Record α)) : Prop :=
  ∀ r ∈ l, ∀ up, parent r.value = some up → up.row < r.row

/-- What a refused construction reports: the first parent outside the table if there is one, and
otherwise the first that does not stand before its child. -/
inductive Refusal (name : String) (table : Table α) (parent : α → Option (Ref α)) : Error → Prop
  | dangling {before after : List (Record α)} {r : Record α} {up : Ref α}
      (records_eq : table.records = before ++ r :: after) (holds : parent r.value = some up)
      (outside : table.size ≤ up.index) (before_inside : ParentsInside parent table before) :
    Refusal name table parent
      (Error.located { cause := .danglingReference name r.row table.name up.index table.size }
        table.name name "relationship.build")
  | misplaced {before after : List (Record α)} {r : Record α} {up : Ref α}
      (inside : ParentsInside parent table table.records)
      (records_eq : table.records = before ++ r :: after) (holds : parent r.value = some up)
      (not_before : r.row ≤ up.row) (before_first : ParentsFirst parent before) :
    Refusal name table parent
      (Error.located { cause := .hierarchyOrder table.name r.row up.row } table.name name
        "hierarchy.build")

section Checks

variable {name : String} {table : Table α} {parent : α → Option (Ref α)}

/-- Of the violations of a column only a reference that dangles can befall a parent column. -/
theorem column_cases (name : String) (table : Table α) (parent : α → Option (Ref α)) :
    (ParentsInside parent table table.records ∧
        Relationship.check { name, optionality := .optional } table table parent = .ok ()) ∨
      ∃ before r after up, table.records = before ++ r :: after ∧
        ParentsInside parent table before ∧ parent r.value = some up ∧ table.size ≤ up.index ∧
        Relationship.check { name, optionality := .optional } table table parent =
          refuse (.danglingReference name r.row table.name up.index table.size) := by
  rcases Relationship.check_cases { name, optionality := .optional } table table parent with
    ⟨valid, hcheck⟩ | ⟨before, r, after, cause, hrecords, valid, violation, hcheck⟩
  · exact .inl ⟨valid.inside, hcheck⟩
  · cases violation with
    | missing _ required => exact absurd required Bool.noConfusion
    | dangling holds past =>
      exact .inr ⟨before, r, after, _, hrecords, valid.inside, holds, past, hcheck⟩
    | repeated _ _ one => exact absurd one Cardinality.noConfusion

theorem check_cases (table : Table α) (parent : α → Option (Ref α)) :
    (ParentsFirst parent table.records ∧ check parent table = .ok ()) ∨
      ∃ before r after up, table.records = before ++ r :: after ∧ ParentsFirst parent before ∧
        parent r.value = some up ∧ r.row ≤ up.row ∧
        check parent table = refuse (.hierarchyOrder table.name r.row up.row) := by
  by_cases hmisplaced : ∃ r ∈ table.records, ∃ up, parent r.value = some up ∧ r.row ≤ up.row
  · obtain ⟨before, r, after, hrecords, ⟨up, hup, hle⟩, hbefore⟩ := exists_first hmisplaced
    have hfirst : ParentsFirst parent before := fun q hq other hother =>
      Nat.lt_of_not_le fun hle => hbefore q hq ⟨other, hother, hle⟩
    refine .inr ⟨before, r, after, up, hrecords, hfirst, hup, hle, ?_⟩
    unfold check
    rw [hrecords]
    refine forM_eq_error_of_first (fun q hq => verdict_eq_ok_iff.mpr (hfirst q hq)) ?_
    rw [hup]
    exact if_pos hle
  · have hfirst : ParentsFirst parent table.records := fun q hq up hup =>
      Nat.lt_of_not_le fun hle => hmisplaced ⟨q, hq, up, hup, hle⟩
    exact .inl ⟨hfirst, check_eq_ok_iff.mpr hfirst⟩

/-- Parents that stand before their children lie in the table. -/
theorem ParentsFirst.inside (hfirst : ParentsFirst parent table.records) :
    ParentsInside parent table table.records := fun r hr up hup =>
  Nat.lt_trans (hfirst r hr up hup) (Table.lt_size_of_record (Table.mem_records_iff.mp hr))

end Checks

/-! ## Construction -/

section Build

variable {settings : Settings} {name : String} {table : Table α} {parent : α → Option (Ref α)}

theorem result_build_of_refuse_column {cause : Error.Cause} (strict : settings.validation = .strict)
    (h : Relationship.check { name, optionality := .optional } table table parent = refuse cause) :
    ((build settings name table parent).run ()).result =
      .error (.error (Error.located { cause } table.name name "relationship.build")) := by
  refine Traced.result_bind_of_error ?_
  rw [Relationship.run_build_of_refuse strict h]

theorem result_build_of_refuse_order {cause : Error.Cause} (strict : settings.validation = .strict)
    (hcolumn : Relationship.check { name, optionality := .optional } table table parent = .ok ())
    (h : check parent table = refuse cause) :
    ((build settings name table parent).run ()).result =
      .error (.error (Error.located { cause } table.name name "hierarchy.build")) := by
  unfold build
  rw [Traced.run_bind, Relationship.run_build_of_valid hcolumn]
  refine Traced.result_bind_of_error ?_
  rw [strict, Validation.run_enforce_strict_of_error h]

theorem build_cases (strict : settings.validation = .strict) (name : String) (table : Table α)
    (parent : α → Option (Ref α)) :
    (ParentsFirst parent table.records ∧
        ∃ h, ((build settings name table parent).run ()).result = .ok h) ∨
      ¬ ParentsFirst parent table.records ∧
        ∃ e, Refusal name table parent e ∧
          ((build settings name table parent).run ()).result = .error (.error e) := by
  rcases column_cases name table parent with
    ⟨hinside, hcolumn⟩ | ⟨before, r, after, up, hrecords, hbefore, hup, hout, hcolumn⟩
  · rcases check_cases table parent with
      ⟨hfirst, hcheck⟩ | ⟨before, r, after, up, hrecords, hbefore, hup, hle, hcheck⟩
    · exact .inl ⟨hfirst, _, result_build_eq_ok_iff.mpr ⟨⟨hcolumn, hcheck⟩, rfl⟩⟩
    · have hr : r ∈ table.records := hrecords ▸ List.mem_append_right _ List.mem_cons_self
      refine .inr ⟨fun hfirst => ?_, _, .misplaced hinside hrecords hup hle hbefore,
        result_build_of_refuse_order strict hcolumn hcheck⟩
      exact absurd (hfirst r hr up hup) (Nat.not_lt.mpr hle)
  · -- the order is not looked at when a parent lies outside
    have hr : r ∈ table.records := hrecords ▸ List.mem_append_right _ List.mem_cons_self
    refine .inr ⟨fun hfirst => ?_, _, .dangling hrecords hup hout hbefore,
      result_build_of_refuse_column strict hcolumn⟩
    exact absurd (hfirst.inside r hr up hup) (Nat.not_lt.mpr hout)

/-- A strict construction succeeds exactly if every parent stands before its child. One that is
refused reports the first parent outside the table, or, if there is none, the first in the wrong
place. -/
theorem build_reports_outside_then_misplaced (strict : settings.validation = .strict)
    (name : String) (table : Table α) (parent : α → Option (Ref α)) :
    ((∃ h, ((build settings name table parent).run ()).result = .ok h) ↔
        ∀ r ∈ table.records, ∀ up, parent r.value = some up → up.row < r.row) ∧
      ∀ failure, ((build settings name table parent).run ()).result = .error failure →
        ∃ e, Refusal name table parent e ∧ failure = .error e := by
  rcases build_cases strict name table parent with
    ⟨hfirst, h, hbuild⟩ | ⟨hnot, e, refusal, hbuild⟩
  · rw [hbuild]
    refine ⟨iff_of_true ⟨h, rfl⟩ hfirst, fun failure hfailure => ?_⟩
    contradiction
  · rw [hbuild]
    refine ⟨iff_of_false (by simp) hnot, fun failure hfailure => ⟨e, refusal, ?_⟩⟩
    exact (Except.error.inj hfailure).symm

end Build

/-- Five parts of a document. The second comes before its parent, the fourth names a parent that
does not exist, and the fifth is its own parent. -/
def misfiled : Table (Option RowId) where
  id := { value := 17 }
  name := "part"
  origin := 0
  rows := #[none, RowId.ofIndex? 2, RowId.ofIndex? 0, RowId.ofIndex? 7, RowId.ofIndex? 4]
  size_le := by decide

/-- The report about a part of which the parent would be the eighth. -/
def missingPart (part : RowId) : Error :=
  Error.located { cause := .danglingReference "parent" part "part" 7 5 } "part" "parent"
    "relationship.build"

/-- The parent that does not exist is reported, though a part further up is in the wrong place. -/
theorem build_reports_outside_then_misplaced_parts :
    Settings.validation {} = .strict ∧
      ((build {} "parent" misfiled (Option.map Ref.mk)).run ()).result =
        .error (.error (missingPart { index := 3 })) ∧
      Refusal "parent" misfiled (Option.map Ref.mk) (missingPart { index := 3 }) := by
  have refused : ((build {} "parent" misfiled (Option.map Ref.mk)).run ()).result =
      .error (.error (missingPart { index := 3 })) := rfl
  have reports := @build_reports_outside_then_misplaced _ {} rfl "parent" misfiled
    (Option.map Ref.mk)
  obtain ⟨e, refusal, hreported⟩ := reports.2 _ refused
  obtain rfl := Failure.error.inj hreported
  exact ⟨rfl, refused, refusal⟩

end StaticTables.Hierarchy
