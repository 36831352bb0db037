import Mathlib
import StaticTables.Proofs.Hierarchy.Refusal
import StaticTables.Proofs.Link.Pairing
import StaticTables.Proofs.Link.VariantConstruction

/-!
# The place of an error

The error of a check says what is wrong with a row, and its context names a table and a column.
For relationships, hierarchies and variant columns these are the table in which the row lies and the
column that was checked. A pair checks two columns, and whichever of them is at fault, the context
is that of the forward one.
-/
namespace StaticTables

/-! ## What an error says -/

/-- The row that is reported, as one of the table with the checked column. Of a shared target it is
the row pointed at that is reported, which lies in another table. -/
def Error.Cause.row? : Error.Cause → Option RowId
  | danglingReference _ row _ _ _ | missingReference _ row | hierarchyOrder _ row _
  | asymmetricPartner _ row | missingVariant _ row | unknownVariant _ row _ => some row
  | _ => none

/-- The column that is reported. -/
def Error.Cause.column? : Error.Cause → Option String
  | danglingReference column _ _ _ _ | missingReference column _ | cardinalityViolation column _ _
  | asymmetricPartner column _ | missingVariant column _ | unknownVariant column _ _ => some column
  | _ => none

/-- The error is about a row of this table, in which something is wrong, and its context names the
table and the column. So does the cause, as far as it names anything. -/
structure Error.PointsAt {α : Type} (e : Error) (table : Table α) (column : String)
    (Wrong : Record α → Error.Cause → Prop) : Prop where
  context_eq : ∃ frame,
    e.context = some { table := some table.name, column := some column, stack := [frame] }
  row_eq : ∃ r ∈ table.records, Wrong r e.cause ∧ ∀ row, e.cause.row? = some row → row = r.row
  column_eq : ∀ name, e.cause.column? = some name → name = column

theorem Error.pointsAt_located {α : Type} {table : Table α} {column frame : String}
    {Wrong : Record α → Error.Cause → Prop} {cause : Error.Cause} {r : Record α}
    (hr : r ∈ table.records) (wrong : Wrong r cause)
    (hrow : ∀ row, cause.row? = some row → row = r.row)
    (hcolumn : ∀ name, cause.column? = some name → name = column) :
    (Error.located { cause } table.name column frame).PointsAt table column Wrong where
  context_eq := ⟨frame, rfl⟩
  row_eq := ⟨r, hr, wrong, hrow⟩
  column_eq := hcolumn

/-! ## Relationships -/

namespace Relationship

variable {S T : Type} {settings : Settings} {declaration : Declaration} {source : Table S}
  {target : Table T} {reference : S → Option (Ref T)}

/-- What is wrong with a record of a column, behind those before it. -/
def Offends (declaration : Declaration) (source : Table S) (target : Table T)
    (reference : S → Option (Ref T)) (s : Record S) (cause : Error.Cause) : Prop :=
  ∃ before after, source.records = before ++ s :: after ∧
    Violation declaration target reference before s cause

theorem Violation.row_eq {before : List (Record S)} {s : Record S} {cause : Error.Cause}
    (violation : Violation declaration target reference before s cause) :
    ∀ row, cause.row? = some row → row = s.row := by
  intro row hrow
  cases violation with
  | missing => exact (Option.some.inj hrow).symm
  | dangling => exact (Option.some.inj hrow).symm
  | repeated => contradiction

theorem Violation.column_eq {before : List (Record S)} {s : Record S} {cause : Error.Cause}
    (violation : Violation declaration target reference before s cause) :
    ∀ name, cause.column? = some name → name = declaration.name := by
  intro name hname
  cases violation <;> exact (Option.some.inj hname).symm

theorem build_error_pointsAt (strict : settings.validation = .strict) {e : Error}
    (refused : ((build settings declaration source target reference).run ()).result =
      .error (.error e)) :
    e.PointsAt source declaration.name (Offends declaration source target reference) := by
  rcases check_cases declaration source target reference with
    ⟨-, hcheck⟩ | ⟨before, s, after, cause, hrecords, -, violation, hcheck⟩
  · rw [run_build_of_valid hcheck] at refused
    contradiction
  · rw [run_build_of_refuse strict hcheck] at refused
    obtain rfl := Failure.error.inj (Except.error.inj refused)
    have hs : s ∈ source.records := hrecords ▸ List.mem_append_right _ List.mem_cons_self
    exact Error.pointsAt_located hs ⟨before, after, hrecords, violation⟩ violation.row_eq
      violation.column_eq

end Relationship

/-! ## Hierarchies -/

namespace Hierarchy

variable {α : Type} {settings : Settings} {name : String} {table : Table α}
  {parent : α → Option (Ref α)}

/-- What is wrong with a record of a parent column. -/
inductive Offends (name : String) (table : Table α) (parent : α → Option (Ref α)) (r : Record α) :
    Error.Cause → Prop
  | dangling {up : Ref α} (holds : parent r.value = some up) (outside : table.size ≤ up.index) :
    Offends name table parent r
      (.danglingReference name r.row table.name up.index table.size)
  | misplaced {up : Ref α} (holds : parent r.value = some up) (not_before : r.row ≤ up.row) :
    Offends name table parent r (.hierarchyOrder table.name r.row up.row)

theorem Refusal.pointsAt {e : Error} (refusal : Refusal name table parent e) :
    e.PointsAt table name (Offends name table parent) := by
  cases refusal with
  | dangling records_eq holds outside =>
    exact Error.pointsAt_located (records_eq ▸ List.mem_append_right _ List.mem_cons_self)
      (.dangling holds outside) (fun row hrow => (Option.some.inj hrow).symm)
      fun other hother => (Option.some.inj hother).symm
  | misplaced _ records_eq holds not_before =>
    exact Error.pointsAt_located (records_eq ▸ List.mem_append_right _ List.mem_cons_self)
      (.misplaced holds not_before) (fun row hrow => (Option.some.inj hrow).symm)
      fun other hother => nomatch hother

theorem build_error_pointsAt (strict : settings.validation = .strict) {e : Error}
    (refused : ((build settings name table parent).run ()).result = .error (.error e)) :
    e.PointsAt table name (Offends name table parent) := by
  rcases build_cases strict name table parent with ⟨-, h, hbuild⟩ | ⟨-, e', refusal, hbuild⟩
  · rw [hbuild] at refused
    contradiction
  · rw [hbuild] at refused
    obtain rfl := Failure.error.inj (Except.error.inj refused)
    exact refusal.pointsAt

end Hierarchy

/-! ## Variant columns -/

namespace VariantColumn

variable {S τ : Type} [DecidableEq τ] {settings : Settings} {name : String}
  {optionality : Optionality} {candidates : List (Candidate τ)} {describe : τ → String}
  {source : Table S} {value : S → Option (VariantValue τ)}

omit [DecidableEq τ] in
theorem Flaw.row_eq {row : RowId} {v : Option (VariantValue τ)} {cause : Error.Cause}
    (flaw : Flaw name optionality candidates describe row v cause) :
    ∀ reported, cause.row? = some reported → reported = row := by
  intro reported hreported
  cases flaw <;> exact (Option.some.inj hreported).symm

omit [DecidableEq τ] in
theorem Flaw.column_eq {row : RowId} {v : Option (VariantValue τ)} {cause : Error.Cause}
    (flaw : Flaw name optionality candidates describe row v cause) :
    ∀ reported, cause.column? = some reported → reported = name := by
  intro reported hreported
  cases flaw <;> exact (Option.some.inj hreported).symm

theorem build_error_pointsAt (strict : settings.validation = .strict) {e : Error}
    (refused : ((build settings name optionality candidates describe source value).run ()).result =
      .error (.error e)) :
    e.PointsAt source name fun s cause =>
      Flaw name optionality candidates describe s.row (value s.value) cause := by
  cases hcheck : check name optionality candidates describe source value with
  | ok =>
    rw [result_build_of_valid hcheck] at refused
    contradiction
  | error failure =>
    obtain ⟨before, s, after, hrecords, -, hvalue⟩ := forM_eq_error_iff.mp hcheck
    rcases checkValue_fits_or_flaw s.row (value s.value) with ⟨-, hok⟩ | ⟨cause, flaw, hrefuse⟩
    · rw [hok] at hvalue
      contradiction
    · obtain rfl := Except.error.inj (hrefuse.symm.trans hvalue)
      rw [result_build_of_refuse strict hcheck] at refused
      obtain rfl := Failure.error.inj (Except.error.inj refused)
      have hs : s ∈ source.records := hrecords ▸ List.mem_append_right _ List.mem_cons_self
      exact Error.pointsAt_located hs flaw flaw.row_eq flaw.column_eq

end VariantColumn

/-! ## Pairs -/

namespace Partner

variable {A B : Type} {settings : Settings} {forward : Relationship A B}
  {backward : Relationship B A} {a : Table A} {b : Table B}

/-- What is wrong with a record that is not led back to. -/
def Offends (there : Relationship A B) (back : Relationship B A) (target : Table B) (r : Record A)
    (cause : Error.Cause) : Prop :=
  Obstacle there back target r (.error { cause })

/-- Where the error of a pair points. That of a forward column is in its place. That of a backward
column is about a row of `b`, and yet its context is that of the forward column. -/
inductive Placed (forward : Relationship A B) (backward : Relationship B A) (a : Table A)
    (b : Table B) (e : Error) : Prop
  | forward (pointsAt : e.PointsAt a forward.name (Offends forward backward b))
  | backward (passed : ∀ r ∈ a.records, LeadsBack forward backward b r)
      (record : ∃ r ∈ b.records, Offends backward forward a r e.cause ∧
        e.cause = .asymmetricPartner backward.name r.row)
      (context_eq : e.context =
        some { table := a.name, column := forward.name, stack := ["partner.build"] })
      (pointsAt_iff : e.PointsAt b backward.name (Offends backward forward a) ↔
        a.name = b.name ∧ forward.name = backward.name)

theorem Obstacle.cause_eq {r : Record A} {e : Error}
    (obstacle : Obstacle forward backward b r (.error e)) :
    e = { cause := .asymmetricPartner forward.name r.row } := by
  cases obstacle
  rfl

theorem StopsAt.exists_offends {e : Error} (h : StopsAt forward backward a b (.error e)) :
    ∃ r ∈ a.records, Offends forward backward b r (.asymmetricPartner forward.name r.row) ∧
      e = { cause := .asymmetricPartner forward.name r.row } := by
  obtain ⟨before, r, after, hrecords, -, obstacle⟩ := h
  obtain rfl := obstacle.cause_eq
  exact ⟨r, hrecords ▸ List.mem_append_right _ List.mem_cons_self, obstacle, rfl⟩

theorem build_error_placed (strict : settings.validation = .strict)
    (hthere : sameTables forward a.id b.id = .ok ())
    (hback : sameTables backward b.id a.id = .ok ()) {e : Error}
    (refused : ((build settings forward backward a b).run ()).result = .error (.error e)) :
    Placed forward backward a b e := by
  obtain ⟨e₀, stops, rfl⟩ := (result_build_eq_error_iff strict hthere hback).mp refused
  rcases stops with hstop | ⟨passed, hstop⟩
  · obtain ⟨r, hr, offends, rfl⟩ := hstop.exists_offends
    exact .forward (Error.pointsAt_located hr offends
      (fun row hrow => (Option.some.inj hrow).symm) fun name hname => (Option.some.inj hname).symm)
  -- The row is one of `b`, and the place is given to the error without regard to which scan it was.
  · obtain ⟨r, hr, offends, rfl⟩ := hstop.exists_offends
    refine .backward passed ⟨r, hr, offends, rfl⟩ rfl ⟨fun pointsAt => ?_, fun same => ?_⟩
    · obtain ⟨frame, hcontext⟩ := pointsAt.context_eq
      simpa [Error.located] using And.intro
        (congrArg Error.Context.table (Option.some.inj hcontext))
        (congrArg Error.Context.column (Option.some.inj hcontext))
    · rw [same.1, same.2]
      exact Error.pointsAt_located hr offends
        (fun row hrow => (Option.some.inj hrow).symm) fun name hname => (Option.some.inj hname).symm

end Partner

/-! ## All constructions -/

/-- The error of a strict construction points at the checked column of the table that holds it, in
every construction that checks a single column. The error of a pair points at the forward column,
and so it misleads when the backward one is at fault, unless their names and those of the tables are
the same. -/
theorem errors_point_at_column {settings : Settings} (strict : settings.validation = .strict) :
    (∀ {S T : Type} (declaration : Declaration) (source : Table S) (target : Table T)
        (reference : S → Option (Ref T)) (e : Error),
      ((Relationship.build settings declaration source target reference).run ()).result =
          .error (.error e) →
        e.PointsAt source declaration.name
          (Relationship.Offends declaration source target reference)) ∧
    (∀ {α : Type} (name : String) (table : Table α) (parent : α → Option (Ref α)) (e : Error),
      ((Hierarchy.build settings name table parent).run ()).result = .error (.error e) →
        e.PointsAt table name (Hierarchy.Offends name table parent)) ∧
    (∀ {S τ : Type} [DecidableEq τ] (name : String) (optionality : Optionality)
        (candidates : List (Candidate τ)) (describe : τ → String) (source : Table S)
        (value : S → Option (VariantValue τ)) (e : Error),
      ((VariantColumn.build settings name optionality candidates describe source value).run
          ()).result = .error (.error e) →
        e.PointsAt source name fun s cause =>
          VariantColumn.Flaw name optionality candidates describe s.row (value s.value) cause) ∧
    ∀ {A B : Type} (forward : Relationship A B) (backward : Relationship B A) (a : Table A)
        (b : Table B),
      Partner.sameTables forward a.id b.id = .ok () →
        Partner.sameTables backward b.id a.id = .ok () →
          ∀ e, ((Partner.build settings forward backward a b).run ()).result = .error (.error e) →
            Partner.Placed forward backward a b e := by
  refine ⟨?_, ?_, ?_, ?_⟩
  · intro S T declaration source target reference e refused
    exact Relationship.build_error_pointsAt strict refused
  · intro α name table parent e refused
    exact Hierarchy.build_error_pointsAt strict refused
  · intro S τ _ name optionality candidates describe source value e refused
    exact VariantColumn.build_error_pointsAt strict refused
  · intro A B forward backward a b hthere hback e refused
    exact Partner.build_error_placed strict hthere hback refused

namespace Partner

/-- A man who is not married. -/
def men : Table (Option RowId) where
  id := { value := 24 }
  name := "man"
  origin := 0
  rows := #[none]
  size_le := by decide

/-- A woman who claims to be married to him. -/
def women : Table (Option RowId) where
  id := { value := 25 }
  name := "woman"
  origin := 1
  rows := #[RowId.ofIndex? 0]
  size_le := by decide

def wife : Relationship (Option RowId) (Option RowId) :=
  Relationship.ofValid {} { name := "wife", optionality := .optional } men women (Option.map Ref.mk)

def husband : Relationship (Option RowId) (Option RowId) :=
  Relationship.ofValid {} { name := "husband", optionality := .optional } women men
    (Option.map Ref.mk)

/-- The report about the woman, with the place that a pair gives it. -/
def unansweredWoman : Error :=
  Error.located { cause := .asymmetricPartner "husband" .first } "man" "wife" "partner.build"

theorem errors_point_at_column_women :
    Settings.validation {} = .strict ∧ sameTables wife men.id women.id = .ok () ∧
      sameTables husband women.id men.id = .ok () ∧
      ((build {} wife husband men women).run ()).result = .error (.error unansweredWoman) ∧
      Placed wife husband men women unansweredWoman := by
  have refused :
      ((build {} wife husband men women).run ()).result = .error (.error unansweredWoman) := rfl
  obtain ⟨-, -, -, pairs⟩ := @errors_point_at_column {} rfl
  exact ⟨rfl, rfl, rfl, refused, pairs wife husband men women rfl rfl _ refused⟩

/-- The only row that is at fault is the woman's, in the column of husbands, and what is named is
the table of men and the column of wives. -/
theorem error_misplaced_women :
    wife.BuiltOver men women ∧ husband.BuiltOver women men ∧
      ((build {} wife husband men women).run ()).result =
        .error (.error { cause := .asymmetricPartner "husband" { index := 0 }
                         context := some { table := "man", column := "wife"
                                           stack := ["partner.build"] } }) ∧
      (∀ r ∈ men.records, LeadsBack wife husband women r) ∧
      ¬ unansweredWoman.PointsAt women "husband" (Offends husband wife men) := by
  refine ⟨⟨_, _, _, Relationship.result_build_eq_ok_iff.mpr ⟨rfl, rfl⟩⟩,
    ⟨_, _, _, Relationship.result_build_eq_ok_iff.mpr ⟨rfl, rfl⟩⟩, rfl,
    symmetric_eq_ok_iff_leadsBack.mp rfl, fun pointsAt => ?_⟩
  obtain ⟨frame, hcontext⟩ := pointsAt.context_eq
  have hcolumn : some "wife" = some "husband" :=
    congrArg Error.Context.column (Option.some.inj hcontext)
  exact absurd hcolumn (by decide)

end Partner

end StaticTables
