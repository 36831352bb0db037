import StaticTables.Identity
import StaticTables.Text.Inspect

/-!
Errors: reports about data or a position that does not fit, which are answers like any other. An
error says what it is about and may carry the place where it arose: a table, a column, and the
constructions that were under way.
-/
namespace StaticTables

/-- Why labels, external keys or external records do not fit together. -/
inductive LabelConflict where
  /-- A label names a row that the table does not have. -/
  | outside (label : String) (row length : Nat)
  /-- Two labels name the same row. -/
  | sharedRow (first second : String) (row : Nat)
  /-- A row is named by no label. -/
  | uncovered (row : Nat)
  /-- Two labels have the same external key. -/
  | sharedKey (first second key : String)
  /-- Two external records, given by position, have the same key. -/
  | sharedRecordKey (first second : Nat)
  /-- A conflict stated in words. -/
  | stated (text : String)
deriving DecidableEq

/-- The conflict in words. -/
def LabelConflict.message : LabelConflict → String
  | outside label row length => s!"{label} names row {row} of {length}"
  | sharedRow first second row => s!"{first} and {second} both name row {row}"
  | uncovered row => s!"row {row} has no label"
  | sharedKey first second key => s!"{first} and {second} share external key {key}"
  | sharedRecordKey first second => s!"records {first} and {second} share a key"
  | stated text => text

/-- Why objects that are to be joined do not belong together. -/
inductive Misfit where
  /-- A partner side links other tables than the two given. -/
  | partnerSide (name : String) (source target expectedSource expectedTarget : TableId)
  /-- The sides of a junction belong to different tables. -/
  | junctionSides (left right : String)
  /-- A misfit stated in words. -/
  | stated (text : String)
deriving DecidableEq

/-- The misfit in words. -/
def Misfit.message : Misfit → String
  | partnerSide name source target expectedSource expectedTarget =>
    s!"partner side {name} links {source} to {target}, " ++
      s!"expected {expectedSource} to {expectedTarget}"
  | junctionSides left right => s!"junction sides {left} and {right} use different tables"
  | stated text => text

/-- What an error is about. -/
inductive Error.Cause where
  /-- A position outside the table. -/
  | outOfRange (table : String) (position length : Nat)
  /-- A reference past the end of its target table. -/
  | danglingReference (field : String) (row : RowId) (target : String) (position length : Nat)
  /-- A row without a reference in a column that requires one. -/
  | missingReference (field : String) (row : RowId)
  /-- A row whose parent does not precede it. -/
  | hierarchyOrder (table : String) (row parent : RowId)
  /-- A target referenced more often than its column allows. -/
  | cardinalityViolation (relationship : String) (target : RowId) (count : Nat)
  /-- A row whose partner does not point back at it. -/
  | asymmetricPartner (relationship : String) (row : RowId)
  /-- A row without a value in a variant column that requires one. -/
  | missingVariant (column : String) (row : RowId)
  /-- A variant value whose tag is not declared. -/
  | unknownVariant (column : String) (row : RowId) (tag : String)
  /-- Labels that are no valid naming of the rows. -/
  | labelMismatch (table : String) (conflict : LabelConflict)
  /-- A row without a label. -/
  | unlabeled (table : String) (position : Nat)
  /-- More rows than row identities. -/
  | capacity (table : String) (rows : Nat)
  /-- Objects that do not belong together. -/
  | internal (misfit : Misfit)
deriving DecidableEq

/-- The error in words. -/
def Error.Cause.message : Error.Cause → String
  | outOfRange table position length =>
    s!"position {position} out of range for table {table} (length {length})"
  | danglingReference field row target position length =>
    s!"dangling reference: {field} of row {row} points at {target}[{position}] (length {length})"
  | missingReference field row => s!"missing reference: {field} of row {row} is required"
  | hierarchyOrder table row parent =>
    s!"hierarchy order violated in {table}: row {row} has parent {parent} at or after it"
  | cardinalityViolation relationship target count =>
    s!"cardinality violation in {relationship}: target {target} referenced {count} times"
  | asymmetricPartner relationship row =>
    s!"asymmetric partner in {relationship}: row {row} is not its partner's partner"
  | missingVariant column row => s!"missing variant: {column} of row {row} is not optional"
  | unknownVariant column row tag => s!"unknown variant tag in {column} at row {row}: {tag}"
  | labelMismatch table conflict => s!"label mismatch in {table}: {conflict.message}"
  | unlabeled table position => s!"row {position} of {table} has no label"
  | capacity table rows => s!"table {table} has {rows} rows, more than a row id can address"
  | internal misfit => s!"internal error: {misfit.message}"

/-- Where an error arose. -/
structure Error.Context where
  table : Option String := none
  column : Option String := none
  /-- The constructions under way, outermost first. -/
  stack : List String := []
deriving DecidableEq

namespace Error.Context

/-- The context one construction further in. -/
def push (c : Error.Context) (frame : String) : Error.Context :=
  { c with stack := c.stack ++ [frame] }

/-- The place, named by table and column. A column without a table is not mentioned. -/
def place (c : Error.Context) : String :=
  match c.table, c.column with
  | none, _ => ""
  | some table, none => "at " ++ table
  | some table, some column => "at " ++ table ++ "." ++ column

/-- The context in words: the place, then a line for each construction. -/
def message (c : Error.Context) : String :=
  if c.stack.isEmpty then c.place
  else c.place ++ "\n" ++ String.join (c.stack.map fun frame => "  in " ++ frame ++ "\n")

end Error.Context

/-- A report about data or a position that does not fit. -/
structure Error where
  cause : Error.Cause
  /-- Where it arose, if that is known. -/
  context : Option Error.Context := none
deriving DecidableEq

namespace Error

/-- The error in words; the context is not part of it. -/
def message (e : Error) : String := e.cause.message

/-- Whether the error is about a position outside a table. -/
def isOutOfRange (e : Error) : Bool :=
  match e.cause with
  | .outOfRange .. => true
  | _ => false

/-- The error with the column it arose in and the construction under way. -/
def located (e : Error) (table column frame : String) : Error :=
  { e with context := some { table := some table, column := some column, stack := [frame] } }

end Error

end StaticTables
