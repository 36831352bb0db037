import StaticTables.Failure.Error

/-!
Faults and failures. A fault is a broken promise of the caller: a row outside its table, a table of
another identity, or trusted data that fails its check. A failure is whatever ends a computation
without a result, be it an error or a fault.
-/
namespace StaticTables

/-- The checks that data has to pass. -/
inductive Check where
  /-- References are present, in range, and as unique as declared. -/
  | relationship
  /-- Partners point at each other. -/
  | partner
  /-- Parents precede their children. -/
  | hierarchy
  /-- Variant values are present, declared and in range. -/
  | variant
deriving DecidableEq

/-- The name of the check. -/
def Check.name : Check → String
  | relationship => "relationship"
  | partner => "partner"
  | hierarchy => "hierarchy"
  | variant => "variant"

/-- The part that a table plays where its identity is compared with the expected one. -/
inductive TableRole where
  /-- The table that an index is queried with. -/
  | indexed (table : String)
  /-- The table that the references of a relationship point into. -/
  | target (relationship : String)
  /-- The table that holds a column. -/
  | source (column : String)
  /-- The table whose rows are labelled. -/
  | labeled (table : String)
deriving DecidableEq

/-- The complaint about a table of another identity in this part. -/
def TableRole.complaint : TableRole → String
  | indexed table => s!"index built over another table than {table}"
  | target relationship => s!"{relationship}: wrong target table"
  | source column => s!"{column}: wrong source table"
  | labeled table => s!"{table}: wrong table"

/-- A broken promise of the caller. -/
inductive Fault where
  /-- A row outside its table. -/
  | outOfBounds (length index : Nat)
  /-- A table of another identity than the one an object was built with. -/
  | wrongTable (role : TableRole) (expected given : TableId)
  /-- Trusted data that fails a check. -/
  | untrue (check : Check) (error : Error)
deriving DecidableEq

/-- The fault in words. -/
def Fault.message : Fault → String
  | outOfBounds length index =>
    s!"index out of bounds: the len is {length} but the index is {index}"
  | wrongTable role expected given =>
    "assertion `left == right` failed: " ++ role.complaint ++
      "\n  left: " ++ expected.inspect ++ "\n right: " ++ given.inspect
  | untrue check error => s!"trusted data failed {check.name} validation: {error.message}"

/-- What ends a computation without a result. -/
inductive Failure where
  /-- An error is reported. -/
  | error (e : Error)
  /-- A promise is found broken. -/
  | fault (f : Fault)
deriving DecidableEq

/-- The failure in words. -/
def Failure.message : Failure → String
  | error e => e.message
  | fault f => f.message

/-- Fails with an error that has no context. -/
def refuse {α : Type} (cause : Error.Cause) : Except Failure α := .error (.error { cause })

end StaticTables
