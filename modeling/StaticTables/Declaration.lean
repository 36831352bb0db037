import StaticTables.Text.Inspect
import StaticTables.Text.Quoted

/-!
What is declared about a reference column: its name, whether several rows may point at the same
target, and whether a row may point at none.
-/
namespace StaticTables

/-- How many rows may reference the same target. -/
inductive Cardinality where
  /-- At most one row references each target. -/
  | oneToOne
  /-- Any number of rows may reference a target. -/
  | manyToOne
deriving DecidableEq

/-- Whether a row may hold no reference. -/
inductive Optionality where
  /-- Every row holds a reference. -/
  | required
  /-- A row may hold none. -/
  | optional
deriving DecidableEq

/-- The name of the cardinality. -/
def Cardinality.name : Cardinality → String
  | oneToOne => "OneToOne"
  | manyToOne => "ManyToOne"

/-- The name of the optionality. -/
def Optionality.name : Optionality → String
  | required => "Required"
  | optional => "Optional"

/-- The declaration of a reference column: many to one and required unless it says otherwise. -/
structure Declaration where
  name : String
  cardinality : Cardinality := .manyToOne
  optionality : Optionality := .required
deriving DecidableEq

namespace Declaration

/-- Whether a row may hold no reference. -/
def isOptional (s : Declaration) : Bool := s.optionality = .optional

def inspect (s : Declaration) : String :=
  Text.inspectFields "RelationshipSchema"
    [("name", Text.quote s.name), ("cardinality", s.cardinality.name),
      ("optionality", s.optionality.name)]

end Declaration

end StaticTables
