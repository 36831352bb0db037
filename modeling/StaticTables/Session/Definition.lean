import StaticTables.Session.Basic

/-!
What a session can be asked to build. Tables are given by name, columns by the names of cells.
-/
namespace StaticTables.Session

/-- A relationship to be built. -/
structure RelationshipSpec where
  declaration : Declaration
  source : String
  target : String
  column : String
  settings : Settings := {}

/-- An object to be built. -/
inductive Definition where
  | table (id : TableId) (name : String) (columns : List (String × ColumnType))
    (rows : Array Fields)
  /-- An index of a key column; of the keys present, if it is filtered. -/
  | index (table column : String) (filtered : Bool)
  /-- The same, built at its first use. -/
  | lazyIndex (table column : String) (filtered : Bool)
  | relationship (spec : RelationshipSpec)
  | partner (a b : String) (forward backward : RelationshipSpec) (settings : Settings)
  | junction (left right : RelationshipSpec)
  | hierarchy (table name column : String) (settings : Settings)
  /-- A variant column: the texts of all tags, and the lengths for those that are declared. -/
  | variant (table column name : String) (tags : List String) (lengths : List Nat)
    (optionality : Optionality) (settings : Settings)
  /-- A label map; the first so many labels are those of the enumeration. -/
  | labels (table : String) (labels : List NamedLabel) (declared : Nat) (isPartial : Bool)
  /-- External keys; the first so many labels are those of the enumeration. -/
  | keys (name : String) (labels : List NamedLabel) (declared : Nat) (keys : List ExternalKey)
  | external (name : String) (records : List ExternalRecord)

end StaticTables.Session
