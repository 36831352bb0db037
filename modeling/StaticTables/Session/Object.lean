import StaticTables.Hierarchy.Ancestors
import StaticTables.Hierarchy.Spread
import StaticTables.Hierarchy.Walk
import StaticTables.Link.Junction
import StaticTables.Link.Partner
import StaticTables.Naming.KeyedRecords
import StaticTables.Session.Cell

/-!
The objects that a session can hold, all of them over records of named cells.
-/
namespace StaticTables.Session

/-- A label by its place in the list that declared it. -/
structure NamedLabel where
  ordinal : Nat
  text : String
  row : RowId
deriving DecidableEq, Hashable

/-- A key of external records. A number and a text are never the same key. -/
inductive ExternalKey where
  | number (n : Int)
  | text (s : String)
deriving DecidableEq, Hashable

def ExternalKey.inspect : ExternalKey → String
  | number n => toString n
  | text s => Text.quote s

/-- An external record: its key, and what else it holds. -/
structure ExternalRecord where
  key : ExternalKey
  payload : Json

/-- An object of a session. -/
inductive Object where
  | table (columns : List (String × ColumnType)) (table : Table Fields)
  | index (type : KeyType) (index : Index type.Value)
  | lazyIndex (type : KeyType) (index : LazyIndex Fields type.Value)
  | relationship (relationship : Relationship Fields Fields)
  | partner (partner : Partner Fields Fields)
  | junction (junction : Junction Fields Fields Fields)
  | hierarchy (hierarchy : Hierarchy Fields)
  /-- A variant column with the texts of its tags, by number. -/
  | variant (tags : List String) (column : VariantColumn Fields Nat)
  /-- A label map with every label that exists. -/
  | labels (labels : List NamedLabel) (map : LabelMap NamedLabel)
  /-- External keys with every label that exists. -/
  | keys (labels : List NamedLabel)
    (keys : LabelKeys NamedLabel ExternalKey)
  | external (index : KeyedRecords ExternalKey ExternalRecord)

end StaticTables.Session
