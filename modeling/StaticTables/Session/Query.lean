import StaticTables.Session.Basic

/-!
What a session can be asked. Objects are given by name, records by the table they are read from and
their row, keys by literals, tags and labels by their texts.
-/
namespace StaticTables.Session

/-- A record to be read from a table. -/
structure RecordAt where
  table : String
  row : RowId

/-- A question to a table. -/
inductive TableQuery where
  | info
  | get (position : Nat)
  | row (row : RowId)
  | resolve (reference : Ref Fields)
  | resolveOptional (reference : Option (Ref Fields))
  | reference (position : Nat)
  | addr (row : RowId)
  | rowOf (record : RecordAt)
  | records
  | recordsBack
  | rows
  | rowsBack
  | rowIds
  | rowIdsBack
  | select (ids : List RowId)
  /-- The same rows, in an array that is not the selection's own. -/
  | selectShared (ids : List RowId)

/-- A question to an index. Keys are literals, read by the key type of the index. -/
inductive IndexQuery where
  | info
  | keys
  | rowsWith (value : Json)
  | find (value : Json)
  | findFirst (value : Json)
  | contains (value : Json)
  | range (start stop : Json)
  | rangeInKeyOrder (start stop : Json)
  | countRange (start stop : Json)
  | sortedRows
  | least
  | greatest

/-- A question to a lazy index. -/
inductive LazyQuery where
  | isBuilt
  | built
  | force (table : String)

/-- A question to a relationship. -/
inductive RelationshipQuery where
  | info
  | reference (record : RecordAt)
  | targetOf (target : String) (record : RecordAt)
  | targetOfRow (source target : String) (row : RowId)
  | referrers (source : String) (row : RowId)
  | referrersOf (source target : String) (record : RecordAt)
  | countReferrers (source : String) (row : RowId)
  | unreferenced (source target : String)

/-- A question to a pair. -/
inductive PartnerQuery where
  | ofLeft (table : String) (record : RecordAt)
  | ofRight (table : String) (record : RecordAt)

/-- A question to a junction, about a row of one side. -/
inductive JunctionQuery where
  | links
  | linksBack
  | related (table : String)
  | relatedBack (table : String)
  | relatedRefs
  | relatedBackRefs

/-- A question to a hierarchy over a table. -/
inductive HierarchyQuery where
  | parent (record : RecordAt)
  | children (row : RowId)
  | roots
  /-- The ancestors of a row, at most as many as the limit. -/
  | ancestors (row : RowId) (limit : Option Nat)
  | depth (row : RowId)
  | contains (ancestor row : RowId)
  | subtree (roots : List RowId)
  | descendants (roots : List RowId)
  | subtreeByWalk (roots : List RowId)

/-- A question to a variant column over a table. Tags are given by their texts. -/
inductive VariantQuery where
  | holding (tag : String) (row : RowId)
  | tagged (tag : String)
  | countTagged (tag : String)
  | vacant

/-- A question to a label map. Labels are given by their texts. -/
inductive LabelQuery where
  | info
  | labelAt (position : Nat)
  | rowOf (label : String)
  | recordOf (table label : String)
  | labelOf (table : String) (record : RecordAt)

/-- A question to external keys. -/
inductive KeyQuery where
  | keyOf (label : String)
  | labelOf (key : ExternalKey)
  | findRecord (label : String) (records : List ExternalRecord)

/-- A question to indexed external records. -/
inductive ExternalQuery where
  | info
  | record (key : ExternalKey)
  | recordOf (keys label : String)

/-- An index by its name, or as the reverse index of a relationship. -/
inductive IndexPath where
  | object (name : String)
  /-- The reverse index of the relationship at a path. -/
  | reverse (relationship : Path)

/-- A question to a named object. -/
inductive Query where
  | inspect (on : Path)
  | table (on : String) (query : TableQuery)
  /-- A question to an index, over a table and possibly read from another one. -/
  | index (on : IndexPath) (table other : Option String) (query : IndexQuery)
  | lazyIndex (on : String) (query : LazyQuery)
  | relationship (on : Path) (query : RelationshipQuery)
  | partner (on : String) (query : PartnerQuery)
  | junction (on junction : String) (row : RowId) (query : JunctionQuery)
  | parentRef (on : String) (record : RecordAt)
  | hierarchy (on table : String) (query : HierarchyQuery)
  | variantInfo (on : String)
  | variantOf (on : String) (record : RecordAt)
  | variant (on table : String) (query : VariantQuery)
  | labels (on : String) (query : LabelQuery)
  | keys (on : String) (query : KeyQuery)
  | external (on : String) (query : ExternalQuery)

end StaticTables.Session
