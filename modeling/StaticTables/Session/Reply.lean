import StaticTables.Session.Command

/-!
The answers of a session, and how selected rows are read for them. Rows are answered by their
identities; records are read only where the question asks for what they hold.
-/
namespace StaticTables.Session

/-- What is shown of a record. -/
inductive Shown where
  | cell (cell : Option Cell)
  | cells (cells : List Cell)

/-- What a step of reading selected rows gives. -/
inductive RowsAnswer where
  | position (row : Option RowId)
  | number (n : Nat)
  | bounds (lower upper : Nat)
  | flag (b : Bool)
  | text (s : String)
  | ids (ids : List RowId)
  | positions (rows : List (Option RowId))
  | pairs (pairs : List (RowId × Option RowId))

/-- An answer. -/
inductive Reply where
  | done
  | tableBuilt (size : Nat)
  | text (s : Option String)
  | flag (b : Bool)
  | number (n : Nat)
  | row (row : Option RowId)
  | rowList (ids : List RowId)
  | reference (row : RowId)
  | position (row : Option RowId)
  | addr (addr : RowAddr)
  | record (position : Option RowId) (shown : Option Shown)
  | records (positions : List (Option RowId)) (shown : Option (List Shown))
  /-- Selected rows, what is shown of them, and what the steps of reading them give. -/
  | rows (ids : List RowId) (shown : Option (List Shown)) (steps : Option (List RowsAnswer))
  /-- Rows with the positions of their records, and their number. -/
  | numbered (pairs : List (RowId × Option RowId))
  | pairs (pairs : List (RowId × Option RowId))
  /-- Rows and their number. -/
  | counted (ids : List RowId)
  | tableInfo (id : TableId) (name : String) (size : Nat)
  | indexInfo (table : TableId) (size : Nat) (text : String)
  | keys (type : KeyType) (keys : List type.Value)
  /-- The table and size of an index that may not be built. -/
  | builtIndex (index : Option (TableId × Nat))
  | relationshipInfo (declaration : Declaration) (source target : TableId)
  | variantInfo (name : String) (source : TableId) (isOptional : Bool)
  /-- A tag, by its text, and a row; or nothing. -/
  | variant (value : Option (String × RowId))
  | labelsInfo (size : Nat) (isTotal : Bool) (labels : List String)
  | key (key : Option ExternalKey)
  | external (record : Option ExternalRecord)
  | externalInfo (size : Nat)

/-- What is shown of a record. -/
def Display.apply (d : Display) (r : Record Fields) : Shown :=
  match d with
  | .column name => .cell (r.value.lookup name)
  | .all => .cells (r.value.map Prod.snd)

/-- The answer to a step of reading selected rows. -/
def RowsStep.apply (step : RowsStep) : Traced (Rows Fields) RowsAnswer := do
  let r ← Traced.get
  let positionOf := fun (record : Record Fields) => r.table.rowOf record
  match step with
  | .next => return .position ((← Rows.next) >>= positionOf)
  | .nextBack => return .position ((← Rows.nextBack) >>= positionOf)
  | .size => return .number r.size
  | .sizeHint => return .bounds r.sizeHint.1 r.sizeHint.2
  | .isEmpty => return .flag r.isEmpty
  | .ids => return .ids r.ids
  | .table => return .text r.table.name
  | .inspect => return .text r.inspect
  | .rest => return .positions ((← r.clone.rest).map positionOf)
  | .restBack => return .positions ((← r.clone.restBack).map positionOf)
  | .withIds => return .pairs ((← r.clone.withIds).map fun p => (p.1, positionOf p.2))
  | .withIdsBack => return .pairs ((← r.clone.withIdsBack).map fun p => (p.1, positionOf p.2))
  | .withIdsSize => return .number r.clone.withIdsSize

namespace View

/-- The answer about one record of a table. -/
def record (v : View) (table : Table Fields) (r : Option (Record Fields)) : Reply :=
  .record (r >>= table.rowOf) (do return (← v.display).apply (← r))

/-- The answer about records of a table. -/
def records (v : View) (table : Table Fields) (rs : List (Record Fields)) : Reply :=
  .records (rs.map table.rowOf) (v.display.map fun d => rs.map d.apply)

/-- The answer about selected rows: what is shown of them first, then the steps of reading. -/
def rows (v : View) (r : Rows Fields) : Except Failure Reply := do
  let shown ← v.display.mapM fun d => List.map d.apply <$> r.clone.rest
  let answers ← v.steps.mapM fun steps => ((steps.mapM RowsStep.apply).run r).result
  return .rows r.ids shown answers

end View

end StaticTables.Session
