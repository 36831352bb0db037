import StaticTables.Session.Action

/-!
Questions to tables and indices. A query that needs a lazy index builds it on the way, over the
first table that it is given; the table that records are read from may be another one and is looked
up after that.
-/
namespace StaticTables.Session

def answerTable (v : View) (t : Table Fields) : TableQuery → Action Reply
  | .info => return .tableInfo t.id t.name t.size
  | .get position => return v.record t (some (← t.get position))
  | .row row => return v.record t (some (← t.row row))
  | .resolve reference => return v.record t (some (← t.resolve reference))
  | .resolveOptional reference => return v.record t (← t.resolve? reference)
  | .reference position => return .reference (← t.reference position).row
  | .addr row => return .addr (t.addr row)
  | .rowOf record => return .position (t.rowOf (← Action.record record))
  | .records => return v.records t t.records
  | .recordsBack => return v.records t t.records.reverse
  | .rows => return .numbered (t.records.map fun r => (r.row, t.rowOf r))
  | .rowsBack => return .pairs (t.records.reverse.map fun r => (r.row, t.rowOf r))
  | .rowIds => return .counted t.rowIds
  | .rowIdsBack => return .rowList t.rowIds.reverse
  | .select ids => v.rows (Rows.ofList t ids)
  | .selectShared ids => v.rows (Rows.ofArray t ids.toArray)

/-- The key that a literal stands for. -/
def readKey (type : KeyType) (v : Json) : Except Refusal type.Value :=
  match type.read v with
  | some k => .ok k
  | none => .error .unfit

/-- The table that the records of an answer are read from. -/
def given (t : Option (Table Fields)) : Except Refusal (Table Fields) :=
  match t with
  | some t => .ok t
  | none => .error .noSuchObject

/-- Answers a question to an index. The questions that hand out records need a table. -/
def answerIndex (v : View) (table : Option (Table Fields)) (type : KeyType)
    (i : Index type.Value) : IndexQuery → Action Reply
  | .info => return .indexInfo i.table i.size i.inspect
  | .keys => return .keys type i.keys.toList
  | .rowsWith value => return .rowList (i.rowsWith (← readKey type value))
  | .find value => do
    let t ← given table
    v.rows (← Action.building (i.find t (← readKey type value)))
  | .findFirst value => do
    let t ← given table
    return v.record t (← i.findFirst t (← readKey type value))
  | .contains value => return .flag (i.contains (← readKey type value))
  | .range start stop => do
    let t ← given table
    v.rows (← Action.building (i.range t (← readKey type start) (← readKey type stop)))
  | .rangeInKeyOrder start stop => do
    let t ← given table
    v.rows (← Action.building (i.rangeInKeyOrder t (← readKey type start) (← readKey type stop)))
  | .countRange start stop =>
    return .number (i.countRange (← readKey type start) (← readKey type stop))
  | .sortedRows => do
    let t ← given table
    v.rows (← i.sortedRows t)
  | .least => do
    let t ← given table
    return v.record t (← i.least t)
  | .greatest => do
    let t ← given table
    return v.record t (← i.greatest t)

/-- Runs a computation over a lazy index of the session. -/
def onLazyIndex {α : Type} (name : String) (type : KeyType) (l : LazyIndex Fields type.Value)
    (m : Traced (LazyIndex Fields type.Value) α) : Action α :=
  Action.within l (fun s l => s.put name (.lazyIndex type l)) m

/-- Answers a question to the index at a path, building it over the first table if need be. -/
def answerIndexPath (v : View) (table other : Option String) (query : IndexQuery) :
    IndexPath → Action Reply
  | .object name => do
    let object ← Action.object name
    let t ← table.mapM Action.table
    match object with
    | .index type i =>
      let u ← other.mapM Action.table
      answerIndex v (u <|> t) type i query
    | .lazyIndex type l =>
      let t ← given t
      let i ← onLazyIndex name type l (LazyIndex.get t)
      let u ← other.mapM Action.table
      answerIndex v (u <|> some t) type i query
    | _ => throw .noSuchObject
  | .reverse path => do
    let r ← Action.look fun s => s.relationship path
    let t ← given (← table.mapM Action.table)
    let i ← Action.onRelationship path r (Relationship.index t)
    let u ← other.mapM Action.table
    answerIndex v (u <|> some t) .rowId i query

def answerLazy (name : String) (query : LazyQuery) : Action Reply := do
  match ← Action.object name with
  | .lazyIndex type l =>
    match query with
    | .isBuilt => return .flag l.isBuilt
    | .built => return .builtIndex (l.built.map fun i => (i.table, i.size))
    | .force table =>
      let t ← Action.table table
      onLazyIndex name type l (LazyIndex.force t)
      return .done
  | _ => throw .noSuchObject

end StaticTables.Session
