import StaticTables.Session.Action

/-!
Carrying out definitions. An object that is made of others builds them one after the other, each
with its own tables looked up when its turn comes.
-/
namespace StaticTables.Session

/-- The type of the keys in a column of a table; that of the present keys, if it is filtered. -/
def keyTypeOf (columns : List (String × ColumnType)) (column : String) (filtered : Bool) :
    Except Refusal KeyType :=
  match columns.lookup column, filtered with
  | some (.key type), false => .ok type
  | some (.key (.option type)), true => .ok type
  | _, _ => .error .unfit

/-- The key column of this name and type. -/
def keyColumn (type : KeyType) (column : String) (filtered : Bool) (r : Fields) :
    Option type.Value :=
  if filtered then r.presentKey? type column else r.key? type column

/-- Builds a relationship. -/
def RelationshipSpec.build (spec : RelationshipSpec) : Action (Relationship Fields Fields) := do
  let source ← Action.table spec.source
  let target ← Action.table spec.target
  Action.building
    (Relationship.build spec.settings spec.declaration source target (Fields.ref? spec.column))

/-- The enumeration of the first so many labels. -/
def enumeration (labels : List NamedLabel) (declared : Nat) : Enumeration NamedLabel :=
  { all := labels.take declared, position := NamedLabel.row, describe := NamedLabel.text }

/-- Builds the object that a definition asks for. -/
def construct : Definition → Action Object
  | .table id name columns rows => do
    let origin ← Action.look fun s => .ok s.tables
    -- a record of a session takes up room, however few fields it has
    return .table columns (← Action.building (Table.build id name origin rows true))
  | .index table column filtered => do
    let (columns, t) ← Action.look fun s => s.declaredTable table
    let type ← keyTypeOf columns column filtered
    return .index type (← Action.building (Index.build t (keyColumn type column filtered)))
  | .lazyIndex table column filtered => do
    let (columns, _) ← Action.look fun s => s.declaredTable table
    let type ← keyTypeOf columns column filtered
    return .lazyIndex type { column := keyColumn type column filtered }
  | .relationship spec => return .relationship (← spec.build)
  | .partner a b forward backward settings => do
    let a ← Action.table a
    let b ← Action.table b
    let forward ← forward.build
    let backward ← backward.build
    return .partner (← Action.building (Partner.build settings forward backward a b))
  | .junction left right => do
    let left ← left.build
    let right ← right.build
    return .junction (← Action.building (Junction.build left right))
  | .hierarchy table name column settings => do
    let t ← Action.table table
    return .hierarchy (← Action.building (Hierarchy.build settings name t (Fields.ref? column)))
  | .variant table column name tags lengths optionality settings => do
    let t ← Action.table table
    let candidates := lengths.zipIdx.map fun (length, tag) => { tag, length : Candidate Nat }
    return .variant tags (← Action.building
      (VariantColumn.build settings name optionality candidates (tags.getD · "") t
        (Fields.variant? column)))
  | .labels table labels declared isPartial => do
    let t ← Action.table table
    let e := enumeration labels declared
    return .labels labels
      (← Action.building (if isPartial then LabelMap.build t e else LabelMap.buildTotal t e))
  | .keys name labels declared keys => do
    return .keys labels (← LabelKeys.build name (enumeration labels declared)
      (fun l => keys.getD l.ordinal (.text "")) ExternalKey.inspect)
  | .external name records =>
    return .external (← Action.building (KeyedRecords.build name records ExternalRecord.key))

end StaticTables.Session
