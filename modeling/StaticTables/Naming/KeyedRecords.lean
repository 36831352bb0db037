import StaticTables.Naming.LabelKeys

/-!
External records found by a hash index, which is built once and holds the place of the record with
each key. Where no two records have the same key, it finds for a label what a scan would find.
-/
namespace StaticTables

open Std (HashMap)

/-- External records, found by key. -/
structure KeyedRecords (κ ε : Type) [BEq κ] [Hashable κ] where
  /-- The place of the record with each key. -/
  byKey : HashMap κ Nat
  records : Array ε

namespace KeyedRecords

variable {Λ κ ε : Type} [BEq Λ] [Hashable Λ] [BEq κ] [Hashable κ]

/-- Adds the places of records from a place on, unless a key is taken. -/
def addAll (name : String) (recordKey : ε → κ) :
    HashMap κ Nat → Nat → List ε → Except Failure (HashMap κ Nat)
  | byKey, _, [] => .ok byKey
  | byKey, place, record :: rest =>
    let key := recordKey record
    match byKey[key]? with
    | some previous => refuse (.labelMismatch name (.sharedRecordKey previous place))
    | none => addAll name recordKey (byKey.insert key place) (place + 1) rest

/-- Indexes external records by key. -/
def build (name : String) (data : List ε) (recordKey : ε → κ) : Build (KeyedRecords κ ε) := do
  let byKey ← addAll name recordKey ∅ 0 data
  Traced.emit (.externalIndexBuild name data.length)
  return { byKey, records := data.toArray }

/-- The number of indexed records. -/
def size (i : KeyedRecords κ ε) : Nat := i.byKey.size

/-- Whether no record is indexed. -/
def isEmpty (i : KeyedRecords κ ε) : Bool := i.byKey.isEmpty

/-- The record with a key. -/
def record? (i : KeyedRecords κ ε) (key : κ) : Option ε := i.byKey[key]? >>= (i.records[·]?)

/-- The record that belongs to a label. -/
def recordOf (i : KeyedRecords κ ε) (keys : LabelKeys Λ κ) (label : Λ) : Option ε :=
  keys.keyOf label >>= i.record?

end KeyedRecords

end StaticTables
