import StaticTables.Key.Literal
import StaticTables.Link.Relationship
import StaticTables.Link.Variant

/-!
The records of a session's tables. A record is a list of named cells, and a column is read by its
name from whatever record comes along: one that lacks the column, or has it with another type, holds
nothing there.
-/
namespace StaticTables.Session

/-- What a column holds. -/
inductive ColumnType where
  | key (type : KeyType)
  /-- References, or none. -/
  | ref
  /-- Tagged references, or none. -/
  | variant
deriving DecidableEq

/-- What a record holds in a column. -/
inductive Cell where
  | key (type : KeyType) (value : type.Value)
  /-- A reference, or none. -/
  | ref (row : Option RowId)
  /-- A tag, by number, and a row; or nothing. -/
  | variant (value : Option (VariantValue Nat))

/-- The named cells of a record. -/
abbrev Fields : Type := List (String × Cell)

namespace Fields

/-- The key of this type in a column. -/
def key? (type : KeyType) (column : String) (r : Fields) : Option type.Value :=
  match r.lookup column with
  | some (.key t v) => if h : t = type then some (h ▸ v) else none
  | _ => none

/-- The key of this type in a column of optional keys, if it is present. -/
def presentKey? (type : KeyType) (column : String) (r : Fields) : Option type.Value :=
  Option.join (key? (.option type) column r : Option (Option type.Value))

/-- The reference in a column. -/
def ref? (column : String) (r : Fields) : Option (Ref Fields) :=
  match r.lookup column with
  | some (.ref row) => row.map Ref.mk
  | _ => none

/-- The tagged reference in a column. -/
def variant? (column : String) (r : Fields) : Option (VariantValue Nat) :=
  match r.lookup column with
  | some (.variant v) => v
  | _ => none

end Fields

end StaticTables.Session
