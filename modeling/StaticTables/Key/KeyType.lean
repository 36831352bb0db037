import StaticTables.Key.FloatBits

/-!
The types of keys that a column may declare, each with its values and their order. Optional and
paired types nest without limit.
-/
namespace StaticTables

/-- A range of whole numbers: those that fit in this many bits, with or without a sign. -/
structure IntKind where
  /-- Whether negative numbers are included. -/
  signed : Bool
  bits : Nat
deriving DecidableEq

namespace IntKind

/-- The least number of the range. -/
def least (k : IntKind) : Int := if k.signed then -(Nat.pow 2 (k.bits - 1) : Int) else 0

/-- The greatest number of the range. -/
def greatest (k : IntKind) : Int :=
  if k.signed then (Nat.pow 2 (k.bits - 1) : Int) - 1 else (Nat.pow 2 k.bits : Int) - 1

/-- Whether a number lies in the range. -/
def Holds (k : IntKind) (n : Int) : Prop := k.least ≤ n ∧ n ≤ k.greatest

instance (k : IntKind) (n : Int) : Decidable (k.Holds n) :=
  inferInstanceAs (Decidable (k.least ≤ n ∧ n ≤ k.greatest))

end IntKind

/-- The type of a key. -/
inductive KeyType where
  /-- Whole numbers of a range. -/
  | int (kind : IntKind)
  | rowId
  | bool
  | char
  | text
  /-- Floating-point numbers. -/
  | float (format : FloatFormat)
  /-- Keys that may be absent. -/
  | option (key : KeyType)
  /-- Pairs of keys. -/
  | pair (first second : KeyType)
deriving DecidableEq

namespace KeyType

/-- The values of the type. -/
def Value : KeyType → Type
  | int kind => { n : Int // kind.Holds n }
  | rowId => RowId
  | bool => Bool
  | char => Char
  | text => String
  | float format => FloatBits format
  | option key => Option key.Value
  | pair first second => first.Value × second.Value

/-- The order of two values of the type. -/
def compare : (t : KeyType) → t.Value → t.Value → Ordering
  | int _ => fun a b => IndexKey.compare a.val b.val
  | rowId => IndexKey.compareRow
  | bool => IndexKey.compareBool
  | char => IndexKey.compareChar
  | text => IndexKey.compareScalars
  | float _ => FloatBits.compare
  | option key => IndexKey.compareOption key.compare
  | pair first second => IndexKey.comparePair first.compare second.compare

instance (t : KeyType) : IndexKey t.Value := ⟨t.compare⟩

end KeyType

end StaticTables
