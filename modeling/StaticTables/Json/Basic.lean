/-!
JSON values. Numbers keep the way they were written, since some readers tell `1` from `1.0` and `0`
from `-0`. A string literal may escape half of a surrogate pair; it is well formed but denotes no
text, and only a reader that asks for its text refuses it.
-/
namespace StaticTables

/-- A string literal: its text, or nothing if an escape leaves a surrogate unpaired. -/
abbrev Json.Literal := Option String

/-- A number as it is written. -/
structure Json.Number where
  /-- Whether a minus sign stands in front. -/
  negative : Bool
  /-- The digits before any fraction. -/
  whole : Nat
  /-- The text of the fraction and the exponent, empty if there is neither. -/
  tail : String
deriving DecidableEq

/-- A JSON value. The members of an object keep their order, and a name may occur twice. -/
inductive Json where
  | null
  | bool (b : Bool)
  | number (n : Json.Number)
  | string (s : Json.Literal)
  | array (items : List Json)
  | object (members : List (Json.Literal × Json))

namespace Json

/-- The number without fraction that stands for a natural number. -/
def ofNat (n : Nat) : Json := .number { negative := false, whole := n, tail := "" }

/-- The number without fraction that stands for an integer. -/
def ofInt (i : Int) : Json := .number { negative := i < 0, whole := i.natAbs, tail := "" }

/-- The string with this text. -/
def text (s : String) : Json := .string (some s)

/-- The object with these members. -/
def ofMembers (l : List (String × Json)) : Json := .object (l.map fun m => (some m.1, m.2))

/-- The natural number written without sign, fraction or exponent. -/
def nat? : Json → Option Nat
  | .number n => if n.negative || n.tail ≠ "" then none else some n.whole
  | _ => none

/-- The integer written without fraction or exponent. -/
def int? : Json → Option Int
  | .number n =>
    if n.tail ≠ "" then none else some (if n.negative then -(n.whole : Int) else n.whole)
  | _ => none

/-- The text of a string. -/
def text? : Json → Option String
  | .string s => s
  | _ => none

/-- The truth value. -/
def bool? : Json → Option Bool
  | .bool b => some b
  | _ => none

/-- The items of an array. -/
def items? : Json → Option (List Json)
  | .array l => some l
  | _ => none

/-- The first member of an object with this name. -/
def member? (name : String) : Json → Option Json
  | .object l => l.lookup (some name)
  | _ => none

@[simp] theorem nat?_ofNat (n : Nat) : (ofNat n).nat? = some n := rfl

@[simp] theorem text?_text (s : String) : (text s).text? = some s := rfl

end Json

end StaticTables
