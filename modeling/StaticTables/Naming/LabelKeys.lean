import StaticTables.Naming.LabelMap
import Std.Data.HashMap

/-!
Labels joined to records that are kept elsewhere. Each label carries a key of its own choosing, no
two labels the same one, and an external record with that key belongs to the label. Records are
found here by scanning a list from the front.
-/
namespace StaticTables

open Std (HashMap)

/-- A second key for every label of an enumeration. -/
structure LabelKeys (Λ κ : Type) [BEq Λ] [Hashable Λ] [BEq κ] [Hashable κ] where
  byLabel : HashMap Λ κ
  byKey : HashMap κ Λ

namespace LabelKeys

variable {Λ κ ε : Type} [BEq Λ] [Hashable Λ] [BEq κ] [Hashable κ]

/-- Adds the labels of a list with their keys, unless a key is taken. -/
def addAll (name : String) (keyOf : Λ → κ) (describe : Λ → String) (describeKey : κ → String) :
    LabelKeys Λ κ → List Λ → Except Failure (LabelKeys Λ κ)
  | keys, [] => .ok keys
  | keys, label :: rest =>
    let key := keyOf label
    match keys.byKey[key]? with
    | some previous =>
      refuse (.labelMismatch name
        (.sharedKey (describe previous) (describe label) (describeKey key)))
    | none =>
      addAll name keyOf describe describeKey
        { byLabel := keys.byLabel.insert label key, byKey := keys.byKey.insert key label } rest

/-- Computes the key of every label. -/
def build (name : String) (labels : Enumeration Λ) (keyOf : Λ → κ) (describeKey : κ → String) :
    Except Failure (LabelKeys Λ κ) :=
  addAll name keyOf labels.describe describeKey { byLabel := ∅, byKey := ∅ } labels.all

/-- The key of a label. -/
def keyOf (k : LabelKeys Λ κ) (label : Λ) : Option κ := k.byLabel[label]?

/-- The label with a key. -/
def labelOf (k : LabelKeys Λ κ) (key : κ) : Option Λ := k.byKey[key]?

/-- The first external record with the key of a label. -/
def findRecord (k : LabelKeys Λ κ) (data : List ε) (recordKey : ε → κ) (label : Λ) :
    Option ε := do
  let wanted ← k.keyOf label
  data.find? fun record => recordKey record == wanted

end LabelKeys

end StaticTables
