import StaticTables.Identity

/-!
Keys of an index: values with a comparison. Whole numbers, truth values, characters and rows compare
in their natural order, text by its scalar values, pairs by their first halves first, and an
optional key that is absent comes before all that are present.
-/
namespace StaticTables

/-- Values that an index can be sorted by. -/
class IndexKey (κ : Type) where
  /-- The order of two keys. -/
  compare : κ → κ → Ordering

namespace IndexKey

variable {κ μ : Type}

/-- Whether two keys count as the same. -/
def same [IndexKey κ] (a b : κ) : Bool := compare a b == .eq

/-- Whether a key comes no later than another. -/
def le [IndexKey κ] (a b : κ) : Bool := (compare a b).isLE

/-- Texts compare by their scalar values from the front, a proper beginning first. Neither the
bytes of an encoding nor a locale have a say. -/
def compareScalars (a b : String) : Ordering :=
  List.compareLex (fun c d => Ord.compare c.toNat d.toNat) a.toList b.toList

/-- An absent key comes before every present one. -/
def compareOption (cmp : κ → κ → Ordering) : Option κ → Option κ → Ordering
  | none, none => .eq
  | none, some _ => .lt
  | some _, none => .gt
  | some a, some b => cmp a b

/-- Pairs compare by their first halves, and by their second halves if those are the same. -/
def comparePair (cmpFirst : κ → κ → Ordering) (cmpSecond : μ → μ → Ordering)
    (p q : κ × μ) : Ordering :=
  (cmpFirst p.1 q.1).then (cmpSecond p.2 q.2)

/-- The truth value false comes before true. -/
def compareBool (a b : Bool) : Ordering := Ord.compare a.toNat b.toNat

/-- Characters compare by code point. -/
def compareChar (a b : Char) : Ordering := Ord.compare a.toNat b.toNat

/-- Rows compare by position. -/
def compareRow (a b : RowId) : Ordering := Ord.compare a.index b.index

instance : IndexKey Nat := ⟨Ord.compare⟩

instance : IndexKey Int := ⟨Ord.compare⟩

instance : IndexKey Bool := ⟨compareBool⟩

instance : IndexKey Char := ⟨compareChar⟩

instance : IndexKey RowId := ⟨compareRow⟩

instance : IndexKey String := ⟨compareScalars⟩

instance [IndexKey κ] : IndexKey (Option κ) := ⟨compareOption compare⟩

instance [IndexKey κ] [IndexKey μ] : IndexKey (κ × μ) := ⟨comparePair compare compare⟩

@[simp] theorem compare_none_none [IndexKey κ] : compare (none : Option κ) none = .eq := rfl

@[simp] theorem compare_none_some [IndexKey κ] (a : κ) : compare none (some a) = .lt := rfl

@[simp] theorem compare_some_none [IndexKey κ] (a : κ) : compare (some a) none = .gt := rfl

@[simp] theorem compare_some_some [IndexKey κ] (a b : κ) :
    compare (some a) (some b) = compare a b := rfl

end IndexKey

end StaticTables
