import Mathlib
import StaticTables.Key.KeyType

/-!
# Key order

The comparison of every key type is a total preorder, by induction over the type: the plain types
compare by something else that is ordered already (a number, or the list of characters), and
optional and paired keys inherit the laws from their parts. Two keys count as the same exactly when
they agree leaf by leaf, except that the two zeros of a floating-point format are one key.
-/
namespace StaticTables

open Std

/-- Keys whose comparison is a total preorder. -/
abbrev LawfulKey (κ : Type) [IndexKey κ] : Prop :=
  TransCmp (IndexKey.compare : κ → κ → Ordering)

/-- A comparison by what a function makes of the values inherits the laws. -/
theorem transCmp_comap {α β : Type} (f : α → β) (cmp : β → β → Ordering) [h : TransCmp cmp] :
    TransCmp fun a b => cmp (f a) (f b) where
  eq_swap := h.eq_swap
  isLE_trans := h.isLE_trans

namespace IndexKey

variable {κ : Type} [IndexKey κ] [LawfulKey κ] {a b c : κ}

theorem le_trans (hab : le a b) (hbc : le b c) : le a c := TransCmp.isLE_trans hab hbc

theorem le_total (a b : κ) : (le a b || le b a) = true := by
  have hswap : compare b a = (compare a b).swap := OrientedCmp.eq_swap
  rw [le, le, hswap]
  cases compare a b <;> rfl

/-- Keys are the same when neither comes after the other. -/
theorem same_iff : same a b ↔ le a b ∧ le b a := by
  have hswap : compare b a = (compare a b).swap := OrientedCmp.eq_swap
  rw [same, le, le, hswap]
  cases compare a b <;> decide

end IndexKey

/-! ## Plain keys -/

namespace IndexKey

variable {κ μ : Type}

instance : TransCmp compareBool := transCmp_comap Bool.toNat Ord.compare

instance : TransCmp compareChar := transCmp_comap Char.toNat Ord.compare

instance : TransCmp compareRow := transCmp_comap RowId.index Ord.compare

instance : TransCmp compareScalars :=
  transCmp_comap String.toList (List.compareLex compareChar)

instance : LawfulKey RowId := inferInstanceAs (TransCmp compareRow)

instance : LawfulEqCmp compareChar where
  compare_self := ReflCmp.compare_self
  eq_of_compare h := Char.toNat_inj.mp (Nat.compare_eq_eq.mp h)

theorem compareBool_eq_iff {a b : Bool} : compareBool a b = .eq ↔ a = b := by
  cases a <;> cases b <;> decide

theorem compareChar_eq_iff {a b : Char} : compareChar a b = .eq ↔ a = b :=
  LawfulEqCmp.compare_eq_iff_eq

theorem compareRow_eq_iff {a b : RowId} : compareRow a b = .eq ↔ a = b := by
  rw [compareRow, Nat.compare_eq_eq]
  exact ⟨RowId.ext, fun h => by rw [h]⟩

theorem compareScalars_eq_iff {a b : String} : compareScalars a b = .eq ↔ a = b := by
  have hlist : compareScalars a b = .eq ↔ a.toList = b.toList :=
    @LawfulEqCmp.compare_eq_iff_eq _ (List.compareLex compareChar) _ _ _
  rw [hlist, String.toList_inj]

/-! ## Optional and paired keys -/

variable {cmp : κ → κ → Ordering} {cmp' : μ → μ → Ordering}

instance [TransCmp cmp] : TransCmp (compareOption cmp) where
  eq_swap {a b} := by
    cases a with
    | none => cases b <;> rfl
    | some a =>
      cases b with
      | none => rfl
      | some b =>
        show cmp a b = (cmp b a).swap
        exact OrientedCmp.eq_swap
  isLE_trans {a b c} hab hbc := by
    cases a with
    | none => cases c <;> rfl
    | some a =>
      cases b with
      | none => contradiction
      | some b =>
        cases c with
        | none => contradiction
        | some c =>
          show (cmp a c).isLE
          exact TransCmp.isLE_trans hab hbc

/-- Pairs compare as the lexicographic combination of the two comparisons of halves. -/
instance [TransCmp cmp] [TransCmp cmp'] : TransCmp (comparePair cmp cmp') :=
  have : TransCmp fun p q : κ × μ => cmp p.1 q.1 := transCmp_comap Prod.fst cmp
  have : TransCmp fun p q : κ × μ => cmp' p.2 q.2 := transCmp_comap Prod.snd cmp'
  inferInstanceAs <| TransCmp <|
    compareLex (fun p q : κ × μ => cmp p.1 q.1) fun p q : κ × μ => cmp' p.2 q.2

end IndexKey

/-! ## Whole numbers of a range -/

theorem IntKind.compare_eq_iff {kind : IntKind} {a b : { n : Int // kind.Holds n }} :
    Ord.compare a.val b.val = .eq ↔ a = b := by
  rw [LawfulEqCmp.compare_eq_iff_eq, Subtype.ext_iff]

/-! ## Floating-point keys -/

namespace FloatBits

variable {f : FloatFormat}

/-- A zero of either sign: no bit is set, or the sign alone. -/
def IsZero (x : FloatBits f) : Prop := x.bits = 0 ∨ x.bits = f.signBit

instance : TransCmp (compare (f := f)) := transCmp_comap place Ord.compare

theorem ext {x y : FloatBits f} (h : x.bits = y.bits) : x = y := by
  cases x; cases y; cases h; rfl

theorem signBit_pos (f : FloatFormat) : 0 < f.signBit := by
  cases f <;> decide

/-- The place by cases on the sign, as `omega` can read it. -/
theorem place_cases (x : FloatBits f) :
    x.bits < f.signBit ∧ x.place = x.bits ∨
      f.signBit ≤ x.bits ∧ x.place = -((x.bits - f.signBit : Nat) : Int) := by
  have hbits := x.bits_lt
  by_cases hneg : f.signBit ≤ x.bits
  · have hmag : x.magnitude = x.bits - f.signBit := by
      rw [magnitude, Nat.mod_eq_sub_mod hneg, Nat.mod_eq_of_lt (by omega)]
    exact .inr ⟨hneg, by simp [place, isNegative, hneg, hmag]⟩
  · have hmag : x.magnitude = x.bits := Nat.mod_eq_of_lt (by omega)
    exact .inl ⟨by omega, by simp [place, isNegative, hneg, hmag]⟩

/-- Only the two zeros share a place: elsewhere the place gives back the sign and the rest. -/
theorem place_eq_iff {x y : FloatBits f} :
    x.place = y.place ↔ x = y ∨ x.IsZero ∧ y.IsZero := by
  have hpos := signBit_pos f
  have hx := place_cases x
  have hy := place_cases y
  unfold IsZero
  constructor
  · intro h
    by_cases hbits : x.bits = y.bits
    · exact .inl (ext hbits)
    · -- other bits at the same place: the signs differ, so the place is zero
      exact .inr (by omega)
  · intro h
    rcases h with rfl | h
    · rfl
    · omega

theorem compare_eq_iff {x y : FloatBits f} :
    compare x y = .eq ↔ x = y ∨ x.IsZero ∧ y.IsZero := by
  rw [compare, LawfulEqCmp.compare_eq_iff_eq, place_eq_iff]

end FloatBits

/-! ## Every key type -/

namespace KeyType

theorem transCmp_compare (t : KeyType) : TransCmp t.compare := by
  induction t with
  | int kind => exact transCmp_comap Subtype.val Ord.compare
  | rowId => exact inferInstanceAs (TransCmp IndexKey.compareRow)
  | bool => exact inferInstanceAs (TransCmp IndexKey.compareBool)
  | char => exact inferInstanceAs (TransCmp IndexKey.compareChar)
  | text => exact inferInstanceAs (TransCmp IndexKey.compareScalars)
  | float format => exact inferInstanceAs (TransCmp (FloatBits.compare (f := format)))
  | option key ih => exact inferInstanceAs (TransCmp (IndexKey.compareOption key.compare))
  | pair first second ih ih' =>
    exact inferInstanceAs (TransCmp (IndexKey.comparePair first.compare second.compare))

instance (t : KeyType) : LawfulKey t.Value := transCmp_compare t

/-- Two keys have the same structure and the same leaves, where the two zeros of a floating-point
format count as one. -/
def Alike : (t : KeyType) → t.Value → t.Value → Prop
  | int _ => fun a b => a = b
  | rowId => fun a b => a = b
  | bool => fun a b => a = b
  | char => fun a b => a = b
  | text => fun a b => a = b
  | float _ => fun a b => a = b ∨ FloatBits.IsZero a ∧ FloatBits.IsZero b
  | option key => fun a b =>
    match (a : Option key.Value), (b : Option key.Value) with
    | none, none => True
    | some a, some b => key.Alike a b
    | _, _ => False
  | pair first second => fun a b =>
    first.Alike (Prod.fst a) (Prod.fst b) ∧ second.Alike (Prod.snd a) (Prod.snd b)

theorem compare_eq_iff_alike (t : KeyType) (a b : t.Value) :
    t.compare a b = .eq ↔ t.Alike a b := by
  induction t with
  | int kind => exact IntKind.compare_eq_iff
  | rowId => exact IndexKey.compareRow_eq_iff
  | bool => exact IndexKey.compareBool_eq_iff
  | char => exact IndexKey.compareChar_eq_iff
  | text => exact IndexKey.compareScalars_eq_iff
  | float format => exact FloatBits.compare_eq_iff
  | option key ih =>
    cases a with
    | none => cases b <;> simp [compare, IndexKey.compareOption, Alike]
    | some a =>
      cases b with
      | none => simp [compare, IndexKey.compareOption, Alike]
      | some b => exact ih a b
  | pair first second ih ih' =>
    show (first.compare a.1 b.1).then (second.compare a.2 b.2) = .eq ↔ _
    rw [Ordering.then_eq_eq, ih, ih']
    rfl

/-- The order of every key type is a total preorder, and the keys that it takes for the same are
those that are alike. -/
theorem compare_total_preorder (t : KeyType) :
    (∀ a : t.Value, IndexKey.compare a a = .eq) ∧
      (∀ a b : t.Value, IndexKey.compare b a = (IndexKey.compare a b).swap) ∧
      (∀ a b c : t.Value, IndexKey.le a b → IndexKey.le b c → IndexKey.le a c) ∧
      ∀ a b : t.Value, IndexKey.same a b ↔ t.Alike a b := by
  refine ⟨fun a => ReflCmp.compare_self, fun a b => OrientedCmp.eq_swap,
    fun a b c hab hbc => TransCmp.isLE_trans hab hbc, fun a b => ?_⟩
  rw [IndexKey.same, beq_iff_eq]
  exact compare_eq_iff_alike t a b

end KeyType

end StaticTables
