import Mathlib
import StaticTables.Key.Order

/-!
# Text order

Texts compare by their scalar values, and that is the order of the bytes of their UTF-8 encodings.
The encoding of a larger scalar value is later than that of a smaller one whatever follows either:
a longer encoding starts with a larger byte, and encodings of one length hold the digits of the
value in base 64, the most significant first. Equal scalar values have equal encodings, so a common
beginning drops out of both comparisons.
-/
namespace StaticTables

namespace Utf8

/-- The bytes that encode a scalar value, as numbers. -/
def encoding (n : Nat) : List Nat :=
  if n ≤ 0x7f then [n]
  else if n ≤ 0x7ff then [n / 64 + 0xc0, n % 64 + 0x80]
  else if n ≤ 0xffff then [n / 4096 + 0xe0, n / 64 % 64 + 0x80, n % 64 + 0x80]
  else [n / 262144 + 0xf0, n / 4096 % 64 + 0x80, n / 64 % 64 + 0x80, n % 64 + 0x80]

theorem encoding_ne_nil (n : Nat) : encoding n ≠ [] := by
  unfold encoding
  split_ifs <;> simp

theorem toNat_le (c : Char) : c.toNat ≤ 0x10ffff := by
  have hvalid := c.valid
  simp only [UInt32.isValidChar, Nat.isValidChar, Char.toNat_val] at hvalid
  omega

/-- The library's encoder gives these bytes: no scalar value needs more than four. -/
theorem map_toNat_utf8EncodeChar (c : Char) :
    (String.utf8EncodeChar c).map UInt8.toNat = encoding c.toNat := by
  have hle := toNat_le c
  unfold String.utf8EncodeChar encoding
  simp only [Char.toNat_val]
  split_ifs <;> simp
  all_goals omega

/-- A smaller scalar value has the earlier encoding, whatever stands behind. The cases are the
lengths of the two encodings. -/
theorem compare_encoding_of_lt {m n : Nat} (h : m < n) (xs ys : List Nat) :
    compare (encoding m ++ xs) (encoding n ++ ys) = .lt := by
  unfold encoding
  split_ifs
  all_goals
    simp only [List.cons_append, List.compare_cons_cons, Ordering.then_eq_lt, Nat.compare_eq_lt,
      Nat.compare_eq_eq]
    omega

theorem compare_append_left (p xs ys : List Nat) : compare (p ++ xs) (p ++ ys) = compare xs ys := by
  induction p with
  | nil => rfl
  | cons n p ih =>
    rw [List.cons_append, List.cons_append, List.compare_cons_cons, ih, Nat.compare_eq_eq.mpr rfl,
      Ordering.eq_then]

/-- Bytes compare as the numbers that they are. -/
theorem compare_map_toNat (xs ys : List UInt8) :
    compare (xs.map UInt8.toNat) (ys.map UInt8.toNat) = compare xs ys := by
  induction xs generalizing ys with
  | nil => cases ys <;> rfl
  | cons x xs ih =>
    cases ys with
    | nil => rfl
    | cons y ys =>
      have hbyte : compare x.toNat y.toNat = compare x y := by
        show compareOfLessAndEq x.toNat y.toNat = compareOfLessAndEq x y
        simp only [compareOfLessAndEq, UInt8.lt_iff_toNat_lt, UInt8.toNat_inj]
      rw [List.map_cons, List.map_cons, List.compare_cons_cons, List.compare_cons_cons, hbyte, ih]

/-- The bytes of a text, as numbers, character by character. -/
theorem map_toNat_toUTF8 (s : String) :
    s.toUTF8.data.toList.map UInt8.toNat = s.toList.flatMap fun c => encoding c.toNat := by
  rw [String.toUTF8_eq_toByteArray, ← String.utf8Encode_toList, List.utf8Encode,
    List.toList_data_toByteArray, List.map_flatMap]
  simp only [map_toNat_utf8EncodeChar]

/-- Induction on the first text: as long as the heads agree they are dropped on both sides, and the
first difference decides. -/
theorem compareLex_eq_compare_flatMap (l m : List Char) :
    List.compareLex IndexKey.compareChar l m =
      compare (l.flatMap fun c => encoding c.toNat) (m.flatMap fun c => encoding c.toNat) := by
  induction l generalizing m with
  | nil =>
    cases m with
    | nil => rfl
    | cons d m =>
      obtain ⟨byte, rest, hd⟩ := List.exists_cons_of_ne_nil (encoding_ne_nil d.toNat)
      simp [hd, List.compareLex_nil_cons]
  | cons c l ih =>
    cases m with
    | nil =>
      obtain ⟨byte, rest, hc⟩ := List.exists_cons_of_ne_nil (encoding_ne_nil c.toNat)
      simp [hc, List.compareLex_cons_nil]
    | cons d m =>
      rw [List.compareLex_cons_cons, List.flatMap_cons, List.flatMap_cons, IndexKey.compareChar]
      rcases Nat.lt_trichotomy c.toNat d.toNat with hlt | heq | hgt
      · rw [Nat.compare_eq_lt.mpr hlt, compare_encoding_of_lt hlt]
        rfl
      · -- equal heads have equal encodings, which drop out
        rw [heq, Nat.compare_eq_eq.mpr rfl, compare_append_left, ih m]
        rfl
      · rw [Nat.compare_eq_gt.mpr hgt,
          Std.OrientedCmp.gt_iff_lt.mpr (compare_encoding_of_lt hgt _ _)]
        rfl

end Utf8

/-- The order of texts by scalar values is the order of their UTF-8 bytes. -/
theorem IndexKey.compareScalars_eq_compare_utf8 (a b : String) :
    compareScalars a b = Ord.compare a.toUTF8.data.toList b.toUTF8.data.toList := by
  rw [← Utf8.compare_map_toNat, Utf8.map_toNat_toUTF8, Utf8.map_toNat_toUTF8,
    ← Utf8.compareLex_eq_compare_flatMap]
  rfl

end StaticTables
