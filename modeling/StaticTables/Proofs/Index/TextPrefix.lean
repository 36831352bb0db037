import Mathlib
import StaticTables.Proofs.Index.Scan
import StaticTables.Proofs.Key.TextOrder

/-!
# Texts with a common beginning

A range of texts from a beginning to this beginning with the last character behind it finds the
texts that start so. No character comes after the last one, so whatever follows the beginning is
inside the range, except for texts that go on behind the last character.
-/
namespace StaticTables

variable {α : Type}

/-- The character with the greatest scalar value. -/
def lastChar : Char := Char.ofNat 0x10ffff

/-- The text starts with a beginning, and behind it stands anything but the last character with more
to follow. -/
def StartsWithin (beginning text : String) : Prop :=
  ∃ rest, text.toList = beginning.toList ++ rest ∧
    (rest.head? ≠ some lastChar ∨ rest = [lastChar])

namespace IndexKey

instance : LawfulKey String := inferInstanceAs (Std.TransCmp compareScalars)

theorem compareChar_lastChar {c : Char} (h : c ≠ lastChar) : compareChar c lastChar = .lt := by
  have hle := Utf8.toNat_le c
  have hlast : lastChar.toNat = 0x10ffff := by decide
  have hne : c.toNat ≠ lastChar.toNat := fun heq => h (Char.toNat_inj.mp heq)
  rw [compareChar, Nat.compare_eq_lt]
  omega

theorem isLE_compareLex_nil (s : List Char) : (List.compareLex compareChar [] s).isLE := by
  cases s <;> rfl

/-- What may follow the beginning. -/
theorem isLE_compareLex_lastChar (s : List Char) :
    (List.compareLex compareChar s [lastChar]).isLE ↔
      s.head? ≠ some lastChar ∨ s = [lastChar] := by
  cases s with
  | nil => simp [List.compareLex_nil_cons]
  | cons c s =>
    rw [List.compareLex_cons_cons]
    by_cases hc : c = lastChar
    · rw [hc, compareChar_eq_iff.mpr rfl]
      cases s <;> simp [List.compareLex_nil_nil, List.compareLex_cons_nil]
    · rw [compareChar_lastChar hc]
      simp [hc]

/-- Induction on the beginning: as long as a text agrees with it both bounds wait for what follows,
and where it first differs one of them turns it away. -/
theorem isLE_compareLex_iff (p s : List Char) :
    (List.compareLex compareChar p s).isLE ∧
        (List.compareLex compareChar s (p ++ [lastChar])).isLE ↔
      ∃ rest, s = p ++ rest ∧ (rest.head? ≠ some lastChar ∨ rest = [lastChar]) := by
  induction p generalizing s with
  | nil =>
    simp only [List.nil_append, isLE_compareLex_nil, true_and, isLE_compareLex_lastChar]
    simp
  | cons c p ih =>
    cases s with
    | nil => simp [List.compareLex_cons_nil]
    | cons d s =>
      rw [List.cons_append, List.compareLex_cons_cons, List.compareLex_cons_cons]
      by_cases hcd : c = d
      · rw [hcd, compareChar_eq_iff.mpr rfl, Ordering.eq_then, Ordering.eq_then, ih]
        simp
      · have hnone : ¬ ∃ rest, d :: s = c :: p ++ rest ∧
            (rest.head? ≠ some lastChar ∨ rest = [lastChar]) := by
          intro h
          obtain ⟨rest, heq, -⟩ := h
          exact hcd (List.cons.inj heq).1.symm
        have hswap : compareChar d c = (compareChar c d).swap := Std.OrientedCmp.eq_swap
        rw [iff_false_right hnone, hswap]
        cases hcmp : compareChar c d with
        | lt => simp
        | eq => exact absurd (compareChar_eq_iff.mp hcmp) hcd
        | gt => simp

theorem between_push_lastChar_iff {beginning text : String} :
    between beginning (beginning.push lastChar) text ↔ StartsWithin beginning text := by
  rw [between, Bool.and_eq_true, StartsWithin, ← isLE_compareLex_iff, ← String.toList_push]
  rfl

end IndexKey

/-- A range from a beginning to the beginning with the last character behind it gives the rows whose
texts start with it, each once and in table order, unless a text goes on behind the last character
there. -/
theorem Index.range_finds_beginning (table : Table α) (column : α → Option String)
    (beginning : String) :
    ∃ (i : Index String) (rows : Rows α),
      ((build table column).run ()).result = .ok i ∧
      ((i.range table beginning (beginning.push lastChar)).run ()).result = .ok rows ∧
      rows.ids.Pairwise (· < ·) ∧
      (∀ row, row ∈ rows.ids ↔ ∃ r ∈ table.records, r.row = row ∧
        ∃ text, column r.value = some text ∧ StartsWithin beginning text) ∧
      ∃ records, rows.rest = .ok records ∧ records.map Record.row = rows.ids := by
  obtain ⟨rows, hrun, hrows⟩ := range_selects table column beginning (beginning.push lastChar)
  refine ⟨ofColumn table column, rows, rfl, hrun, hrows.ascending, ?members,
    _, hrows.rest_eq, hrows.ids_eq.symm⟩
  case members =>
    intro row
    rw [hrows.mem_iff]
    simp only [IndexKey.between_push_lastChar_iff]
    constructor
    · intro h
      obtain ⟨r, hr, htext⟩ := h
      obtain rfl := Table.row_eq_of_record? hr
      exact ⟨r, Table.mem_records_iff.mpr hr, rfl, htext⟩
    · intro h
      obtain ⟨r, hr, rfl, htext⟩ := h
      exact ⟨r, Table.mem_records_iff.mp hr, htext⟩

end StaticTables
