import Mathlib
import StaticTables.Naming.LabelMap
import StaticTables.Proofs.Table.Selection

/-!
# Labels as names of rows

Labels are put on their rows one after the other, so a map is built exactly when no label names a
row outside the table and no two name the same row. The rows then carry what the enumeration says,
read backwards. Each label takes up a row of its own, so that all rows are labelled is a matter of
counting.
-/
namespace StaticTables

variable {Λ α : Type}

/-- The labels name rows of a table of this size, each its own. -/
structure Enumeration.Distinct (labels : Enumeration Λ) (size : Nat) : Prop where
  inside : ∀ l ∈ labels.all, (labels.position l).index < size
  nodup : (labels.all.map labels.position).Nodup

namespace LabelMap

/-! ## Placing labels -/

section Place

variable {table : String} {labels : Enumeration Λ} {slots filled : Array (Option Λ)}

theorem place_cons_eq_ok_iff {label : Λ} {rest : List Λ} :
    place table labels slots (label :: rest) = .ok filled ↔
      slots[(labels.position label).index]? = some none ∧
        place table labels (slots.setIfInBounds (labels.position label).index (some label)) rest =
          .ok filled := by
  simp only [place]
  cases slots[(labels.position label).index]? with
  | none => simp [refuse]
  | some slot => cases slot <;> simp [refuse]

/-- Once a label is on its row, that row is no longer free. -/
theorem getElem?_setIfInBounds_eq_none_iff {label : Λ} {i j : Nat} :
    (slots.setIfInBounds i (some label))[j]? = some none ↔ j ≠ i ∧ slots[j]? = some none := by
  rw [Array.getElem?_setIfInBounds]
  by_cases hij : i = j
  · subst hij
    by_cases hi : i < slots.size <;> simp [hi]
  · simp [hij, Ne.symm hij]

/-- On a row that was free there is now the label, and elsewhere what was there before. -/
theorem getElem?_setIfInBounds_eq_some_iff {label l : Λ} {i j : Nat}
    (hfree : slots[i]? = some none) :
    (slots.setIfInBounds i (some label))[j]? = some (some l) ↔
      (l = label ∧ i = j) ∨ slots[j]? = some (some l) := by
  obtain ⟨hi, hget⟩ := Array.getElem?_eq_some_iff.mp hfree
  rw [Array.getElem?_setIfInBounds]
  by_cases hij : i = j
  · subst hij
    simp [hi, hget, eq_comm]
  · simp [hij]

/-- Labels can be placed when their rows are free and no two of them have the same one. -/
theorem exists_place_iff {l : List Λ} :
    (∃ filled, place table labels slots l = .ok filled) ↔
      (∀ label ∈ l, slots[(labels.position label).index]? = some none) ∧
        (l.map labels.position).Nodup := by
  induction l generalizing slots with
  | nil => simp [place]
  | cons label rest ih =>
    simp only [place_cons_eq_ok_iff, exists_and_left, ih, getElem?_setIfInBounds_eq_none_iff,
      List.forall_mem_cons, List.map_cons, List.nodup_cons, List.mem_map, not_exists, not_and]
    have hrow : ∀ other, (labels.position other).index ≠ (labels.position label).index ↔
        labels.position other ≠ labels.position label :=
      fun other => not_congr ⟨RowId.ext, congrArg RowId.index⟩
    simp only [hrow]
    constructor
    · intro h
      exact ⟨⟨h.1, fun other hother => (h.2.1 other hother).2⟩,
        fun other hother => (h.2.1 other hother).1, h.2.2⟩
    · intro h
      exact ⟨h.1.1, fun other hother => ⟨h.2.1 other hother, h.1.2 other hother⟩, h.2.2⟩

theorem size_of_place {l : List Λ} (h : place table labels slots l = .ok filled) :
    filled.size = slots.size := by
  induction l generalizing slots with
  | nil => cases h; rfl
  | cons label rest ih =>
    obtain ⟨-, hrest⟩ := place_cons_eq_ok_iff.mp h
    rw [ih hrest, Array.size_setIfInBounds]

/-- After the labels are placed, a row has the label that it had before or the one that names it. -/
theorem getElem?_of_place {l : List Λ} (h : place table labels slots l = .ok filled) {label : Λ}
    {j : Nat} :
    filled[j]? = some (some label) ↔
      slots[j]? = some (some label) ∨ label ∈ l ∧ (labels.position label).index = j := by
  induction l generalizing slots with
  | nil => cases h; simp
  | cons first rest ih =>
    obtain ⟨hfree, hrest⟩ := place_cons_eq_ok_iff.mp h
    rw [ih hrest, getElem?_setIfInBounds_eq_some_iff hfree, List.mem_cons]
    constructor
    · intro hlabel
      rcases hlabel with (⟨rfl, hj⟩ | hbefore) | ⟨hmem, hj⟩
      · exact .inr ⟨.inl rfl, hj⟩
      · exact .inl hbefore
      · exact .inr ⟨.inr hmem, hj⟩
    · intro hlabel
      rcases hlabel with hbefore | ⟨rfl | hmem, hj⟩
      · exact .inl (.inr hbefore)
      · exact .inl (.inl ⟨rfl, hj⟩)
      · exact .inr ⟨hmem, hj⟩

end Place

/-! ## Construction -/

/-- The map of the table has at each row the label that names it, if there is one. -/
structure Labels (m : LabelMap Λ) (table : Table α) (labels : Enumeration Λ) : Prop where
  table_eq : m.table = table.id
  name_eq : m.name = table.name
  labels_eq : m.labels = labels
  size_eq : m.byPosition.size = table.size
  getElem?_iff : ∀ position l, m.byPosition[position]? = some (some l) ↔
    l ∈ labels.all ∧ (labels.position l).index = position

section Build

variable {table : Table α} {labels : Enumeration Λ} {m : LabelMap Λ}

theorem getElem?_replicate_ne_some {n j : Nat} {l : Λ} :
    (Array.replicate n (none : Option Λ))[j]? ≠ some (some l) := by
  rw [Array.getElem?_replicate]
  split <;> simp

theorem labels_of_build (h : ((build table labels).run ()).result = .ok m) :
    m.Labels table labels := by
  unfold build at h
  obtain ⟨filled, hplace, hrest⟩ := Traced.result_bind_eq_ok_iff.mp h
  obtain ⟨⟨⟩, -, hpure⟩ := Traced.result_bind_eq_ok_iff.mp hrest
  obtain rfl := Except.ok.inj hpure
  refine ⟨rfl, rfl, rfl, ?_, fun position l => ?_⟩
  · rw [size_of_place hplace, Array.size_replicate]
  · rw [getElem?_of_place hplace, or_iff_right getElem?_replicate_ne_some]

theorem exists_build_iff :
    (∃ m, ((build table labels).run ()).result = .ok m) ↔ labels.Distinct table.size := by
  have hfree : ∀ j, (Array.replicate table.size (none : Option Λ))[j]? = some none ↔
      j < table.size := by
    intro j
    rw [Array.getElem?_replicate]
    split <;> simp_all
  have hplace := @exists_place_iff Λ table.name labels (Array.replicate table.size none) labels.all
  simp only [hfree] at hplace
  constructor
  · intro hbuild
    obtain ⟨m, hm⟩ := hbuild
    obtain ⟨filled, hfilled, -⟩ := Traced.result_bind_eq_ok_iff.mp hm
    obtain ⟨hinside, hnodup⟩ := hplace.mp ⟨filled, hfilled⟩
    exact ⟨hinside, hnodup⟩
  · intro hdistinct
    obtain ⟨filled, hfilled⟩ := hplace.mpr ⟨hdistinct.inside, hdistinct.nodup⟩
    exact ⟨_, by simp [build, Traced.run_bind, hfilled]; rfl⟩

end Build

/-! ## Reading a map in both directions -/

section Naming

variable {table : Table α} {labels : Enumeration Λ} {m : LabelMap Λ}

/-- Where no two elements have the same place, as many as there are places fill all of them. -/
theorem forall_lt_mem_iff_length_eq {places : List Nat} {n : Nat} (hnodup : places.Nodup)
    (hlt : ∀ i ∈ places, i < n) : (∀ i < n, i ∈ places) ↔ places.length = n := by
  have hsub : places.Subperm (List.range n) :=
    hnodup.subperm fun i hi => List.mem_range.mpr (hlt i hi)
  constructor
  · intro hall
    have hback : (List.range n).Subperm places :=
      List.nodup_range.subperm fun i hi => hall i (List.mem_range.mp hi)
    have hle := hsub.length_le
    have hge := hback.length_le
    rw [List.length_range] at hle hge
    omega
  · intro hlength i hi
    have hperm := hsub.perm_of_length_le (by rw [List.length_range, hlength])
    exact hperm.mem_iff.mpr (List.mem_range.mpr hi)

theorem Labels.isTotal_iff_forall (h : m.Labels table labels) :
    m.isTotal ↔ ∀ i < table.size, ∃ l ∈ labels.all, (labels.position l).index = i := by
  rw [isTotal, Array.all_eq_true, ← h.size_eq]
  refine forall₂_congr fun i hi => ?_
  simp only [← h.getElem?_iff, Array.getElem?_eq_getElem hi, Option.some.injEq,
    Option.isSome_iff_exists]

theorem Labels.isTotal_iff_length_eq (h : m.Labels table labels)
    (hdistinct : labels.Distinct table.size) :
    m.isTotal ↔ labels.all.length = table.size := by
  have hplaces : ((labels.all.map labels.position).map RowId.index).Nodup :=
    hdistinct.nodup.map fun _ _ => RowId.ext
  have hinside : ∀ i ∈ (labels.all.map labels.position).map RowId.index, i < table.size := by
    simpa using hdistinct.inside
  have hcount := forall_lt_mem_iff_length_eq hplaces hinside
  rw [h.isTotal_iff_forall]
  simpa using hcount

theorem findIdx?_isNone_eq_none_iff :
    m.byPosition.findIdx? Option.isNone = none ↔ m.isTotal := by
  rw [Array.findIdx?_eq_none_iff, isTotal, Array.all_eq_true']
  simp only [Option.isNone_eq_false_iff]

/-- A construction in which every row has to have a label gives the map that the other construction
gives, if that has a label for every row. -/
theorem buildTotal_eq_ok_iff :
    ((buildTotal table labels).run ()).result = .ok m ↔
      ((build table labels).run ()).result = .ok m ∧ m.isTotal := by
  rw [buildTotal, Traced.result_bind_eq_ok_iff]
  constructor
  · intro h
    obtain ⟨m', hbuild, hlast⟩ := h
    split at hlast
    next => contradiction
    next htotal =>
      obtain rfl := Except.ok.inj hlast
      exact ⟨hbuild, findIdx?_isNone_eq_none_iff.mp htotal⟩
  · intro h
    obtain ⟨hbuild, htotal⟩ := h
    refine ⟨m, hbuild, ?_⟩
    rw [findIdx?_isNone_eq_none_iff.mpr htotal]
    rfl

end Naming

/-- Three planets. -/
def planets : Table String where
  id := { value := 9 }
  name := "planet"
  origin := 0
  rows := #["Mercury", "Venus", "Earth"]
  size_le := by decide

/-- Initials for two of the planets, the third one first. -/
def signs : Enumeration Char where
  all := ['E', 'M']
  position c := (RowId.ofIndex? (['M', 'V', 'E'].idxOf c)).getD .first
  describe := Char.toString

end LabelMap

end StaticTables
