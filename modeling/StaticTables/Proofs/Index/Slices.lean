import Mathlib
import StaticTables.Proofs.Index.Scan

/-!
# Slices of an index

The two bounds of a span come from two searches that know nothing of each other. Whatever the keys
and their comparison may be, each search ends at a place in the array where its test stops to hold,
and a second bound that would lie before the first one is raised to it. So a span can always be cut
out of the rows and its bounds be subtracted, with no check at the query. On keys that are sorted
under a total preorder each bound is a number of keys. None of this depends on which of several such
places a search ends at.
-/
namespace StaticTables

open Std

variable {κ β : Type}

/-! ## Cutting a part out of an array -/

/-- The part of an array from one place up to another. There is none if the places are in the wrong
order or if the second one lies outside. -/
def slice? (store : Array β) (front back : Nat) : Option (Array β) :=
  if front ≤ back ∧ back ≤ store.size then some (store.extract front back) else none

theorem slice?_eq_some_iff {store part : Array β} {front back : Nat} :
    slice? store front back = some part ↔
      front ≤ back ∧ back ≤ store.size ∧ store.extract front back = part := by
  unfold slice?
  split
  case isTrue h => simp [h]
  case isFalse h => simpa using fun hle hsize => absurd ⟨hle, hsize⟩ h

theorem slice?_max {store : Array β} {front back : Nat} (hfront : front ≤ store.size)
    (hback : back ≤ store.size) :
    slice? store front (max front back) = some (store.extract front (max front back)) :=
  slice?_eq_some_iff.mpr ⟨Nat.le_max_left _ _, Nat.max_le.mpr ⟨hfront, hback⟩, rfl⟩

/-- A part that can be cut out is as long as its places are apart. -/
theorem psub_of_slice? {store part : Array β} {front back : Nat}
    (h : slice? store front back = some part) : Nat.psub back front = some part.size := by
  obtain ⟨hle, hsize, rfl⟩ := slice?_eq_some_iff.mp h
  rw [Nat.psub_eq_some, Array.size_extract, Nat.min_eq_left hsize, Nat.sub_add_cancel hle]

/-! ## Bounds as numbers of keys -/

/-- Where the keys that pass come first, the place behind them is their number. -/
theorem TurnsAt.eq_countP {test : κ → Bool} {keys : Array κ} {place : Nat}
    (hturn : TurnsAt test keys place)
    (hsplit : keys.toList.Pairwise fun a b => test b → test a) : place = keys.countP test := by
  have hwindow : keys.toList.filter test = (keys.toList.drop 0).take (place - 0) :=
    filter_eq_window fun i hi => by
      simpa using hturn.lt_iff hsplit (by simpa using hi)
  have hlength := congrArg List.length hwindow
  have hle := hturn.le_size
  rw [← List.countP_eq_length_filter, Array.countP_toList] at hlength
  simp only [List.drop_zero, Nat.sub_zero, List.length_take, Array.length_toList] at hlength
  omega

section Bounds

variable {cmp : κ → κ → Ordering} {keys : Array κ} {start stop : κ}

theorem span_of_ne_gt (h : cmp start stop ≠ .gt) :
    span cmp keys start stop =
      (lowerBound cmp keys start, max (lowerBound cmp keys start) (upperBound cmp keys stop)) :=
  if_neg (by simpa using h)

/-- With bounds in order the first end of a span is a place where the first search may stop, and so
is the second end for the second search, unless it had to be raised. -/
theorem turnsAt_span (h : cmp start stop ≠ .gt) :
    TurnsAt (cmp · start == .lt) keys (span cmp keys start stop).1 ∧
      ∃ upper, TurnsAt (cmp · stop != .gt) keys upper ∧
        (span cmp keys start stop).2 = max (span cmp keys start stop).1 upper := by
  rw [span_of_ne_gt h]
  exact ⟨turnsAt_partitionPoint _ keys, _, turnsAt_partitionPoint _ keys, rfl⟩

/-- Three hands in a circle: each comes before the next one, and the last before the first. -/
def inCircle (a b : Fin 3) : Ordering :=
  if a = b then .eq else if a + 1 = b then .lt else .gt

-- One hand lies before the first bound and, the circle closing, behind the second one.
example : upperBound inCircle #[0] 2 < lowerBound inCircle #[0] 1 ∧
    span inCircle #[0] 1 2 = (1, 1) := by
  decide +kernel

/-- On sorted keys the first bound is the number of keys below `start` and the second one the number
of keys not above `stop`. The second one is no less already, so raising it changes nothing. -/
theorem bounds_eq_countP [TransCmp cmp]
    (hsorted : keys.toList.Pairwise fun a b => (cmp a b).isLE) (h : cmp start stop ≠ .gt)
    {lower upper : Nat} (hlower : TurnsAt (cmp · start == .lt) keys lower)
    (hupper : TurnsAt (cmp · stop != .gt) keys upper) :
    lower = keys.countP (cmp · start == .lt) ∧
      max lower upper = keys.countP (cmp · stop != .gt) := by
  have hbelow := hlower.eq_countP (pairwise_below hsorted start)
  have hnotAbove := hupper.eq_countP (pairwise_notAbove hsorted stop)
  have hle : keys.countP (cmp · start == .lt) ≤ keys.countP (cmp · stop != .gt) := by
    refine Array.countP_mono_left fun key _ hkey => ?_
    have hlt : cmp key stop = .lt :=
      TransCmp.lt_of_lt_of_isLE (beq_iff_eq.mp hkey) (Ordering.isLE_iff_ne_gt.mpr h)
    simp [hlt]
  exact ⟨hbelow, by rw [hbelow, hnotAbove, Nat.max_eq_right hle]⟩

theorem span_eq_countP [TransCmp cmp]
    (hsorted : keys.toList.Pairwise fun a b => (cmp a b).isLE) (h : cmp start stop ≠ .gt) :
    span cmp keys start stop =
      (keys.countP (cmp · start == .lt), keys.countP (cmp · stop != .gt)) := by
  have hbounds := bounds_eq_countP hsorted h (turnsAt_partitionPoint (cmp · start == .lt) keys)
    (turnsAt_partitionPoint (cmp · stop != .gt) keys)
  rw [span_of_ne_gt h]
  exact Prod.ext hbounds.1 hbounds.2

end Bounds

/-! ## Queries that cut and count -/

namespace Index

variable [IndexKey κ]

/-- The queries between two bounds give the rows of this part, and their number. -/
structure Serves (i : Index κ) (start stop : κ) (part : Array RowId) : Prop where
  countRange_eq : i.countRange start stop = part.size
  rangeInKeyOrder : ∀ {α : Type} (table : Table α), i.table = table.id → ∃ rows,
    (i.rangeInKeyOrder table start stop).run () =
        { result := .ok rows, state := (), log := [.indexRangeByValue table.name part.size] } ∧
      rows.ids = part.toList
  range : ∀ {α : Type} (table : Table α), i.table = table.id → ∃ rows,
    (i.range table start stop).run () =
        { result := .ok rows, state := (), log := [.indexRange table.name part.size] } ∧
      rows.ids.Perm part.toList ∧ rows.ids.Pairwise fun a b => a.index ≤ b.index

/-- A look-up of the value gives the rows of this part. -/
structure Finds (i : Index κ) (value : κ) (part : Array RowId) : Prop where
  rowsWith_eq : i.rowsWith value = part.toList
  find : ∀ {α : Type} (table : Table α), i.table = table.id → ∃ rows,
    (i.find table value).run () =
        { result := .ok rows, state := (), log := [.indexFind table.name part.size] } ∧
      rows.ids = part.toList

omit [IndexKey κ] in
theorem demand_of_eq {α : Type} {i : Index κ} {table : Table α} (h : i.table = table.id) :
    i.demand table = .ok () :=
  if_pos h

section Slices

variable {i : Index κ} {start stop : κ} {part : Array RowId}

theorem slice?_span (i : Index κ) (start stop : κ) :
    slice? i.rows (i.span start stop).1 (i.span start stop).2 =
      some (i.rows.extract (i.span start stop).1 (i.span start stop).2) :=
  slice?_eq_some_iff.mpr ⟨span_ordered .., i.size_eq ▸ span_le_size .., rfl⟩

theorem ids_stretch {α : Type} (table : Table α)
    (h : slice? i.rows (i.span start stop).1 (i.span start stop).2 = some part) :
    (i.stretch table start stop).ids = part.toList :=
  congrArg Array.toList (slice?_eq_some_iff.mp h).2.2

theorem size_stretch {α : Type} (table : Table α)
    (h : slice? i.rows (i.span start stop).1 (i.span start stop).2 = some part) :
    (i.stretch table start stop).size = part.size := by
  rw [← Rows.length_ids, ids_stretch table h, Array.length_toList]

theorem serves_of_slice?
    (h : slice? i.rows (i.span start stop).1 (i.span start stop).2 = some part) :
    i.Serves start stop part where
  countRange_eq := by
    have hsub := Nat.psub_eq_some.mp (psub_of_slice? h)
    show (i.span start stop).2 - (i.span start stop).1 = part.size
    omega
  rangeInKeyOrder table htable := by
    have hrun := run_rangeInKeyOrder (demand_of_eq htable) start stop
    rw [size_stretch table h] at hrun
    exact ⟨_, hrun, ids_stretch table h⟩
  range table htable := by
    have hrun := run_range (demand_of_eq htable) start stop
    rw [size_stretch table h] at hrun
    refine ⟨_, hrun, ?rows, ?order⟩
    case rows =>
      rw [Rows.ids_ofList, ids_stretch table h]
      exact List.mergeSort_perm _ _
    case order =>
      rw [Rows.ids_ofList]
      exact pairwise_mergeSort_index _

theorem finds_of_slice? {value : κ}
    (h : slice? i.rows (i.span value value).1 (i.span value value).2 = some part) :
    i.Finds value part where
  rowsWith_eq := congrArg Array.toList (slice?_eq_some_iff.mp h).2.2
  find table htable := by
    have hrun := run_find (demand_of_eq htable) value
    rw [size_stretch table h] at hrun
    exact ⟨_, hrun, ids_stretch table h⟩

end Slices

/-- Over keys in any order and with any comparison, every span is a window of the index: the rows in
it can be cut out and its bounds subtracted, and the queries give the rows that are cut out. With
bounds in order, both ends are places where a search may stop, and on keys that are sorted under a
total preorder they are numbers of keys. Any two other places where the searches may stop do as
well: between them, too, a part can be cut out, and on sorted keys they are the same places. -/
theorem spans_cut_rows (i : Index κ) :
    (∀ start stop, ∃ lo hi part,
      i.span start stop = (lo, hi) ∧ lo ≤ hi ∧ hi ≤ i.keys.size ∧
      slice? i.rows lo hi = some part ∧ Nat.psub hi lo = some part.size ∧
      i.Serves start stop part ∧
      (IndexKey.le start stop →
        TurnsAt (IndexKey.compare · start == .lt) i.keys lo ∧
        ∃ upper, TurnsAt (IndexKey.compare · stop != .gt) i.keys upper ∧ hi = max lo upper) ∧
      (LawfulKey κ → (i.keys.toList.Pairwise fun a b => IndexKey.le a b) →
        IndexKey.le start stop →
          lo = i.keys.countP (IndexKey.compare · start == .lt) ∧
          hi = i.keys.countP (IndexKey.compare · stop != .gt))) ∧
    (∀ value, ∃ part,
      slice? i.rows (i.span value value).1 (i.span value value).2 = some part ∧
      i.Finds value part) ∧
    ∀ start stop lower upper,
      TurnsAt (IndexKey.compare · start == .lt) i.keys lower →
      TurnsAt (IndexKey.compare · stop != .gt) i.keys upper →
        (∃ part, slice? i.rows lower (max lower upper) = some part ∧
          Nat.psub (max lower upper) lower = some part.size) ∧
        (LawfulKey κ → (i.keys.toList.Pairwise fun a b => IndexKey.le a b) →
          IndexKey.le start stop →
            lower = i.keys.countP (IndexKey.compare · start == .lt) ∧
            max lower upper = i.keys.countP (IndexKey.compare · stop != .gt)) := by
  refine ⟨fun start stop => ?_, fun value => ?_, fun start stop lower upper hlower hupper => ?_⟩
  · have hslice := i.slice?_span start stop
    refine ⟨_, _, _, rfl, span_ordered .., span_le_size .., hslice, psub_of_slice? hslice,
      serves_of_slice? hslice, fun hle => ?turns, fun _ hsorted hle => ?counts⟩
    case turns => exact turnsAt_span (Ordering.isLE_iff_ne_gt.mp hle)
    case counts =>
      exact Prod.ext_iff.mp (span_eq_countP hsorted (Ordering.isLE_iff_ne_gt.mp hle))
  · exact ⟨_, i.slice?_span value value, finds_of_slice? (i.slice?_span value value)⟩
  · have hslice := slice?_max (i.size_eq ▸ hlower.le_size) (i.size_eq ▸ hupper.le_size)
    refine ⟨⟨_, hslice, psub_of_slice? hslice⟩, fun _ hsorted hle => ?_⟩
    exact bounds_eq_countP hsorted (Ordering.isLE_iff_ne_gt.mp hle) hlower hupper

/-- An index over the depths of four places, two of which are equally deep. -/
def soundings : Index Nat where
  table := { value := 27 }
  keys := #[3, 5, 5, 8]
  rows := ([2, 0, 3, 1].filterMap RowId.ofIndex?).toArray
  size_eq := by decide

theorem spans_cut_rows_soundings :
    LawfulKey Nat ∧ (soundings.keys.toList.Pairwise fun a b => IndexKey.le a b) ∧
      IndexKey.le 4 5 ∧ soundings.span 4 5 = (1, 3) ∧
      (∃ part, slice? soundings.rows 1 3 = some part ∧ soundings.Serves 4 5 part) ∧
      TurnsAt (IndexKey.compare · 4 == .lt) soundings.keys 1 ∧
      TurnsAt (IndexKey.compare · 5 != .gt) soundings.keys 3 ∧
      1 = soundings.keys.countP (IndexKey.compare · 4 == .lt) ∧
      max 1 3 = soundings.keys.countP (IndexKey.compare · 5 != .gt) := by
  have hlawful : LawfulKey Nat := inferInstanceAs (TransCmp (Ord.compare : Nat → Nat → Ordering))
  have hsorted : soundings.keys.toList.Pairwise fun a b => IndexKey.le a b := by decide
  have hlower : TurnsAt (IndexKey.compare · 4 == .lt) soundings.keys 1 :=
    ⟨by decide, by decide, by decide⟩
  have hupper : TurnsAt (IndexKey.compare · 5 != .gt) soundings.keys 3 :=
    ⟨by decide, by decide, by decide⟩
  obtain ⟨hspans, -, hturns⟩ := spans_cut_rows soundings
  obtain ⟨lo, hi, part, hspan, -, -, hslice, -, hserves, -, hcounts⟩ := hspans 4 5
  obtain ⟨hlo, hhi⟩ := hcounts hlawful hsorted (by decide)
  obtain rfl : lo = 1 := hlo.trans (by decide)
  obtain rfl : hi = 3 := hhi.trans (by decide)
  exact ⟨hlawful, hsorted, by decide, hspan, ⟨part, hslice, hserves⟩, hlower, hupper,
    (hturns 4 5 1 3 hlower hupper).2 hlawful hsorted (by decide)⟩

end Index

end StaticTables
