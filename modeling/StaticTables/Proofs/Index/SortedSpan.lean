import Mathlib
import StaticTables.Index.Span

/-!
# Spans of sorted keys

The search for a partition point keeps its window around a place where a test stops to hold. On
keys that are sorted under a total preorder there is one such place for each bound of a span, so the
places of a span are exactly those of the keys between its bounds, and cutting the span out of any
list that is sorted by these keys is filtering the list.
-/
namespace StaticTables

open Std

variable {κ β : Type}

/-! ## The search -/

theorem test_of_le {test : κ → Bool} {keys : Array κ}
    (hsplit : keys.toList.Pairwise fun a b => test b → test a) {i j : Nat} (hij : i ≤ j)
    (hj : j < keys.size) (htest : test keys[j]) : test keys[i] := by
  rcases Nat.lt_or_eq_of_le hij with hlt | rfl
  · have hpair := List.pairwise_iff_getElem.mp hsplit i j (by simp; omega) (by simpa using hj) hlt
    simp only [Array.getElem_toList] at hpair
    exact hpair htest
  · exact htest

/-- A place where a test stops to hold: the key before it passes and the key at it fails, as far as
there are such keys. Keys in no particular order may have several such places. -/
structure TurnsAt (test : κ → Bool) (keys : Array κ) (place : Nat) : Prop where
  le_size : place ≤ keys.size
  before : ∀ i (h : i < keys.size), i + 1 = place → test keys[i]
  behind : ∀ h : place < keys.size, ¬ test keys[place]

/-- The window invariant: the key before the window passes the test, the key behind it fails. It
needs nothing of the keys, since each step moves one end of the window to a key that it has read. -/
theorem partitionPoint.search_turnsAt (test : κ → Bool) (keys : Array κ) (lo hi : Nat)
    (lo_le : lo ≤ hi) (hi_le : hi ≤ keys.size)
    (hbefore : ∀ i (h : i < keys.size), i + 1 = lo → test keys[i])
    (hbehind : ∀ h : hi < keys.size, ¬ test keys[hi]) :
    TurnsAt test keys (search test keys lo hi lo_le hi_le) := by
  fun_induction search test keys lo hi lo_le hi_le with
  | case1 lo hi lo_le hi_le hlt mid htest ih =>
    refine ih (fun j hj hjm => ?_) hbehind
    obtain rfl : j = mid := Nat.succ_inj.mp hjm
    exact htest
  | case2 lo hi lo_le hi_le hlt mid htest ih => exact ih hbefore fun _ => htest
  | case3 lo hi lo_le hi_le hge =>
    obtain rfl : lo = hi := by omega
    exact ⟨hi_le, hbefore, hbehind⟩

theorem turnsAt_partitionPoint (test : κ → Bool) (keys : Array κ) :
    TurnsAt test keys (partitionPoint test keys) :=
  partitionPoint.search_turnsAt test keys 0 keys.size _ _ (fun _ _ h => absurd h (by omega))
    (fun h => absurd h (by omega))

/-- Where the keys that pass come first, the test can only stop to hold behind all of them. -/
theorem TurnsAt.lt_iff {test : κ → Bool} {keys : Array κ} {place : Nat}
    (hturn : TurnsAt test keys place)
    (hsplit : keys.toList.Pairwise fun a b => test b → test a) {i : Nat} (h : i < keys.size) :
    i < place ↔ test keys[i] := by
  constructor
  · intro hlt
    obtain ⟨last, rfl⟩ := Nat.exists_eq_add_one_of_ne_zero (Nat.ne_zero_of_lt hlt)
    have hlast : last < keys.size := hturn.le_size
    exact test_of_le hsplit (Nat.le_of_lt_succ hlt) hlast (hturn.before last hlast rfl)
  · intro htest
    by_contra hge
    have hplace : place < keys.size := by omega
    exact hturn.behind hplace (test_of_le hsplit (by omega) h htest)

theorem lt_partitionPoint_iff {test : κ → Bool} {keys : Array κ}
    (hsplit : keys.toList.Pairwise fun a b => test b → test a) {i : Nat} (h : i < keys.size) :
    i < partitionPoint test keys ↔ test keys[i] :=
  (turnsAt_partitionPoint test keys).lt_iff hsplit h

/-! ## The two bounds -/

section Bounds

variable {cmp : κ → κ → Ordering} [TransCmp cmp] {keys : Array κ}

/-- Of sorted keys, those below a bound come first. -/
theorem pairwise_below (hsorted : keys.toList.Pairwise fun a b => (cmp a b).isLE) (start : κ) :
    keys.toList.Pairwise fun a b => cmp b start == .lt → cmp a start == .lt := by
  refine hsorted.imp fun {a b} hab hb => ?_
  rw [beq_iff_eq] at hb ⊢
  exact TransCmp.lt_of_isLE_of_lt hab hb

/-- Of sorted keys, those not above a bound come first. -/
theorem pairwise_notAbove (hsorted : keys.toList.Pairwise fun a b => (cmp a b).isLE) (stop : κ) :
    keys.toList.Pairwise fun a b => cmp b stop != .gt → cmp a stop != .gt := by
  refine hsorted.imp fun {a b} hab hb => ?_
  rw [bne_iff_ne, ne_eq, ← Ordering.isLE_iff_ne_gt] at hb ⊢
  exact TransCmp.isLE_trans hab hb

theorem lt_lowerBound_iff (hsorted : keys.toList.Pairwise fun a b => (cmp a b).isLE) (start : κ)
    {i : Nat} (h : i < keys.size) : i < lowerBound cmp keys start ↔ cmp keys[i] start = .lt := by
  rw [lowerBound, lt_partitionPoint_iff (pairwise_below hsorted start) h, beq_iff_eq]

theorem lt_upperBound_iff (hsorted : keys.toList.Pairwise fun a b => (cmp a b).isLE) (stop : κ)
    {i : Nat} (h : i < keys.size) :
    i < upperBound cmp keys stop ↔ (cmp keys[i] stop).isLE := by
  rw [upperBound, lt_partitionPoint_iff (pairwise_notAbove hsorted stop) h, bne_iff_ne,
    Ordering.isLE_iff_ne_gt]

/-- A place lies in the span exactly when its key lies between the bounds. With the bounds in the
wrong order there is no such key, by transitivity. -/
theorem mem_span_iff (hsorted : keys.toList.Pairwise fun a b => (cmp a b).isLE) (start stop : κ)
    {i : Nat} (h : i < keys.size) :
    (span cmp keys start stop).1 ≤ i ∧ i < (span cmp keys start stop).2 ↔
      (cmp start keys[i]).isLE ∧ (cmp keys[i] stop).isLE := by
  have hlower := lt_lowerBound_iff hsorted start h
  have hupper := lt_upperBound_iff hsorted stop h
  have hstart : (cmp start keys[i]).isLE ↔ ¬ cmp keys[i] start = .lt := by
    rw [← OrientedCmp.gt_iff_lt, ← Ordering.isLE_iff_ne_gt]
  unfold span
  split
  case isTrue hgt =>
    -- a key between the bounds would put them in order
    rw [beq_iff_eq] at hgt
    constructor
    · omega
    · intro hbetween
      obtain ⟨hle, hle'⟩ := hbetween
      have := TransCmp.isLE_trans hle hle'
      rw [hgt] at this
      contradiction
  case isFalse hle =>
    rw [hstart, ← hlower, ← hupper]
    omega

end Bounds

/-! ## Cutting a span out of a list -/

/-- A test that holds exactly inside a window of a list selects the window. -/
theorem filter_eq_window {l : List β} {p : β → Bool} {lo hi : Nat}
    (h : ∀ i (hi' : i < l.length), lo ≤ i ∧ i < hi ↔ p l[i]) :
    l.filter p = (l.drop lo).take (hi - lo) := by
  have hparts : l = l.take lo ++ ((l.drop lo).take (hi - lo) ++ (l.drop lo).drop (hi - lo)) := by
    rw [List.take_append_drop, List.take_append_drop]
  have hbefore : (l.take lo).filter p = [] := by
    rw [List.filter_eq_nil_iff]
    intro e he
    obtain ⟨i, hi', rfl⟩ := List.mem_take_iff_getElem.mp he
    rw [← h i (by omega)]
    omega
  have hinside : ((l.drop lo).take (hi - lo)).filter p = (l.drop lo).take (hi - lo) := by
    rw [List.filter_eq_self]
    intro e he
    obtain ⟨i, hi', rfl⟩ := List.mem_take_iff_getElem.mp he
    rw [List.length_drop] at hi'
    rw [List.getElem_drop, ← h (lo + i) (by omega)]
    omega
  have hbehind : ((l.drop lo).drop (hi - lo)).filter p = [] := by
    rw [List.drop_drop, List.filter_eq_nil_iff]
    intro e he
    obtain ⟨i, hi', rfl⟩ := List.mem_drop_iff_getElem.mp he
    rw [← h (lo + (hi - lo) + i) (by omega)]
    omega
  conv_lhs => rw [hparts]
  rw [List.filter_append, List.filter_append, hbefore, hinside, hbehind, List.nil_append,
    List.append_nil]

/-- In a list sorted by a key, the span between two bounds holds the elements between them. -/
theorem filter_eq_span {cmp : κ → κ → Ordering} [TransCmp cmp] {l : List β} {key : β → κ}
    (hsorted : (l.map key).Pairwise fun a b => (cmp a b).isLE) (start stop : κ) :
    (l.filter fun e => (cmp start (key e)).isLE && (cmp (key e) stop).isLE) =
      (l.drop (span cmp (l.map key).toArray start stop).1).take
        ((span cmp (l.map key).toArray start stop).2 -
          (span cmp (l.map key).toArray start stop).1) := by
  refine filter_eq_window fun i hi => ?_
  have hkeys : (l.map key).toArray.toList.Pairwise fun a b => (cmp a b).isLE := hsorted
  rw [mem_span_iff hkeys start stop (by simpa using hi)]
  simp

end StaticTables
