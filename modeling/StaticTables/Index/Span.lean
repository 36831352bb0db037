/-!
Stretches of a sorted array, found by binary search. The search is defined for every array and every
comparison and always stays inside the array; when the array is sorted, the span from `start` to
`stop` holds exactly the keys that lie between them, both included.
-/
namespace StaticTables

variable {κ : Type}

/-- The place of the first element that fails the test, where the test holds of a first part of the
array and of nothing behind it. Any other array may have several places where the test stops to
hold, and another search by halving may end at another one of them. -/
def partitionPoint (test : κ → Bool) (keys : Array κ) : Nat :=
  search 0 keys.size (Nat.zero_le _) (Nat.le_refl _)
where
  /-- Narrows the window in which the place lies. -/
  search (lo hi : Nat) (lo_le : lo ≤ hi) (hi_le : hi ≤ keys.size) : Nat :=
    if h : lo < hi then
      let mid := (lo + hi) / 2
      if test keys[mid] then search (mid + 1) hi (by omega) hi_le
      else search lo mid (by omega) (by omega)
    else lo
  termination_by hi - lo

/-- The first place whose key is not before `start`. -/
def lowerBound (cmp : κ → κ → Ordering) (keys : Array κ) (start : κ) : Nat :=
  partitionPoint (fun key => cmp key start == .lt) keys

/-- The first place whose key is after `stop`. -/
def upperBound (cmp : κ → κ → Ordering) (keys : Array κ) (stop : κ) : Nat :=
  partitionPoint (fun key => cmp key stop != .gt) keys

/-- The places of the keys from `start` to `stop`, as the first place and the place behind the last.
Bounds in the wrong order are not swapped; there is nothing between them. -/
def span (cmp : κ → κ → Ordering) (keys : Array κ) (start stop : κ) : Nat × Nat :=
  if cmp start stop == .gt then (0, 0)
  else (lowerBound cmp keys start, max (lowerBound cmp keys start) (upperBound cmp keys stop))

theorem partitionPoint.search_bounds (test : κ → Bool) (keys : Array κ) (lo hi : Nat)
    (lo_le : lo ≤ hi) (hi_le : hi ≤ keys.size) :
    lo ≤ search test keys lo hi lo_le hi_le ∧ search test keys lo hi lo_le hi_le ≤ hi := by
  fun_induction search test keys lo hi lo_le hi_le with
  | case1 lo hi lo_le hi_le h mid ht ih => omega
  | case2 lo hi lo_le hi_le h mid ht ih => omega
  | case3 lo hi lo_le hi_le h => omega

theorem partitionPoint_le_size (test : κ → Bool) (keys : Array κ) :
    partitionPoint test keys ≤ keys.size :=
  (partitionPoint.search_bounds test keys 0 keys.size _ _).2

theorem span_ordered (cmp : κ → κ → Ordering) (keys : Array κ) (start stop : κ) :
    (span cmp keys start stop).1 ≤ (span cmp keys start stop).2 := by
  unfold span
  split
  · exact Nat.le_refl _
  · exact Nat.le_max_left _ _

theorem span_le_size (cmp : κ → κ → Ordering) (keys : Array κ) (start stop : κ) :
    (span cmp keys start stop).2 ≤ keys.size := by
  unfold span
  split
  · exact Nat.zero_le _
  · exact Nat.max_le.2 ⟨partitionPoint_le_size _ _, partitionPoint_le_size _ _⟩

end StaticTables
