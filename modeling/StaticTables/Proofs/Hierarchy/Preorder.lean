import Mathlib
import StaticTables.Proofs.Hierarchy.Walk
import StaticTables.Proofs.Link.Inverse

/-!
# Pre-order listings

The tree of a row is listed by the row and then, child by child in table order, by the trees of its
children. Children stand behind their parents, so this rule leaves open the listing of no row. A
walk that enters no row twice comes to an end by itself, and what it has entered then is what the
listings of its roots hold one after the other, each row where it stands first.
-/
namespace StaticTables.Hierarchy

variable {α : Type}

/-! ## Walks without a bound -/

/-- A walk over rows, one after the other, from the rows that were entered before it to those that
are entered when it has come to its end. A row entered before is passed over; any other is entered,
and its children are walked over before the walk goes on. -/
inductive Walks (children : RowId → List RowId) : List RowId → List RowId → List RowId → Prop
  | done {seen : List RowId} : Walks children seen [] seen
  | skip {seen rows out : List RowId} {row : RowId} (old : row ∈ seen)
      (rest : Walks children seen rows out) : Walks children seen (row :: rows) out
  | enter {seen rows below out : List RowId} {row : RowId} (new : row ∉ seen)
      (down : Walks children (seen ++ [row]) (children row) below)
      (rest : Walks children below rows out) : Walks children seen (row :: rows) out

section Rule

variable {children : RowId → List RowId} {rank : RowId → Nat}

/-- Where every step down lowers the rank, a bound above the rank is not noticed. -/
theorem walks_foldl_visit (hrank : ∀ row, ∀ child ∈ children row, rank child < rank row)
    {bound : Nat} {rows : List RowId} (hbound : ∀ row ∈ rows, rank row < bound)
    (seen : List RowId) : Walks children seen rows (rows.foldl (visit children bound) seen) := by
  induction bound generalizing rows seen with
  | zero =>
    cases rows with
    | nil => exact .done
    | cons row rows => exact absurd (hbound row List.mem_cons_self) (Nat.not_lt_zero _)
  | succ bound ih =>
    induction rows generalizing seen with
    | nil => exact .done
    | cons row rows ihrows =>
      obtain ⟨hrow, hrows⟩ := List.forall_mem_cons.mp hbound
      rw [List.foldl_cons]
      by_cases hseen : row ∈ seen
      · have hskip : visit children (bound + 1) seen row = seen := if_pos hseen
        rw [hskip]
        exact .skip hseen (ihrows hrows seen)
      · have henter : visit children (bound + 1) seen row =
            (children row).foldl (visit children bound) (seen ++ [row]) := if_neg hseen
        rw [henter]
        refine .enter hseen (ih (fun child hchild => ?_) _) (ihrows hrows _)
        have := hrank row child hchild
        omega

/-! ## The rule of a listing -/

/-- Each row is listed before the listings of its children, which follow one after the other. -/
def Preordered (children : RowId → List RowId) (listing : RowId → List RowId) : Prop :=
  ∀ row, listing row = row :: (children row).flatMap listing

theorem preorder_succ (hrank : ∀ row, ∀ child ∈ children row, rank child < rank row) {bound : Nat}
    {row : RowId} (hbound : rank row < bound) :
    preorder children (bound + 1) row = preorder children bound row := by
  induction bound generalizing row with
  | zero => exact absurd hbound (Nat.not_lt_zero _)
  | succ bound ih =>
    rw [preorder, preorder]
    refine congrArg _ (List.flatMap_congr fun child hchild => ih ?_)
    have := hrank row child hchild
    omega

/-- With a bound above all ranks the walk without memory keeps to the rule. -/
theorem preordered_preorder (hrank : ∀ row, ∀ child ∈ children row, rank child < rank row)
    {bound : Nat} (hbound : ∀ row, rank row < bound) :
    Preordered children (preorder children bound) := by
  intro row
  rw [← preorder_succ hrank (hbound row), preorder]

/-- There is no other listing. -/
theorem Preordered.eq_preorder (hrank : ∀ row, ∀ child ∈ children row, rank child < rank row)
    {listing : RowId → List RowId} (preordered : Preordered children listing) {bound : Nat}
    {row : RowId} (hbound : rank row < bound) :
    listing row = preorder children bound row := by
  induction bound generalizing row with
  | zero => exact absurd hbound (Nat.not_lt_zero _)
  | succ bound ih =>
    rw [preordered row, preorder]
    refine congrArg _ (List.flatMap_congr fun child hchild => ih ?_)
    have := hrank row child hchild
    omega

end Rule

/-! ## The walk of a hierarchy -/

section Listing

variable {h : Hierarchy α} {table : Table α}

/-- The rows whose parent is this one, in table order. -/
def childRows (h : Hierarchy α) (table : Table α) (row : RowId) : List RowId :=
  (table.records.filter fun r => h.parentRef r = some ⟨row⟩).map Record.row

/-- The reverse index finds the children of a row. -/
theorem rowsWith_reverse (h : Hierarchy α) (table : Table α) :
    (h.reverse table).rowsWith = h.childRows table := by
  funext row
  rw [reverse, Index.rowsWith_ofColumn, childRows]
  refine congrArg _ (List.filter_congr fun r _ => ?_)
  exact Relationship.any_targetRow_eq h.parent.reference ⟨row⟩ r.value

theorem Ordered.walks_visited (ordered : h.Ordered table) (rows : List RowId) :
    Walks (h.childRows table) [] rows
      (rows.foldl (visit (h.reverse table).rowsWith ((h.reverse table).size + 1)) []) := by
  rw [← rowsWith_reverse]
  exact walks_foldl_visit ordered.indexedBehind_child_lt (fun row _ => indexedBehind_lt row) []

theorem Ordered.preordered_listing (ordered : h.Ordered table) :
    Preordered (h.childRows table) (h.listing table) := by
  rw [← rowsWith_reverse]
  exact preordered_preorder ordered.indexedBehind_child_lt indexedBehind_lt

theorem Ordered.eq_listing (ordered : h.Ordered table) {other : RowId → List RowId}
    (preordered : Preordered (h.childRows table) other) : other = h.listing table := by
  rw [← rowsWith_reverse] at preordered
  funext row
  exact preordered.eq_preorder ordered.indexedBehind_child_lt (indexedBehind_lt row)

end Listing

/-- Over a hierarchy that was built from a column of parents, whatever its settings, every row has
one listing, and from any roots the walk ends with what their listings hold, one after the other and
without repetitions. -/
theorem walk_lists_roots_in_preorder {settings : Settings} {name : String} {table : Table α}
    {parent : α → Option (Ref α)} {h : Hierarchy α}
    (built : ((build settings name table parent).run ()).result = .ok h) :
    (∀ r, h.parentRef r = parent r.value) ∧
      ∃ listing : RowId → List RowId, Preordered (h.childRows table) listing ∧
        (∀ other, Preordered (h.childRows table) other → other = listing) ∧
        ∀ roots : List (Ref α), ∃ rows, ((subtreeByWalk table roots).run h).result = .ok rows ∧
          Walks (h.childRows table) [] (roots.map Ref.row) rows.ids ∧
          rows.ids = (roots.flatMap fun root => listing root.row).eraseDups := by
  have ordered := ordered_of_build built
  refine ⟨parentRef_of_build built, h.listing table, ordered.preordered_listing,
    fun _ => ordered.eq_listing, fun roots => ?_⟩
  obtain ⟨rows, hrun, hids⟩ := ordered.walk_lists_preorders roots
  obtain ⟨visited, hvisit, hwalked⟩ := ordered.exists_visited roots
  obtain rfl := Except.ok.inj (hrun.symm.trans hvisit)
  exact ⟨rows, hrun, hwalked ▸ ordered.walks_visited _, hids⟩

/-- Five rows: the first has the second and the fourth below it, and the second the others. -/
def outline : Table (Option RowId) where
  id := { value := 19 }
  name := "outline"
  origin := 0
  rows := #[none, RowId.ofIndex? 0, RowId.ofIndex? 1, RowId.ofIndex? 0, RowId.ofIndex? 1]
  size_le := by decide

/-- A child is given before its parent, and the listing of the one stands in that of the other. -/
theorem walk_lists_roots_in_preorder_outline :
    ∃ h : Hierarchy (Option RowId),
      ((build {} "parent" outline (Option.map Ref.mk)).run ()).result = .ok h ∧
      (∀ r, h.parentRef r = r.value.map Ref.mk) ∧
      ∃ listing rows, Preordered (h.childRows outline) listing ∧
        ((subtreeByWalk outline [⟨{ index := 1 }⟩, ⟨{ index := 0 }⟩]).run h).result = .ok rows ∧
        Walks (h.childRows outline) [] [{ index := 1 }, { index := 0 }] rows.ids ∧
        rows.ids = (listing { index := 1 } ++ listing { index := 0 }).eraseDups := by
  obtain ⟨hparent, listing, preordered, -, hwalk⟩ :=
    @walk_lists_roots_in_preorder _ {} "parent" outline (Option.map Ref.mk) _ rfl
  obtain ⟨rows, hrun, hwalks, hids⟩ := hwalk [⟨{ index := 1 }⟩, ⟨{ index := 0 }⟩]
  refine ⟨_, rfl, hparent, listing, rows, preordered, hrun, hwalks, ?_⟩
  simpa using hids

end StaticTables.Hierarchy
