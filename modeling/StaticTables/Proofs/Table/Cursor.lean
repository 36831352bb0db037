import Mathlib
import StaticTables.Proofs.Table.Reading

/-!
# Reading from both ends

Selected rows keep two places in an array and are read up to where the two meet. Seen from outside
they are the list of the records that are still to be read, of which each read takes the first or
the last. What was read from the front, what is left, and what was read from the back, the other way
round, always make up the rows that there were at the start, and whose array it is that the places
lie in makes no difference.
-/
namespace StaticTables.Rows

variable {α : Type}

/-! ## Taking from a list -/

namespace End

variable {β : Type}

@[simp] theorem peek_nil (e : End) : e.peek ([] : List β) = none := by
  cases e <;> rfl

@[simp] theorem drop_nil (e : End) : e.drop ([] : List β) = [] := by
  cases e <;> rfl

theorem map_peek {γ : Type} (f : β → γ) (e : End) (l : List β) :
    e.peek (l.map f) = (e.peek l).map f := by
  cases e with
  | front => exact List.head?_map
  | back => exact List.getLast?_map

theorem map_drop {γ : Type} (f : β → γ) (e : End) (l : List β) :
    e.drop (l.map f) = (e.drop l).map f := by
  cases e with
  | front => exact List.map_tail.symm
  | back => exact List.map_dropLast.symm

end End

/-- Reading a list of records one by one, each time what stands at one of its ends. -/
abbrev taking : Interface (List (Record α)) where
  Query := End
  Answer _ := Option (Record α)
  ask e := fun l => { result := .ok (e.peek l), state := e.drop l, log := [] }

/-- The records that were found at one end, in the order in which they were found. -/
def found (e : End) (answers : List (Σ _ : End, Except Failure (Option (Record α)))) :
    List (Record α) :=
  answers.filterMap fun a => if a.1 = e then a.2.toOption.join else none

theorem found_cons_self (e : End) (o : Option (Record α))
    (answers : List (Σ _ : End, Except Failure (Option (Record α)))) :
    found e (⟨e, .ok o⟩ :: answers) = o.toList ++ found e answers := by
  cases o <;> simp [found, Except.toOption]

theorem found_cons_of_ne {e other : End} (h : other ≠ e) (result : Except Failure (Option (Record α)))
    (answers : List (Σ _ : End, Except Failure (Option (Record α)))) :
    found e (⟨other, result⟩ :: answers) = found e answers := by
  simp [found, h]

theorem answers_taking_cons (l : List (Record α)) (e : End) (calls : List End) :
    taking.answers l (e :: calls) = ⟨e, .ok (e.peek l)⟩ :: taking.answers (e.drop l) calls := rfl

theorem after_taking_cons (l : List (Record α)) (e : End) (calls : List End) :
    taking.after l (e :: calls) = taking.after (e.drop l) calls := rfl

/-- Nothing is lost between the two ends, and nothing is found twice. -/
theorem found_append_after (l : List (Record α)) (calls : List End) :
    found .front (taking.answers l calls) ++ taking.after l calls ++
      (found .back (taking.answers l calls)).reverse = l := by
  induction calls generalizing l with
  | nil => simp [Interface.answers, Interface.after, found]
  | cons e calls ih =>
    rw [answers_taking_cons, after_taking_cons]
    cases e with
    | front =>
      rw [found_cons_self, found_cons_of_ne End.noConfusion]
      cases l with
      | nil => simpa using ih []
      | cons r l => simpa [End.peek, End.drop] using ih l
    | back =>
      rw [found_cons_self, found_cons_of_ne End.noConfusion]
      rcases l.eq_nil_or_concat with rfl | ⟨l, r, rfl⟩
      · simpa using ih []
      · simpa [End.peek, End.drop, ← List.append_assoc] using ih l

/-- Taken from the front to the end, a list is found as it is. -/
theorem found_front (l : List (Record α)) :
    found .front (taking.answers l (List.replicate l.length .front)) = l := by
  induction l with
  | nil => rfl
  | cons r l ih =>
    rw [List.length_cons, List.replicate_succ, answers_taking_cons, found_cons_self]
    exact congrArg (r :: ·) ih

/-- Taken from the back to the end, a list is found the other way round. -/
theorem found_back (l : List (Record α)) :
    found .back (taking.answers l (List.replicate l.length .back)) = l.reverse := by
  induction l using List.reverseRecOn with
  | nil => rfl
  | append_singleton l r ih =>
    rw [List.length_append, List.length_singleton, List.replicate_succ, answers_taking_cons,
      found_cons_self, End.peek, End.drop, List.getLast?_concat, List.dropLast_concat, ih,
      List.reverse_concat]
    rfl

/-! ## What rows leave to be read -/

/-- These records of the table are what is left to be read, in this order. -/
structure Leaves (rows : Rows α) (table : Table α) (left : List (Record α)) : Prop where
  table_eq : rows.table = table
  ids_eq : rows.ids = left.map Record.row
  mem_records : ∀ r ∈ left, r ∈ table.records

variable {rows : Rows α} {table : Table α} {left : List (Record α)}

/-- Rows of the table are the rows of some of its records. -/
theorem exists_map_row_eq {ids : List RowId} (h : ∀ id ∈ ids, id.index < table.size) :
    ∃ left : List (Record α), ids = left.map Record.row ∧ ∀ r ∈ left, r ∈ table.records := by
  induction ids with
  | nil => exact ⟨[], rfl, by simp⟩
  | cons id ids ih =>
    obtain ⟨hid, hids⟩ := List.forall_mem_cons.mp h
    obtain ⟨left, hleft, hmem⟩ := ih hids
    obtain ⟨r, hr⟩ := table.exists_record hid
    obtain rfl := Table.row_eq_of_record? hr
    exact ⟨r :: left, congrArg _ hleft, List.forall_mem_cons.mpr ⟨Table.mem_records_iff.mpr hr, hmem⟩⟩

/-- A read takes what stands at an end of the list of records. -/
theorem Leaves.read (h : rows.Leaves table left) (e : End) :
    ((reading.ask e).run rows).result = .ok (e.peek left) ∧
      ((reading.ask e).run rows).state.Leaves table (e.drop left) := by
  obtain ⟨s, hrun, htable, hids⟩ := run_read rows e
  rw [hrun]
  constructor
  · rw [h.ids_eq, End.map_peek, h.table_eq]
    cases hpeek : e.peek left with
    | none => rfl
    | some r =>
      show some <$> table.row r.row = .ok (some r)
      rw [Table.row_of_mem (h.mem_records r (End.mem_of_peek hpeek))]
      rfl
  · constructor
    · exact htable.trans h.table_eq
    · rw [hids, h.ids_eq, End.map_drop]
    · intro r hr
      exact h.mem_records r (End.mem_of_mem_drop hr)

theorem Leaves.answers_eq (h : rows.Leaves table left) (calls : List End) :
    reading.answers rows calls = taking.answers left calls := by
  induction calls generalizing rows left with
  | nil => rfl
  | cons e calls ih =>
    obtain ⟨hresult, hleaves⟩ := h.read e
    rw [Interface.answers, Interface.answer, hresult, ih hleaves]
    rfl

theorem Leaves.after (h : rows.Leaves table left) (calls : List End) :
    (reading.after rows calls).Leaves table (taking.after left calls) := by
  induction calls generalizing rows left with
  | nil => exact h
  | cons e calls ih => exact ih (h.read e).2

/-- When nothing is left, nothing is found and nothing changes, however often one reads. -/
theorem exhausted (h : rows.ids = []) (calls : List End) :
    reading.after rows calls = rows ∧ ∀ a ∈ reading.answers rows calls, a.2 = .ok none := by
  induction calls with
  | nil => simp [Interface.after, Interface.answers]
  | cons e calls ih =>
    rw [Interface.after, Interface.answers, Interface.answer, run_read_of_nil h e]
    exact ⟨ih.1, List.forall_mem_cons.mpr ⟨rfl, ih.2⟩⟩

/-! ## What rows say about themselves -/

/-- However one asks what is left, it is these records of the table, each under its own row. -/
structure Standing (rows : Rows α) (table : Table α) (left : List (Record α)) : Prop where
  mem_records : ∀ r ∈ left, r ∈ table.records
  ids_eq : rows.ids = left.map Record.row
  size_eq : rows.size = rows.ids.length
  sizeHint_eq : rows.sizeHint = (rows.ids.length, rows.ids.length)
  isEmpty_iff : rows.isEmpty = true ↔ rows.ids = []
  cloneForward : found .front
    (reading.answers rows.clone (List.replicate rows.ids.length .front)) = left
  cloneBackward : found .back
    (reading.answers rows.clone (List.replicate rows.ids.length .back)) = left.reverse
  rest_eq : rows.clone.rest = .ok left
  restBack_eq : rows.clone.restBack = .ok left.reverse
  withIds_eq : rows.withIds = .ok (left.map fun r => (r.row, r))
  withIdsBack_eq : rows.withIdsBack = .ok (left.reverse.map fun r => (r.row, r))
  withIdsSize_eq : rows.withIdsSize = rows.ids.length

theorem mapM_pair_row {l : List (Record α)} (h : ∀ r ∈ l, r ∈ table.records) :
    (l.map Record.row).mapM (fun id => (id, ·) <$> table.row id) =
      .ok (l.map fun r => (r.row, r)) := by
  induction l with
  | nil => rfl
  | cons r l ih =>
    obtain ⟨hr, hl⟩ := List.forall_mem_cons.mp h
    rw [List.map_cons, List.mapM_cons, Table.row_of_mem hr, ih hl]
    rfl

theorem Leaves.standing (h : rows.Leaves table left) : rows.Standing table left := by
  have hclone : rows.clone.Leaves table left := ⟨h.table_eq, h.ids_eq, h.mem_records⟩
  have hlength : rows.ids.length = left.length := by rw [h.ids_eq, List.length_map]
  have hreverse : ∀ r ∈ left.reverse, r ∈ table.records := fun r hr =>
    h.mem_records r (List.mem_reverse.mp hr)
  exact {
    mem_records := h.mem_records
    ids_eq := h.ids_eq
    size_eq := rows.length_ids.symm
    sizeHint_eq := by rw [length_ids]; rfl
    isEmpty_iff := by
      have := rows.front_le
      rw [ids_eq_nil_iff, isEmpty, beq_iff_eq]
      omega
    cloneForward := by rw [hclone.answers_eq, hlength, found_front]
    cloneBackward := by rw [hclone.answers_eq, hlength, found_back]
    rest_eq := by
      rw [rest, hclone.ids_eq, hclone.table_eq]
      exact Table.mapM_row h.mem_records
    restBack_eq := by
      rw [restBack, hclone.ids_eq, hclone.table_eq, ← List.map_reverse]
      exact Table.mapM_row hreverse
    withIds_eq := by
      rw [withIds, takeIds_eq_ids, h.ids_eq, h.table_eq]
      exact mapM_pair_row h.mem_records
    withIdsBack_eq := by
      rw [withIdsBack, takeIds_eq_ids, h.ids_eq, h.table_eq, ← List.map_reverse]
      exact mapM_pair_row hreverse
    withIdsSize_eq := by rw [withIdsSize, takeIds_eq_ids] }

/-! ## Any calls at the two ends -/

/-- The rows of a list, in an array held in this way. -/
def held (table : Table α) (ids : List RowId) : Holding → Rows α
  | .borrowed => ofArray table ids.toArray
  | .owned => ofList table ids

/-- What some calls have found and left of the rows that there were at the start. -/
structure Accounted (rows : Rows α) (table : Table α) (ids : List RowId) (calls : List End)
    (answers : List (Σ _ : End, Except Failure (Option (Record α)))) (left : List (Record α)) :
    Prop where
  answers_eq : reading.answers rows calls = answers
  inTable : ∀ a ∈ answers, ∃ o, a.2 = .ok o ∧ ∀ r ∈ o, r ∈ table.records
  account : (found .front answers).map Record.row ++ (reading.after rows calls).ids ++
    ((found .back answers).map Record.row).reverse = ids
  standing : (reading.after rows calls).Standing table left
  exhausted : (reading.after rows calls).ids = [] → ∀ more,
    reading.after (reading.after rows calls) more = reading.after rows calls ∧
      ∀ a ∈ reading.answers (reading.after rows calls) more, a.2 = .ok none

theorem Leaves.accounted (h : rows.Leaves table left) (calls : List End) :
    rows.Accounted table rows.ids calls (taking.answers left calls) (taking.after left calls) where
  answers_eq := h.answers_eq calls
  inTable := by
    have hinside : rows.Inside table := by
      refine ⟨h.table_eq, fun id hid => ?_⟩
      rw [h.ids_eq] at hid
      obtain ⟨r, hr, rfl⟩ := List.mem_map.mp hid
      exact Table.lt_size_of_record (Table.mem_records_iff.mp (h.mem_records r hr))
    rw [← h.answers_eq]
    exact hinside.reads calls
  account := by
    rw [(h.after calls).ids_eq, h.ids_eq, ← List.map_reverse, ← List.map_append,
      ← List.map_append, found_append_after]
  standing := (h.after calls).standing
  exhausted := exhausted

theorem table_held (table : Table α) (ids : List RowId) (holding : Holding) :
    (held table ids holding).table = table := by
  cases holding <;> rfl

@[simp] theorem ids_held (table : Table α) (ids : List RowId) (holding : Holding) :
    (held table ids holding).ids = ids := by
  cases holding <;> simp [held]

/-- Whatever the calls at the two ends, and whether the array is borrowed or owned: all are answered
by records of the table, the same ones for either array, and what they found and left makes up the
rows of the start. What is left can be asked for in any way, and when nothing is, nothing happens
any more. -/
theorem reads_account_for_rows (table : Table α) (ids : List RowId)
    (inside : ∀ id ∈ ids, id.index < table.size) (calls : List End) :
    ∃ answers left, ∀ holding,
      (held table ids holding).Accounted table ids calls answers left := by
  obtain ⟨all, hall, hmem⟩ := exists_map_row_eq inside
  refine ⟨taking.answers all calls, taking.after all calls, fun holding => ?_⟩
  have hleaves : (held table ids holding).Leaves table all :=
    ⟨table_held table ids holding, (ids_held table ids holding).trans hall, hmem⟩
  have haccounted := hleaves.accounted calls
  rwa [ids_held] at haccounted

/-- Four letters. -/
def letters : Table Char where
  id := { value := 20 }
  name := "letters"
  origin := 0
  rows := #['a', 'b', 'c', 'd']
  size_le := by decide

/-- Three of the letters, one of them twice, read until the ends have met and once more. -/
theorem reads_account_for_rows_letters :
    (∀ id ∈ [({ index := 3 } : RowId), { index := 0 }, { index := 3 }, { index := 2 }],
        id.index < letters.size) ∧
      ∃ answers left, ∀ holding,
        (held letters [{ index := 3 }, { index := 0 }, { index := 3 }, { index := 2 }]
          holding).Accounted letters
          [{ index := 3 }, { index := 0 }, { index := 3 }, { index := 2 }]
          [.back, .front, .back, .front, .back] answers left := by
  have inside : ∀ id ∈ [({ index := 3 } : RowId), { index := 0 }, { index := 3 }, { index := 2 }],
      id.index < letters.size := by decide
  exact ⟨inside, reads_account_for_rows letters _ inside [.back, .front, .back, .front, .back]⟩

end StaticTables.Rows
