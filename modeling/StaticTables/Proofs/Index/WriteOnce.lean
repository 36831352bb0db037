import Mathlib
import StaticTables.Proofs.Index.Settled
import StaticTables.Proofs.Query.Interface

/-!
# A lazy index is written once

The first call that comes with a table makes a lazy index build over this table. No call before it
builds anything, and none after it builds again, whatever table it comes with.
-/
namespace StaticTables.LazyIndex

variable {α κ : Type}

/-! ## Calls -/

/-- A call to a lazy index. -/
inductive Call (α : Type) where
  | get (table : Table α)
  | force (table : Table α)
  | built
  | isBuilt

/-- The table that a call comes with. -/
def Call.table? : Call α → Option (Table α)
  | get table | force table => some table
  | built | isBuilt => none

/-- The table of the first call that comes with one. -/
def firstTable (calls : List (Call α)) : Option (Table α) := calls.findSome? Call.table?

def Call.Answer (κ : Type) : Call α → Type
  | get _ => Index κ
  | force _ => Unit
  | built => Option (Index κ)
  | isBuilt => Bool

variable [IndexKey κ]

/-- A lazy index by what can be asked of it. -/
abbrev interface : Interface (LazyIndex α κ) where
  Query := Call α
  Answer := Call.Answer κ
  ask
    | .get table => get table
    | .force table => force table
    | .built => Traced.look fun l => .ok l.built
    | .isBuilt => Traced.look fun l => .ok l.isBuilt

/-- The events of a build over a table. -/
def buildLog (table : Table α) (column : α → Option κ) : List Event :=
  [.indexLazyBuild table.name,
    .indexBuild table.name table.size (Index.ofColumn table column).rows.size]

variable {l : LazyIndex α κ}

/-! ## One call -/

/-- Forcing an index is asking for it and dropping it. -/
theorem run_force (table : Table α) :
    (force table).run l =
      { result := ((get table).run l).result.map fun _ => ()
        state := ((get table).run l).state
        log := ((get table).run l).log } := by
  rw [force, Traced.run_bind]
  cases ((get table).run l).result <;> simp [Except.map]

theorem idle_of_built {i : Index κ} (h : l.built = some i) (c : Call α) :
    ((interface.ask c).run l).state = l ∧ ((interface.ask c).run l).log = [] := by
  cases c with
  | get table =>
    show ((get table).run l).state = l ∧ ((get table).run l).log = []
    rw [run_get_of_built h]
    exact ⟨rfl, rfl⟩
  | force table =>
    show ((force table).run l).state = l ∧ ((force table).run l).log = []
    rw [run_force, run_get_of_built h]
    exact ⟨rfl, rfl⟩
  | built => exact ⟨rfl, rfl⟩
  | isBuilt => exact ⟨rfl, rfl⟩

theorem idle_of_no_table {c : Call α} (h : c.table? = none) :
    ((interface.ask c).run l).state = l ∧ ((interface.ask c).run l).log = [] := by
  cases c with
  | get table => contradiction
  | force table => contradiction
  | built => exact ⟨rfl, rfl⟩
  | isBuilt => exact ⟨rfl, rfl⟩

theorem step_of_table (hl : l.built = none) {c : Call α} {table : Table α}
    (h : c.table? = some table) :
    ((interface.ask c).run l).state = l.forced table ∧
      ((interface.ask c).run l).log = buildLog table l.column := by
  cases c with
  | get t =>
    obtain rfl := Option.some.inj h
    show ((get t).run l).state = l.forced t ∧ ((get t).run l).log = buildLog t l.column
    rw [run_get_of_not_built hl]
    exact ⟨rfl, rfl⟩
  | force t =>
    obtain rfl := Option.some.inj h
    show ((force t).run l).state = l.forced t ∧ ((force t).run l).log = buildLog t l.column
    rw [run_force, run_get_of_not_built hl]
    exact ⟨rfl, rfl⟩
  | built => contradiction
  | isBuilt => contradiction

/-! ## Any number of calls -/

theorem after_of_built {i : Index κ} (h : l.built = some i) (calls : List (Call α)) :
    interface.after l calls = l ∧ interface.log l calls = [] :=
  Interface.after_of_idle fun c _ => idle_of_built h c

theorem after_of_no_table {calls : List (Call α)} (h : firstTable calls = none) :
    interface.after l calls = l ∧ interface.log l calls = [] :=
  Interface.after_of_idle fun c hc => idle_of_no_table (List.findSome?_eq_none_iff.mp h c hc)

theorem after_of_table (hl : l.built = none) {calls : List (Call α)} {table : Table α}
    (h : firstTable calls = some table) :
    interface.after l calls = l.forced table ∧
      interface.log l calls = buildLog table l.column := by
  obtain ⟨before, c, rest, rfl, htable, hbefore⟩ := List.findSome?_eq_some_iff.mp h
  obtain ⟨hwait, hsilent⟩ := after_of_no_table (l := l) (List.findSome?_eq_none_iff.mpr hbefore)
  obtain ⟨hstate, hlog⟩ := step_of_table hl htable
  -- the index is there now, so the calls that are left neither change nor log anything
  obtain ⟨hkept, hnothing⟩ := after_of_built (l := l.forced table) rfl rest
  rw [Interface.after_append, Interface.log_append, hwait, hsilent]
  rw [Interface.after, Interface.log, hstate, hlog, hkept, hnothing]
  exact ⟨rfl, List.append_nil _⟩

/-! ## What is answered -/

/-- Nothing is built. Who asks first gets the index over their own table. -/
structure Unwritten (l : LazyIndex α κ) : Prop where
  built : ((interface.ask .built).run l).result = .ok none
  isBuilt : ((interface.ask .isBuilt).run l).result = .ok false
  get : ∀ table, ∃ i, ((Index.build table l.column).run ()).result = .ok i ∧
    ((interface.ask (.get table)).run l).result = .ok i
  force : ∀ table, ((interface.ask (.force table)).run l).result = .ok ()

/-- The index is built, and whoever asks gets it. -/
structure Written (l : LazyIndex α κ) (i : Index κ) : Prop where
  built : ((interface.ask .built).run l).result = .ok (some i)
  isBuilt : ((interface.ask .isBuilt).run l).result = .ok true
  get : ∀ table, ((interface.ask (.get table)).run l).result = .ok i
  force : ∀ table, ((interface.ask (.force table)).run l).result = .ok ()

theorem unwritten_of_not_built (h : l.built = none) : l.Unwritten where
  built := congrArg Except.ok h
  isBuilt := by
    show Except.ok l.isBuilt = _
    rw [LazyIndex.isBuilt, h]
    rfl
  get table := by
    refine ⟨Index.ofColumn table l.column, rfl, ?_⟩
    exact congrArg Outcome.result (run_get_of_not_built h)
  force table := by
    show ((force table).run l).result = _
    rw [run_force, run_get_of_not_built h]
    rfl

theorem written_of_built {i : Index κ} (h : l.built = some i) : l.Written i where
  built := congrArg Except.ok h
  isBuilt := by
    show Except.ok l.isBuilt = _
    rw [LazyIndex.isBuilt, h]
    rfl
  get table := congrArg Outcome.result (run_get_of_built h)
  force table := by
    show ((force table).run l).result = _
    rw [run_force, run_get_of_built h]
    rfl

/-- After any calls to a lazy index that starts with nothing built, the table of the first call that
came with one decides about all that follows, and the log has the build over it and nothing else. -/
theorem written_by_first_table (column : α → Option κ) (calls : List (Call α)) :
    match firstTable calls with
    | none =>
      (interface.after { column } calls).Unwritten ∧
        (interface.after { column } calls).column = column ∧ interface.log { column } calls = []
    | some table =>
      ∃ i, ((Index.build table column).run ()).result = .ok i ∧
        (interface.after { column } calls).Written i ∧
        interface.log { column } calls =
          [.indexLazyBuild table.name, .indexBuild table.name table.size i.rows.size] := by
  cases h : firstTable calls with
  | none =>
    obtain ⟨hafter, hlog⟩ := after_of_no_table (l := { column }) h
    rw [hafter]
    exact ⟨unwritten_of_not_built rfl, rfl, hlog⟩
  | some table =>
    obtain ⟨hafter, hlog⟩ := after_of_table (l := { column }) rfl h
    rw [hafter]
    exact ⟨Index.ofColumn table column, rfl, written_of_built rfl, hlog⟩

end StaticTables.LazyIndex
