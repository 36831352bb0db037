import Mathlib
import StaticTables.Proofs.Link.Construction
import StaticTables.Proofs.Table.Selection

/-!
# Valid reference columns

The check of a column reads the records once and keeps a counter for every target row. It passes
exactly when the column keeps to its declaration: references are there where they have to be, point
into the target table, and, one to one, point at different rows. Otherwise it stops at the first
record with which the column no longer does, and says what is wrong with this one.
-/
namespace StaticTables.Relationship

variable {S T : Type}

/-! ## What a declaration asks for -/

/-- The references that some records hold, in order. -/
def links (reference : S → Option (Ref T)) (l : List (Record S)) : List (Ref T) :=
  l.filterMap fun s => reference s.value

/-- The records keep to what is declared about their column. -/
structure Valid (declaration : Declaration) (target : Table T) (reference : S → Option (Ref T))
    (l : List (Record S)) : Prop where
  present : declaration.isOptional = false → ∀ s ∈ l, reference s.value ≠ none
  inside : ∀ s ∈ l, ∀ link, reference s.value = some link → link.index < target.size
  unshared : declaration.cardinality = .oneToOne → (links reference l).Nodup

variable {declaration : Declaration} {target : Table T} {reference : S → Option (Ref T)}
  {s : Record S} {l rest : List (Record S)} {link : Ref T} {cause : Error.Cause}

theorem links_concat_of_none (h : reference s.value = none) :
    links reference (l ++ [s]) = links reference l := by
  simp [links, h]

theorem links_concat_of_some (h : reference s.value = some link) :
    links reference (l ++ [s]) = links reference l ++ [link] := by
  simp [links, h]

theorem valid_nil : Valid declaration target reference [] where
  present _ _ hs := absurd hs List.not_mem_nil
  inside _ hs := absurd hs List.not_mem_nil
  unshared _ := List.nodup_nil

/-- What records keep to, the first of them keep to. -/
theorem Valid.of_append (valid : Valid declaration target reference (l ++ rest)) :
    Valid declaration target reference l where
  present hreq t ht := valid.present hreq t (List.mem_append_left rest ht)
  inside t ht := valid.inside t (List.mem_append_left rest ht)
  unshared hone := by
    have hnodup := valid.unshared hone
    rw [links, List.filterMap_append] at hnodup
    exact (List.nodup_append.mp hnodup).1

theorem Valid.concat_of_none (valid : Valid declaration target reference l)
    (h : reference s.value = none) (hopt : declaration.isOptional = true) :
    Valid declaration target reference (l ++ [s]) where
  present hreq := by
    rw [hopt] at hreq
    contradiction
  inside := by
    rw [List.forall_mem_append, List.forall_mem_singleton]
    refine ⟨valid.inside, fun link hlink => ?_⟩
    rw [h] at hlink
    contradiction
  unshared hone := (links_concat_of_none h).symm ▸ valid.unshared hone

theorem Valid.concat_of_some (valid : Valid declaration target reference l)
    (h : reference s.value = some link) (hlt : link.index < target.size)
    (hnew : declaration.cardinality = .oneToOne → link ∉ links reference l) :
    Valid declaration target reference (l ++ [s]) where
  present hreq := by
    rw [List.forall_mem_append, List.forall_mem_singleton]
    exact ⟨valid.present hreq, by simp [h]⟩
  inside := by
    rw [List.forall_mem_append, List.forall_mem_singleton]
    refine ⟨valid.inside, fun other hother => ?_⟩
    obtain rfl := Option.some.inj (h.symm.trans hother)
    exact hlt
  unshared hone := by
    rw [links_concat_of_some h]
    exact List.nodup_append_comm.mp (List.nodup_cons.mpr ⟨hnew hone, valid.unshared hone⟩)

/-! ## What can be wrong with a record -/

/-- What is to be reported about a record behind others that keep to the declaration. One that holds
no reference has nothing else wrong with it, and one that points past the target's end repeats
nothing. -/
inductive Violation (declaration : Declaration) (target : Table T) (reference : S → Option (Ref T))
    (before : List (Record S)) (s : Record S) : Error.Cause → Prop
  | missing (absent : reference s.value = none) (required : declaration.isOptional = false) :
    Violation declaration target reference before s (.missingReference declaration.name s.row)
  | dangling {link : Ref T} (holds : reference s.value = some link)
      (past : target.size ≤ link.index) :
    Violation declaration target reference before s
      (.danglingReference declaration.name s.row target.name link.index target.size)
  | repeated {link : Ref T} (holds : reference s.value = some link)
      (inside : link.index < target.size) (one : declaration.cardinality = .oneToOne)
      (again : link ∈ links reference before) :
    Violation declaration target reference before s
      (.cardinalityViolation declaration.name link.row 2)

theorem Violation.not_valid (violation : Violation declaration target reference l s cause) :
    ¬ Valid declaration target reference (l ++ [s]) := by
  have hs : s ∈ l ++ [s] := List.mem_append_right l (List.mem_singleton_self s)
  intro valid
  cases violation with
  | missing absent required => exact valid.present required s hs absent
  | dangling holds past => exact absurd (valid.inside s hs _ holds) (Nat.not_lt.mpr past)
  | repeated holds _ one again =>
    have hnodup := valid.unshared one
    rw [links_concat_of_some holds, List.nodup_append_comm] at hnodup
    exact (List.nodup_cons.mp hnodup).1 again

/-! ## The check -/

/-- The counters are those of the records before: one to one they hold how often these point at each
row of the target. -/
structure Counted (declaration : Declaration) (target : Table T) (reference : S → Option (Ref T))
    (before : List (Record S)) (counts : Array Nat) : Prop where
  size_eq : counts.size = target.size
  count_eq : declaration.cardinality = .oneToOne → ∀ link : Ref T, link.index < target.size →
    counts.getD link.index 0 = (links reference before).count link

theorem counted_nil : Counted declaration target reference [] (Array.replicate target.size 0) where
  size_eq := Array.size_replicate
  count_eq _ link hlt := by
    rw [Array.getD_eq_getD_getElem?, Array.getElem?_replicate, if_pos hlt]
    rfl

theorem Counted.concat_of_none {counts : Array Nat}
    (counted : Counted declaration target reference l counts) (h : reference s.value = none) :
    Counted declaration target reference (l ++ [s]) counts where
  size_eq := counted.size_eq
  count_eq := by
    rw [links_concat_of_none h]
    exact counted.count_eq

theorem Counted.concat_of_some {counts : Array Nat}
    (counted : Counted declaration target reference l counts) (h : reference s.value = some link)
    (hlt : link.index < target.size) :
    Counted declaration target reference (l ++ [s])
      (counts.setIfInBounds link.index (counts.getD link.index 0 + 1)) where
  size_eq := by rw [Array.size_setIfInBounds, counted.size_eq]
  count_eq hone other hother := by
    rw [links_concat_of_some h, List.count_append, ← counted.count_eq hone other hother,
      List.count_singleton, Array.getD_eq_getD_getElem?, Array.getElem?_setIfInBounds,
      Array.getD_eq_getD_getElem?, Array.getD_eq_getD_getElem?]
    by_cases hsame : link = other
    · obtain rfl := hsame
      simp [counted.size_eq, hlt]
    · have hindex : link.index ≠ other.index := fun heq => hsame (Ref.ext (RowId.ext heq))
      simp [hsame, hindex]

/-- Where the targets of the records before are all different, a counter tells whether its target is
one of them. -/
theorem Counted.getD_eq {counts : Array Nat}
    (counted : Counted declaration target reference l counts)
    (valid : Valid declaration target reference l) (one : declaration.cardinality = .oneToOne)
    (hlt : link.index < target.size) :
    counts.getD link.index 0 = if link ∈ links reference l then 1 else 0 := by
  rw [counted.count_eq one link hlt]
  split
  next hmem => exact List.count_eq_one_of_mem (valid.unshared one) hmem
  next hnew => exact List.count_eq_zero_of_not_mem hnew

/-- The check of one more record: it is passed, and the rest is checked with counters that are right
again, or it is refused for what is wrong with it. -/
theorem checkFrom_cons_cases {counts : Array Nat}
    (counted : Counted declaration target reference l counts)
    (valid : Valid declaration target reference l) (s : Record S) (rest : List (Record S)) :
    (Valid declaration target reference (l ++ [s]) ∧
        ∃ counts', Counted declaration target reference (l ++ [s]) counts' ∧
          checkFrom declaration target reference counts (s :: rest) =
            checkFrom declaration target reference counts' rest) ∨
      ∃ cause, Violation declaration target reference l s cause ∧
        checkFrom declaration target reference counts (s :: rest) = refuse cause := by
  rw [checkFrom]
  cases h : reference s.value with
  | none =>
    cases hopt : declaration.isOptional with
    | false => exact .inr ⟨_, .missing h hopt, rfl⟩
    | true => exact .inl ⟨valid.concat_of_none h hopt, counts, counted.concat_of_none h, rfl⟩
  | some link =>
    by_cases hlt : link.index < target.size
    · simp only [Nat.not_le.mpr hlt, if_false]
      cases hcard : declaration.cardinality with
      | manyToOne =>
        refine .inl ⟨valid.concat_of_some h hlt fun hone => ?_, counts, ?_, rfl⟩
        · rw [hcard] at hone
          contradiction
        · exact ⟨counted.size_eq, fun hone => by rw [hcard] at hone; contradiction⟩
      | oneToOne =>
        have hcount := counted.getD_eq valid hcard hlt
        by_cases hagain : link ∈ links reference l
        · -- the counter says that the target was pointed at once before
          rw [if_pos hagain] at hcount
          refine .inr ⟨_, .repeated h hlt hcard hagain, ?_⟩
          simp [hcount]
        · rw [if_neg hagain] at hcount
          refine .inl ⟨valid.concat_of_some h hlt fun _ => hagain, _,
            counted.concat_of_some h hlt, ?_⟩
          simp [hcount]
    · exact .inr ⟨_, .dangling h (Nat.not_lt.mp hlt), if_pos (Nat.not_lt.mp hlt)⟩

/-- The check of the records behind those that were passed. -/
theorem checkFrom_cases {counts : Array Nat}
    (counted : Counted declaration target reference l counts)
    (valid : Valid declaration target reference l) (rest : List (Record S)) :
    (Valid declaration target reference (l ++ rest) ∧
        checkFrom declaration target reference counts rest = .ok ()) ∨
      ∃ passed s after cause, rest = passed ++ s :: after ∧
        Valid declaration target reference (l ++ passed) ∧
        Violation declaration target reference (l ++ passed) s cause ∧
        checkFrom declaration target reference counts rest = refuse cause := by
  induction rest generalizing l counts with
  | nil => exact .inl ⟨(List.append_nil l).symm ▸ valid, rfl⟩
  | cons s rest ih =>
    rcases checkFrom_cons_cases counted valid s rest with
      ⟨hvalid, counts', hcounted, hcheck⟩ | ⟨cause, violation, hcheck⟩
    · rw [hcheck, List.append_cons]
      rcases ih hcounted hvalid with
        hpassed | ⟨passed, t, after, cause, rfl, hbefore, violation, hrest⟩
      · exact .inl hpassed
      · refine .inr ⟨s :: passed, t, after, cause, rfl, ?_⟩
        rw [List.append_cons]
        exact ⟨hbefore, violation, hrest⟩
    · exact .inr ⟨[], s, rest, cause, rfl, (List.append_nil l).symm ▸ valid,
        (List.append_nil l).symm ▸ violation, hcheck⟩

/-- The check passes a valid column, and otherwise stops at the first record with which the column
is not valid any more. -/
theorem check_cases (declaration : Declaration) (source : Table S) (target : Table T)
    (reference : S → Option (Ref T)) :
    (Valid declaration target reference source.records ∧
        check declaration source target reference = .ok ()) ∨
      ∃ before s after cause, source.records = before ++ s :: after ∧
        Valid declaration target reference before ∧
        Violation declaration target reference before s cause ∧
        check declaration source target reference = refuse cause :=
  checkFrom_cases counted_nil valid_nil source.records

theorem check_eq_ok_iff {source : Table S} :
    check declaration source target reference = .ok () ↔
      Valid declaration target reference source.records := by
  rcases check_cases declaration source target reference with
    ⟨valid, hcheck⟩ | ⟨before, s, after, cause, hrecords, -, violation, hcheck⟩
  · exact iff_of_true hcheck valid
  · rw [hcheck, hrecords, List.append_cons]
    exact iff_of_false (by simp [refuse]) fun valid => violation.not_valid valid.of_append

end StaticTables.Relationship
