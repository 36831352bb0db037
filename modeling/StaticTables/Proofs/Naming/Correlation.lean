import Mathlib
import StaticTables.Naming.KeyedRecords

/-!
# Labels and external records by key

Keys are given to the labels one after the other, and a key that is taken ends the construction. So
after each step both maps list the labels so far with their keys, and they are inverse to each
other. The index of external records lists the keys with their places in the same way; where no two
records have the same key, the record at the place of a key is the first one that a scan finds.

Labels and keys count as the same when their equality test says so, which may be coarser than being
identical; labels that count as the same are given keys that do.
-/
namespace StaticTables

open Std (HashMap)

variable {Λ κ ε β : Type}

/-! ## Distinct keys -/

/-- No two elements of the list have the same key. -/
def DistinctBy [BEq κ] (key : β → κ) (l : List β) : Prop :=
  l.Pairwise fun a b => ¬ key a == key b

theorem distinctBy_concat_iff [BEq κ] {key : β → κ} {l : List β} {b : β} :
    DistinctBy key (l ++ [b]) ↔ DistinctBy key l ∧ ∀ a ∈ l, ¬ key a == key b := by
  simp [DistinctBy, List.pairwise_append]

/-- The key that comes next is free, whatever comes after it. -/
theorem DistinctBy.next_free [BEq κ] {key : β → κ} {l rest : List β} {b : β}
    (h : DistinctBy key (l ++ [b] ++ rest)) : ∀ a ∈ l, ¬ key a == key b := by
  have hfront : DistinctBy key (l ++ [b]) := (List.pairwise_append.mp h).1
  exact (distinctBy_concat_iff.mp hfront).2

/-! ## Maps as lists of pairs -/

/-- The map sends keys to values as the pairs of the list do. -/
def Lists [BEq κ] [Hashable κ] [BEq β] (m : HashMap κ β) (pairs : List (κ × β)) : Prop :=
  ∀ key b, m[key]? == some b ↔ ∃ p ∈ pairs, p.1 == key ∧ p.2 == b

namespace Lists

variable [BEq κ] [Hashable κ] [BEq β] {m : HashMap κ β} {pairs : List (κ × β)} {key : κ} {b : β}

theorem empty : Lists (∅ : HashMap κ β) [] := by
  intro key b
  simp

theorem eq_none_iff [ReflBEq β] (h : Lists m pairs) :
    m[key]? = none ↔ ∀ p ∈ pairs, ¬ p.1 == key := by
  constructor
  · intro hnone p hp hkey
    have hsome : m[key]? == some p.2 := (h key p.2).mpr ⟨p, hp, hkey, BEq.rfl⟩
    simp [hnone] at hsome
  · intro hfree
    cases hget : m[key]? with
    | none => rfl
    | some b =>
      obtain ⟨p, hp, hkey, -⟩ := (h key b).mp (by simp [hget])
      exact absurd hkey (hfree p hp)

/-- A pair whose key is free joins the others. Where the key was taken, the older pairs of it would
be lost. -/
theorem insert [EquivBEq κ] [LawfulHashable κ] (h : Lists m pairs)
    (hfree : ∀ p ∈ pairs, ¬ p.1 == key) : Lists (m.insert key b) (pairs ++ [(key, b)]) := by
  intro other c
  rw [HashMap.getElem?_insert]
  by_cases hsame : key == other
  · have hother : ∀ p ∈ pairs, ¬ p.1 == other := by
      intro p hp heq
      exact hfree p hp (BEq.trans heq (BEq.symm hsame))
    simp only [hsame, if_true, Option.some_beq_some, List.mem_append, List.mem_singleton]
    constructor
    · intro hc
      exact ⟨(key, b), .inr rfl, hsame, hc⟩
    · intro hp
      obtain ⟨p, hp | rfl, heq, hc⟩ := hp
      · exact absurd heq (hother p hp)
      · exact hc
  · simp only [hsame, Bool.false_eq_true, if_false, h other c, List.mem_append,
      List.mem_singleton]
    constructor
    · intro hp
      obtain ⟨p, hp, hpair⟩ := hp
      exact ⟨p, .inl hp, hpair⟩
    · intro hp
      obtain ⟨p, hp | rfl, heq, hc⟩ := hp
      · exact ⟨p, hp, heq, hc⟩
      · exact absurd heq hsame

end Lists

/-! ## Labels and their keys -/

namespace LabelKeys

variable [BEq Λ] [Hashable Λ] [EquivBEq Λ] [LawfulHashable Λ] [BEq κ] [Hashable κ] [EquivBEq κ]
  [LawfulHashable κ] {k filled : LabelKeys Λ κ} {keyOf : Λ → κ} {l rest : List Λ} {label : Λ}
  {name : String} {describe : Λ → String} {describeKey : κ → String}

/-- Both maps list the labels of a list with their keys. -/
structure Pairs (k : LabelKeys Λ κ) (keyOf : Λ → κ) (l : List Λ) : Prop where
  byLabel : Lists k.byLabel (l.map fun m => (m, keyOf m))
  byKey : Lists k.byKey (l.map fun m => (keyOf m, m))

omit [EquivBEq Λ] [LawfulHashable Λ] [EquivBEq κ] [LawfulHashable κ] in
theorem pairs_empty (keyOf : Λ → κ) :
    ({ byLabel := ∅, byKey := ∅ } : LabelKeys Λ κ).Pairs keyOf [] :=
  ⟨Lists.empty, Lists.empty⟩

omit [LawfulHashable Λ] [EquivBEq κ] [LawfulHashable κ] in
theorem Pairs.free_iff (h : k.Pairs keyOf l) {key : κ} :
    k.byKey[key]? = none ↔ ∀ m ∈ l, ¬ keyOf m == key := by
  rw [h.byKey.eq_none_iff]
  simp

/-- One step of the construction. Labels that are the same have the same key, so a label whose key
is free is not there yet either. -/
theorem Pairs.add (h : k.Pairs keyOf l) (hkeyOf : ∀ a b, a == b → keyOf a == keyOf b)
    (hfree : ∀ m ∈ l, ¬ keyOf m == keyOf label) :
    ({ byLabel := k.byLabel.insert label (keyOf label),
       byKey := k.byKey.insert (keyOf label) label } : LabelKeys Λ κ).Pairs keyOf
      (l ++ [label]) := by
  constructor
  · rw [List.map_append]
    apply h.byLabel.insert
    intro p hp hlabel
    obtain ⟨m, hm, rfl⟩ := List.mem_map.mp hp
    exact hfree m hm (hkeyOf m label hlabel)
  · rw [List.map_append]
    apply h.byKey.insert
    intro p hp hkey
    obtain ⟨m, hm, rfl⟩ := List.mem_map.mp hp
    exact hfree m hm hkey

/-- A whole run: it ends with all pairs, and it gets to the end when no key comes twice. -/
theorem Pairs.addAll (h : k.Pairs keyOf l) (hkeyOf : ∀ a b, a == b → keyOf a == keyOf b)
    (hdistinct : DistinctBy keyOf l) :
    ((∃ filled, addAll name keyOf describe describeKey k rest = .ok filled) ↔
        DistinctBy keyOf (l ++ rest)) ∧
      ∀ filled, addAll name keyOf describe describeKey k rest = .ok filled →
        filled.Pairs keyOf (l ++ rest) := by
  induction rest generalizing k l with
  | nil => simpa [LabelKeys.addAll, hdistinct] using h
  | cons label rest ih =>
    rw [LabelKeys.addAll, List.append_cons]
    cases hget : k.byKey[keyOf label]? with
    | none =>
      have hfree := h.free_iff.mp hget
      exact ih (h.add hkeyOf hfree) (distinctBy_concat_iff.mpr ⟨hdistinct, hfree⟩)
    | some previous =>
      -- the construction ends here, and the list of labels does hold a key twice
      have htaken : ¬ DistinctBy keyOf (l ++ [label] ++ rest) := by
        intro hall
        rw [h.free_iff.mpr hall.next_free] at hget
        contradiction
      simp only [refuse, reduceCtorEq, exists_false, htaken, false_implies, implies_true, and_self]

/-- Labels and keys lead to each other: every declared label has the key that it was given, a label
has a key exactly if the key leads back to it, and what is not there is not declared. -/
structure Correspond (k : LabelKeys Λ κ) (labels : Enumeration Λ) (keyOf : Λ → κ) : Prop where
  keyOf_declared : ∀ l ∈ labels.all, k.keyOf l == some (keyOf l)
  inverse : ∀ l key, k.keyOf l == some key ↔ k.labelOf key == some l
  keyOf_eq_none_iff : ∀ l, k.keyOf l = none ↔ ∀ m ∈ labels.all, ¬ m == l
  labelOf_eq_none_iff : ∀ key, k.labelOf key = none ↔ ∀ m ∈ labels.all, ¬ keyOf m == key

omit [LawfulHashable Λ] [LawfulHashable κ] in
theorem Pairs.correspond {labels : Enumeration Λ} (h : k.Pairs keyOf labels.all) :
    k.Correspond labels keyOf where
  keyOf_declared l hl :=
    (h.byLabel l (keyOf l)).mpr ⟨(l, keyOf l), List.mem_map_of_mem hl, BEq.rfl, BEq.rfl⟩
  inverse l key := by
    rw [LabelKeys.keyOf, LabelKeys.labelOf, h.byLabel, h.byKey]
    simp [and_comm]
  keyOf_eq_none_iff l := by
    rw [LabelKeys.keyOf, h.byLabel.eq_none_iff]
    simp
  labelOf_eq_none_iff key := h.free_iff

theorem exists_build_iff {labels : Enumeration Λ} (hkeyOf : ∀ a b, a == b → keyOf a == keyOf b) :
    (∃ k, build name labels keyOf describeKey = .ok k) ↔ DistinctBy keyOf labels.all :=
  ((pairs_empty keyOf).addAll hkeyOf List.Pairwise.nil).1

theorem correspond_of_build {labels : Enumeration Λ}
    (hkeyOf : ∀ a b, a == b → keyOf a == keyOf b)
    (h : build name labels keyOf describeKey = .ok k) : k.Correspond labels keyOf :=
  (((pairs_empty keyOf).addAll hkeyOf List.Pairwise.nil).2 k h).correspond

end LabelKeys

/-! ## External records -/

namespace KeyedRecords

variable [BEq Λ] [Hashable Λ] [BEq κ] [Hashable κ] [EquivBEq κ] [LawfulHashable κ]
  {byKey filled : HashMap κ Nat} {recordKey : ε → κ} {done rest data : List ε} {name : String}

/-- The keys of records, each with the place of its record. -/
def places (recordKey : ε → κ) (l : List ε) : List (κ × Nat) :=
  l.zipIdx.map fun p => (recordKey p.1, p.2)

omit [Hashable κ] [EquivBEq κ] [LawfulHashable κ] in
theorem forall_mem_places_iff {key : κ} :
    (∀ p ∈ places recordKey done, ¬ p.1 == key) ↔ ∀ r ∈ done, ¬ recordKey r == key := by
  constructor
  · intro h r hr
    obtain ⟨i, hi⟩ := List.mem_iff_getElem?.mp hr
    exact h (recordKey r, i) (List.mem_map_of_mem (List.mk_mem_zipIdx_iff_getElem?.mpr hi))
  · intro h p hp
    obtain ⟨q, hq, rfl⟩ := List.mem_map.mp hp
    exact h q.1 (List.fst_mem_of_mem_zipIdx hq)

/-- A whole run: it ends with the places of all keys, and it gets to the end when no key comes
twice. -/
theorem addAll_of_lists (h : Lists byKey (places recordKey done))
    (hdistinct : DistinctBy recordKey done) :
    ((∃ filled, addAll name recordKey byKey done.length rest = .ok filled) ↔
        DistinctBy recordKey (done ++ rest)) ∧
      ∀ filled, addAll name recordKey byKey done.length rest = .ok filled →
        Lists filled (places recordKey (done ++ rest)) := by
  induction rest generalizing byKey done with
  | nil => simpa [addAll, hdistinct] using h
  | cons record rest ih =>
    have hfree : byKey[recordKey record]? = none ↔ ∀ r ∈ done, ¬ recordKey r == recordKey record :=
      h.eq_none_iff.trans forall_mem_places_iff
    rw [addAll, List.append_cons]
    cases hget : byKey[recordKey record]? with
    | none =>
      have hnew := hfree.mp hget
      have hstep : Lists (byKey.insert (recordKey record) done.length)
          (places recordKey (done ++ [record])) := by
        have hinsert := h.insert (b := done.length) (forall_mem_places_iff.mpr hnew)
        simpa [places, List.zipIdx_append] using hinsert
      have hrest := ih hstep (distinctBy_concat_iff.mpr ⟨hdistinct, hnew⟩)
      rwa [List.length_append, List.length_singleton] at hrest
    | some previous =>
      have htaken : ¬ DistinctBy recordKey (done ++ [record] ++ rest) := by
        intro hall
        rw [hfree.mpr hall.next_free] at hget
        contradiction
      simp only [refuse, reduceCtorEq, exists_false, htaken, false_implies, implies_true, and_self]

variable {i : KeyedRecords κ ε}

omit [EquivBEq κ] [LawfulHashable κ] in
theorem result_build_eq_ok_iff :
    ((build name data recordKey).run ()).result = .ok i ↔
      addAll name recordKey ∅ 0 data = .ok i.byKey ∧ i.records = data.toArray := by
  rw [build, Traced.result_bind_eq_ok_iff]
  constructor
  · intro h
    obtain ⟨byKey, hadd, hrest⟩ := h
    obtain ⟨⟨⟩, -, hpure⟩ := Traced.result_bind_eq_ok_iff.mp hrest
    obtain rfl := Except.ok.inj hpure
    exact ⟨hadd, rfl⟩
  · intro h
    obtain ⟨hadd, hrecords⟩ := h
    exact ⟨i.byKey, hadd, by cases i; cases hrecords; rfl⟩

theorem exists_build_iff :
    (∃ i, ((build name data recordKey).run ()).result = .ok i) ↔ DistinctBy recordKey data := by
  have hrun : (∃ filled, addAll name recordKey ∅ 0 data = .ok filled) ↔
      DistinctBy recordKey data := (addAll_of_lists Lists.empty List.Pairwise.nil).1
  rw [← hrun]
  simp only [result_build_eq_ok_iff]
  constructor
  · intro h
    obtain ⟨i, hadd, -⟩ := h
    exact ⟨i.byKey, hadd⟩
  · intro h
    obtain ⟨filled, hadd⟩ := h
    exact ⟨{ byKey := filled, records := data.toArray }, hadd, rfl⟩

/-- The place of a key is that of the only record with this key, so a scan stops there as well. -/
theorem record?_of_build (h : ((build name data recordKey).run ()).result = .ok i) (key : κ) :
    i.record? key = data.find? fun r => recordKey r == key := by
  have hdistinct := exists_build_iff.mp ⟨i, h⟩
  obtain ⟨hadd, hrecords⟩ := result_build_eq_ok_iff.mp h
  have hplaces : Lists i.byKey (places recordKey data) :=
    (addAll_of_lists Lists.empty List.Pairwise.nil).2 i.byKey hadd
  rw [record?, hrecords]
  cases hget : i.byKey[key]? with
  | none =>
    have hnone := forall_mem_places_iff.mp (hplaces.eq_none_iff.mp hget)
    exact (List.find?_eq_none.mpr hnone).symm
  | some place =>
    obtain ⟨p, hp, hkey, hplace⟩ := (hplaces key place).mp (by simp [hget])
    obtain ⟨⟨r, n⟩, hr, rfl⟩ := List.mem_map.mp hp
    obtain rfl := eq_of_beq hplace
    obtain ⟨hn, rfl⟩ := List.getElem?_eq_some_iff.mp (List.mk_mem_zipIdx_iff_getElem?.mp hr)
    have hfirst : data.find? (fun r => recordKey r == key) = some data[n] := by
      refine List.find?_eq_some_iff_getElem.mpr ⟨hkey, n, hn, rfl, fun j hj => ?_⟩
      have hother := List.pairwise_iff_getElem.mp hdistinct j n (by omega) hn hj
      rw [Bool.not_eq_true']
      refine Bool.eq_false_iff.mpr fun hsame => ?_
      exact hother (BEq.trans hsame (BEq.symm hkey))
    rw [hfirst]
    simp [hn]

end KeyedRecords

/-! ## Labels and external records -/

section Correlation

variable [BEq Λ] [Hashable Λ] [EquivBEq Λ] [LawfulHashable Λ] [BEq κ] [Hashable κ] [EquivBEq κ]
  [LawfulHashable κ]

/-- Keys are given to the labels exactly when no two labels have the same key, and then labels and
keys lead to each other. External records are indexed exactly when no two records have the same key,
and then the index finds the record of every label that a scan finds. -/
theorem labels_lead_to_records (name index : String) (labels : Enumeration Λ) (keyOf : Λ → κ)
    (describeKey : κ → String) (data : List ε) (recordKey : ε → κ)
    (hkeyOf : ∀ a b, a == b → keyOf a == keyOf b) :
    ((∃ k, LabelKeys.build name labels keyOf describeKey = .ok k) ↔
        DistinctBy keyOf labels.all) ∧
      ((∃ i, ((KeyedRecords.build index data recordKey).run ()).result = .ok i) ↔
        DistinctBy recordKey data) ∧
      ∀ k, LabelKeys.build name labels keyOf describeKey = .ok k →
        k.Correspond labels keyOf ∧
          ∀ i, ((KeyedRecords.build index data recordKey).run ()).result = .ok i →
            ∀ label, i.recordOf k label = k.findRecord data recordKey label := by
  refine ⟨LabelKeys.exists_build_iff hkeyOf, KeyedRecords.exists_build_iff, ?_⟩
  intro k hk
  refine ⟨LabelKeys.correspond_of_build hkeyOf hk, ?_⟩
  intro i hi label
  rw [KeyedRecords.recordOf, LabelKeys.findRecord]
  cases k.keyOf label with
  | none => rfl
  | some key => exact KeyedRecords.record?_of_build hi key

end Correlation

/-- Two rivers by their initials. -/
def rivers : Enumeration Char where
  all := ['E', 'R']
  position _ := .first
  describe := Char.toString

/-- The name of a river. -/
def riverName (c : Char) : String := if c = 'E' then "Elbe" else "Rhine"

theorem labels_lead_to_records_rivers :
    ∃ k i, LabelKeys.build "river" rivers riverName id = .ok k ∧
      ((KeyedRecords.build "length" [("Rhine", 1233), ("Oder", 866), ("Elbe", 1094)]
        Prod.fst).run ()).result = .ok i ∧
      k.Correspond rivers riverName ∧
      i.recordOf k 'E' = some ("Elbe", 1094) ∧ i.recordOf k 'O' = none := by
  obtain ⟨hkeys, hindex, hfound⟩ := labels_lead_to_records "river" "length" rivers riverName id
    [("Rhine", 1233), ("Oder", 866), ("Elbe", 1094)] Prod.fst (by simp +contextual)
  obtain ⟨k, hk⟩ := hkeys.mpr (by simp [DistinctBy, rivers, riverName])
  obtain ⟨i, hi⟩ := hindex.mpr (by simp [DistinctBy])
  obtain ⟨hcorrespond, hscan⟩ := hfound k hk
  have hElbe : k.keyOf 'E' = some "Elbe" :=
    eq_of_beq (hcorrespond.keyOf_declared 'E' (by simp [rivers]))
  -- the third initial is that of no declared river
  have hOder : k.keyOf 'O' = none :=
    (hcorrespond.keyOf_eq_none_iff 'O').mpr (by simp [rivers])
  refine ⟨k, i, hk, hi, hcorrespond, ?_, ?_⟩
  · rw [hscan i hi 'E', LabelKeys.findRecord, hElbe]
    rfl
  · rw [hscan i hi 'O', LabelKeys.findRecord, hOder]
    rfl

end StaticTables
