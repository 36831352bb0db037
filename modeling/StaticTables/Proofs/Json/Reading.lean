import Mathlib
import StaticTables.Proofs.Json.Literals

/-!
# Written values

Every JSON value is read back from its compact text. A value is read off the front of whatever
follows it, provided that this does not go on with a number; so the values of an array and the
members of an object are read one after the other. The text is long enough to pay for the nesting:
each level that the reader takes stands for a character of its own.
-/
namespace StaticTables.Json

/-- The numbers in the value are written as numbers are. -/
inductive WellFormed : Json → Prop where
  | null : WellFormed .null
  | bool (b : Bool) : WellFormed (.bool b)
  | number {n : Number} (h : n.WellFormed) : WellFormed (.number n)
  | string (s : Literal) : WellFormed (.string s)
  | array {items : List Json} (h : ∀ v ∈ items, WellFormed v) : WellFormed (.array items)
  | object {members : List (Literal × Json)} (h : ∀ m ∈ members, WellFormed m.2) :
    WellFormed (.object members)

/-- The reader takes the text of the value off the front of what follows it. -/
def ReadBack (v : Json) : Prop :=
  ∀ depth rest, (print v).length ≤ depth → NotAhead continuesNumber rest →
    scanValue depth (print v ++ rest) = some (v, rest)

/-! ## Where a value starts -/

/-- Whether the character is a blank or closes an array or an object. -/
def isBlankOrClosing (c : Char) : Bool :=
  c == ' ' || c == '\n' || c == '\t' || c == '\r' || c == ']' || c == '\x7d'

theorem exists_print (v : Json) :
    ∃ c cs, print v = c :: cs ∧ isBlankOrClosing c = false := by
  cases v with
  | null => exact ⟨'n', _, by rw [print], rfl⟩
  | bool b =>
    cases b with
    | false => exact ⟨'f', _, by rw [print], rfl⟩
    | true => exact ⟨'t', _, by rw [print], rfl⟩
  | number n =>
    obtain ⟨c, cs, hprint, hc⟩ := exists_print_number n
    refine ⟨c, cs, by rw [print, hprint], ?_⟩
    by_contra hblank
    simp only [isBlankOrClosing, Bool.not_eq_false, Bool.or_eq_true, beq_iff_eq] at hblank
    rcases hc with rfl | hdigit
    · simp at hblank
    · rcases hblank with ((((rfl | rfl) | rfl) | rfl) | rfl) | rfl <;> contradiction
  | string s =>
    obtain ⟨body, hprint, -⟩ := exists_printLiteral s
    exact ⟨'"', body, by rw [print, hprint], rfl⟩
  | array items => exact ⟨'[', _, by rw [print], rfl⟩
  | object members => exact ⟨'\x7b', _, by rw [print], rfl⟩

theorem skipBlanks_cons {c : Char} (h : isBlankOrClosing c = false) (cs : List Char) :
    skipBlanks (c :: cs) = c :: cs := by
  simp only [isBlankOrClosing, Bool.or_eq_false_iff, beq_eq_false_iff_ne] at h
  simp [skipBlanks, h]

theorem skipBlanks_print (v : Json) (rest : List Char) :
    skipBlanks (print v ++ rest) = print v ++ rest := by
  obtain ⟨c, cs, hprint, hc⟩ := exists_print v
  rw [hprint, List.cons_append, skipBlanks_cons hc]

/-! ## Arrays and objects -/

theorem scanItems_printItems {items : List Json} (h : ∀ v ∈ items, ReadBack v)
    (hne : items ≠ []) {depth : Nat} {rest : List Char}
    (hdepth : (printItems items).length ≤ depth) :
    scanItems depth (printItems items ++ rest) = some (items, rest) := by
  induction items generalizing depth with
  | nil => contradiction
  | cons v items ih =>
    obtain ⟨hv, hitems⟩ := List.forall_mem_cons.mp h
    cases items with
    | nil =>
      simp only [printItems, List.length_append, List.length_singleton] at hdepth
      obtain ⟨depth, rfl⟩ := Nat.exists_eq_succ_of_ne_zero (by omega : depth ≠ 0)
      have hread := hv depth (']' :: rest) (by omega) (notAhead_cons rfl _)
      simp [printItems, scanItems, hread, skipBlanks]
    | cons w items =>
      simp only [printItems, List.length_append, List.length_cons] at hdepth
      obtain ⟨depth, rfl⟩ := Nat.exists_eq_succ_of_ne_zero (by omega : depth ≠ 0)
      have hread := hv depth (',' :: (printItems (w :: items) ++ rest)) (by omega)
        (notAhead_cons rfl _)
      have hrest := ih hitems (List.cons_ne_nil _ _)
        (by omega : (printItems (w :: items)).length ≤ depth)
      simp [printItems, scanItems, hread, hrest, skipBlanks]

theorem scanMembers_printMembers {members : List (Literal × Json)}
    (h : ∀ m ∈ members, ReadBack m.2) (hne : members ≠ []) {depth : Nat} {rest : List Char}
    (hdepth : (printMembers members).length ≤ depth) :
    scanMembers depth (printMembers members ++ rest) = some (members, rest) := by
  induction members generalizing depth with
  | nil => contradiction
  | cons m members ih =>
    obtain ⟨k, v⟩ := m
    obtain ⟨hm, hmembers⟩ := List.forall_mem_cons.mp h
    have hv : ReadBack v := hm
    obtain ⟨body, hkey, hbody⟩ := exists_printLiteral k
    cases members with
    | nil =>
      simp only [printMembers, hkey, List.length_append, List.length_cons, List.length_nil]
        at hdepth
      obtain ⟨depth, rfl⟩ := Nat.exists_eq_succ_of_ne_zero (by omega : depth ≠ 0)
      have hread := hv depth ('\x7d' :: rest) (by omega) (notAhead_cons rfl _)
      simp [printMembers, scanMembers, hkey, hbody, hread, skipBlanks]
    | cons m' members =>
      simp only [printMembers, hkey, List.length_append, List.length_cons] at hdepth
      obtain ⟨depth, rfl⟩ := Nat.exists_eq_succ_of_ne_zero (by omega : depth ≠ 0)
      have hread := hv depth (',' :: (printMembers (m' :: members) ++ rest)) (by omega)
        (notAhead_cons rfl _)
      have hrest := ih hmembers (List.cons_ne_nil _ _)
        (by omega : (printMembers (m' :: members)).length ≤ depth)
      simp [printMembers, scanMembers, hkey, hbody, hread, hrest, skipBlanks]

theorem exists_printItems_cons (v : Json) (items : List Json) :
    ∃ c cs, printItems (v :: items) = c :: cs ∧ isBlankOrClosing c = false := by
  obtain ⟨c, cs, hprint, hc⟩ := exists_print v
  cases items with
  | nil => exact ⟨c, cs ++ [']'], by simp [printItems, hprint], hc⟩
  | cons w items =>
    exact ⟨c, cs ++ ',' :: printItems (w :: items), by simp [printItems, hprint], hc⟩

theorem exists_printMembers_cons (m : Literal × Json) (members : List (Literal × Json)) :
    ∃ cs, printMembers (m :: members) = '"' :: cs := by
  obtain ⟨k, v⟩ := m
  obtain ⟨body, hkey, -⟩ := exists_printLiteral k
  cases members with
  | nil => exact ⟨_, by rw [printMembers, hkey, List.cons_append]⟩
  | cons m' members => exact ⟨_, by rw [printMembers, hkey, List.cons_append]; simp⟩

/-! ## Values -/

/-- There is something to read, so the reader may always go one level in. -/
theorem ReadBack.of_succ {v : Json}
    (h : ∀ depth rest, (print v).length ≤ depth + 1 → NotAhead continuesNumber rest →
      scanValue (depth + 1) (print v ++ rest) = some (v, rest)) : ReadBack v := by
  intro depth rest hdepth hrest
  obtain ⟨c, cs, hprint, -⟩ := exists_print v
  cases depth with
  | zero => simp [hprint] at hdepth
  | succ depth => exact h depth rest hdepth hrest

theorem readBack_number {n : Number} (h : n.WellFormed) : ReadBack (.number n) := by
  apply ReadBack.of_succ
  intro depth rest hdepth hrest
  have hskip := skipBlanks_print (.number n) rest
  have hscan := scanNumber_print h hrest
  obtain ⟨c, cs, hprint, hc⟩ := exists_print_number n
  rw [print, hprint, List.cons_append] at hskip ⊢
  rw [hprint, List.cons_append] at hscan
  -- a number starts like no other value
  have hother : c ≠ 'n' ∧ c ≠ 't' ∧ c ≠ 'f' ∧ c ≠ '"' ∧ c ≠ '[' ∧ c ≠ '\x7b' := by
    rcases hc with rfl | hdigit
    · decide
    · refine ⟨?_, ?_, ?_, ?_, ?_, ?_⟩ <;> (rintro rfl; contradiction)
  simp [scanValue, hskip, hother, hscan]

theorem readBack_array {items : List Json} (h : ∀ v ∈ items, ReadBack v) :
    ReadBack (.array items) := by
  apply ReadBack.of_succ
  intro depth rest hdepth hrest
  rw [print, List.length_cons] at hdepth
  cases items with
  | nil => simp [print, printItems, scanValue, skipBlanks]
  | cons v items =>
    have hitems : scanItems depth (printItems (v :: items) ++ rest) = some (v :: items, rest) :=
      scanItems_printItems h (List.cons_ne_nil _ _) (by omega)
    obtain ⟨c, cs, hprint, hc⟩ := exists_printItems_cons v items
    have hclosing : c ≠ ']' := by
      rintro rfl
      contradiction
    rw [hprint, List.cons_append] at hitems
    rw [print, hprint]
    have hopening : isBlankOrClosing '[' = false := rfl
    simp [scanValue, skipBlanks_cons hopening, skipBlanks_cons hc, hclosing, hitems]

theorem readBack_object {members : List (Literal × Json)} (h : ∀ m ∈ members, ReadBack m.2) :
    ReadBack (.object members) := by
  apply ReadBack.of_succ
  intro depth rest hdepth hrest
  rw [print, List.length_cons] at hdepth
  cases members with
  | nil => simp [print, printMembers, scanValue, skipBlanks]
  | cons m members =>
    have hmembers : scanMembers depth (printMembers (m :: members) ++ rest) =
        some (m :: members, rest) :=
      scanMembers_printMembers h (List.cons_ne_nil _ _) (by omega)
    obtain ⟨cs, hprint⟩ := exists_printMembers_cons m members
    rw [hprint, List.cons_append] at hmembers
    rw [print, hprint]
    simp [scanValue, hmembers, skipBlanks]

/-- Every value is read back. The induction is on how the value is built; arrays and objects are
handed to the readers of their items and members. -/
theorem WellFormed.readBack {v : Json} (h : v.WellFormed) : ReadBack v := by
  induction h with
  | null =>
    apply ReadBack.of_succ
    intro depth rest _ _
    simp [print, scanValue, skipBlanks]
  | bool b =>
    apply ReadBack.of_succ
    intro depth rest _ _
    cases b <;> simp [print, scanValue, skipBlanks]
  | number hn => exact readBack_number hn
  | string s =>
    apply ReadBack.of_succ
    intro depth rest _ _
    obtain ⟨body, hprint, hbody⟩ := exists_printLiteral s
    simp [print, scanValue, skipBlanks, hprint, hbody]
  | array _ ih => exact readBack_array ih
  | object _ ih => exact readBack_object ih

/-- The text of a value holds this value and nothing else. -/
theorem WellFormed.parse_render {v : Json} (h : v.WellFormed) : parse v.render = some v := by
  have hread := h.readBack (2 * (print v).length + 2) [] (by omega) (by simp [NotAhead])
  rw [List.append_nil] at hread
  simp [parse, render, hread, skipBlanks]

end StaticTables.Json
