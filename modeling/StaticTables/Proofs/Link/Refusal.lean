import Mathlib
import StaticTables.Proofs.Link.Validity

/-!
# Refused reference columns

A strict construction succeeds exactly over a valid column. The error of one that is refused is
about the first row with which the column is not valid any more, whatever is wrong with the rows
behind it, and the construction leaves nothing but the warning about this row. So a target that is
shared is reported at the second row that references it, and rows behind this one are not counted.
-/
namespace StaticTables.Relationship

variable {S T : Type}

/-- What is wrong with the row that a strict construction stops at is the first thing that is wrong
with the column: the rows before are valid, and with this row they are not. Neither the reverse
index nor the construction itself is logged. -/
theorem build_reports_first_violation {settings : Settings} (strict : settings.validation = .strict)
    (declaration : Declaration) (source : Table S) (target : Table T)
    (reference : S → Option (Ref T)) :
    ((∃ r, ((build settings declaration source target reference).run ()).result = .ok r) ↔
        Valid declaration target reference source.records) ∧
      ∀ failure, ((build settings declaration source target reference).run ()).result =
          .error failure →
        ∃ before s after cause e, source.records = before ++ s :: after ∧
          Valid declaration target reference before ∧
          ¬ Valid declaration target reference (before ++ [s]) ∧
          Violation declaration target reference before s cause ∧
          e = Error.located { cause } source.name declaration.name "relationship.build" ∧
          failure = .error e ∧
          ((build settings declaration source target reference).run ()).log =
            [.validationFailed .relationship e] := by
  constructor
  · rw [← check_eq_ok_iff]
    simp only [result_build_eq_ok_iff, exists_and_left, exists_eq, and_true]
  · intro failure hfailure
    rcases check_cases declaration source target reference with
      ⟨-, hcheck⟩ | ⟨before, s, after, cause, hrecords, valid, violation, hcheck⟩
    · rw [run_build_of_valid hcheck] at hfailure
      contradiction
    · rw [run_build_of_refuse strict hcheck] at hfailure ⊢
      exact ⟨before, s, after, cause, _, hrecords, valid, violation.not_valid, violation, rfl,
        (Except.error.inj hfailure).symm, rfl⟩

/-- Three lockers. -/
def lockers : Table Nat where
  id := { value := 15 }
  name := "locker"
  origin := 0
  rows := #[11, 12, 13]
  size_le := by decide

/-- Five swimmers, the second without a locker. The third has that of the first, the fourth one that
does not exist, and the fifth that of the first again. -/
def swimmers : Table (Option RowId) where
  id := { value := 16 }
  name := "swimmer"
  origin := 1
  rows := #[RowId.ofIndex? 2, none, RowId.ofIndex? 2, RowId.ofIndex? 9, RowId.ofIndex? 2]
  size_le := by decide

/-- Every swimmer has a locker of their own, or none. -/
def ownLocker : Declaration :=
  { name := "locker", cardinality := .oneToOne, optionality := .optional }

/-- The report about a locker that a second swimmer has. -/
def sharedLocker (locker : RowId) : Error :=
  Error.located { cause := .cardinalityViolation "locker" locker 2 } "swimmer" "locker"
    "relationship.build"

/-- The swimmers are refused for the third of them, and not for the two behind. -/
theorem build_reports_first_violation_swimmers :
    Settings.validation {} = .strict ∧
      ((build {} ownLocker swimmers lockers (Option.map Ref.mk)).run ()).result =
        .error (.error (sharedLocker { index := 2 })) ∧
      ∃ before s after cause, swimmers.records = before ++ s :: after ∧
        Valid ownLocker lockers (Option.map Ref.mk) before ∧
        ¬ Valid ownLocker lockers (Option.map Ref.mk) (before ++ [s]) ∧
        Violation ownLocker lockers (Option.map Ref.mk) before s cause ∧
        sharedLocker { index := 2 } =
          Error.located { cause } "swimmer" "locker" "relationship.build" := by
  have refused : ((build {} ownLocker swimmers lockers (Option.map Ref.mk)).run ()).result =
      .error (.error (sharedLocker { index := 2 })) := rfl
  have reports := @build_reports_first_violation _ _ {} rfl ownLocker swimmers lockers
    (Option.map Ref.mk)
  obtain ⟨before, s, after, cause, e, hrecords, valid, invalid, violation, he, hreported, -⟩ :=
    reports.2 _ refused
  obtain rfl := Failure.error.inj hreported
  exact ⟨rfl, refused, before, s, after, cause, hrecords, valid, invalid, violation, he⟩

/-! ## Shared targets -/

section Shared

variable {declaration : Declaration} {target : Table T} {reference : S → Option (Ref T)}

/-- The records up to the first that repeats a target reference this target twice. -/
theorem count_links_concat_of_repeat {before : List (Record S)} {s : Record S} {link : Ref T}
    (valid : Valid declaration target reference before) (one : declaration.cardinality = .oneToOne)
    (holds : reference s.value = some link) (again : link ∈ links reference before) :
    (links reference (before ++ [s])).count link = 2 := by
  -- Up to here no target was shared, so this one is among the references before exactly once.
  have honce : (links reference before).count link = 1 :=
    List.count_eq_one_of_mem (valid.unshared one) again
  rw [links_concat_of_some holds, List.count_append, honce, List.count_singleton_self]

theorem count_links_append (l rest : List (Record S)) (link : Ref T) :
    (links reference (l ++ rest)).count link =
      (links reference l).count link + (links reference rest).count link := by
  rw [links, List.filterMap_append, List.count_append]
  rfl

/-- The count that is reported of a shared target is that of the rows up to the first repetition,
which is two. It is the number of all rows that reference the target only if none does behind. -/
theorem build_counts_to_first_repeat {settings : Settings}
    (strict : settings.validation = .strict) {source : Table S} {name : String} {row : RowId}
    {count : Nat} {context : Option Error.Context}
    (refused : ((build settings declaration source target reference).run ()).result =
      .error (.error { cause := .cardinalityViolation name row count, context })) :
    ∃ before s after, source.records = before ++ s :: after ∧
      Valid declaration target reference before ∧
      ¬ Valid declaration target reference (before ++ [s]) ∧
      reference s.value = some ⟨row⟩ ∧
      count = 2 ∧
      (links reference (before ++ [s])).count ⟨row⟩ = count ∧
      (links reference source.records).count ⟨row⟩ = count + (links reference after).count ⟨row⟩ ∧
      (count = (links reference source.records).count ⟨row⟩ ↔ ⟨row⟩ ∉ links reference after) := by
  rcases check_cases declaration source target reference with
    ⟨-, hcheck⟩ | ⟨before, s, after, cause, hrecords, valid, violation, hcheck⟩
  · rw [run_build_of_valid hcheck] at refused
    contradiction
  · rw [run_build_of_refuse strict hcheck] at refused
    have hcause : cause = .cardinalityViolation name row count :=
      congrArg Error.cause (Failure.error.inj (Except.error.inj refused))
    have invalid := violation.not_valid
    cases violation with
    | missing => contradiction
    | dangling => contradiction
    | @repeated link holds _ one again =>
      obtain ⟨-, rfl, rfl⟩ := Error.Cause.cardinalityViolation.inj hcause
      have htwice := count_links_concat_of_repeat valid one holds again
      have htotal : (links reference source.records).count link =
          2 + (links reference after).count link := by
        rw [hrecords, List.append_cons, count_links_append, htwice]
      refine ⟨before, s, after, hrecords, valid, invalid, holds, rfl, htwice, htotal, ?_⟩
      rw [show (⟨link.row⟩ : Ref T) = link from rfl, htotal, ← List.count_eq_zero]
      omega

end Shared

/-- The third swimmer is where the check stops, and the fifth is not counted. -/
theorem build_counts_to_first_repeat_swimmers :
    Settings.validation {} = .strict ∧
      ((build {} ownLocker swimmers lockers (Option.map Ref.mk)).run ()).result =
        .error (.error (sharedLocker { index := 2 })) ∧
      ∃ before s after, swimmers.records = before ++ s :: after ∧
        (links (Option.map (Ref.mk (α := Nat))) (before ++ [s])).count ⟨{ index := 2 }⟩ = 2 ∧
        ¬ 2 = (links (Option.map (Ref.mk (α := Nat))) swimmers.records).count ⟨{ index := 2 }⟩ ∧
        ⟨{ index := 2 }⟩ ∈ links (Option.map (Ref.mk (α := Nat))) after := by
  have refused : ((build {} ownLocker swimmers lockers (Option.map Ref.mk)).run ()).result =
      .error (.error (sharedLocker { index := 2 })) := rfl
  obtain ⟨before, s, after, hrecords, -, -, -, -, hcount, -, hbehind⟩ :=
    build_counts_to_first_repeat rfl refused
  have hthree : ¬ 2 = (links (Option.map (Ref.mk (α := Nat))) swimmers.records).count
      ⟨{ index := 2 }⟩ := by decide
  exact ⟨rfl, refused, before, s, after, hrecords, hcount, hthree,
    not_not.mp fun hnone => hthree (hbehind.mpr hnone)⟩

/-- Three swimmers have the locker that is reported as referenced two times. -/
theorem build_miscounts_swimmers :
    ((build {} ownLocker swimmers lockers (Option.map Ref.mk)).run ()).result =
        .error (.error (Error.located { cause := .cardinalityViolation "locker" { index := 2 } 2 }
          "swimmer" "locker" "relationship.build")) ∧
      (links (Option.map (Ref.mk (α := Nat))) swimmers.records).count ⟨{ index := 2 }⟩ = 3 := by
  constructor
  · rfl
  · decide

end StaticTables.Relationship
