import Mathlib
import StaticTables.Json.Parser
import StaticTables.Json.Printer

/-!
# Written strings and numbers

Every string literal and every number is read back from the way it is written, whatever stands
behind it. A character is written as itself or by an escape that denotes it, and no character is
half of a surrogate pair, so nothing is joined when the text is put together. A number ends where no
further digit, fraction or exponent follows.
-/
namespace StaticTables.Json

/-! ## Strings -/

theorem hexDigit?_digitChar {n : Nat} (h : n < 16) : hexDigit? (Nat.digitChar n) = some n := by
  revert n
  decide

theorem hexNumber?_hex4 {n : Nat} (h : n < 65536) :
    hexNumber? (Nat.digitChar (n / 4096 % 16)) (Nat.digitChar (n / 256 % 16))
      (Nat.digitChar (n / 16 % 16)) (Nat.digitChar (n % 16)) = some n := by
  have hmod : ∀ m, m % 16 < 16 := fun m => Nat.mod_lt m (by decide)
  simp only [hexNumber?, hexDigit?_digitChar (hmod _), Option.pure_def, Option.bind_eq_bind,
    Option.bind_some, Option.some.injEq]
  omega

/-- A character is written by a short escape, by its number, or as itself. -/
theorem escapeChar_cases (c : Char) :
    (∃ e, e ≠ 'u' ∧ shortEscape? e = some c ∧ escapeChar c = ['\\', e]) ∨
      (c.toNat < 0x20 ∧ escapeChar c = '\\' :: 'u' :: hex4 c.toNat) ∨
      (c ≠ '"' ∧ c ≠ '\\' ∧ ¬ c.toNat < 0x20 ∧ escapeChar c = [c]) := by
  by_cases hshort : c ∈ ['"', '\\', '\x08', '\x0c', '\n', '\r', '\t']
  · left
    simp only [List.mem_cons, List.not_mem_nil, or_false] at hshort
    rcases hshort with rfl | rfl | rfl | rfl | rfl | rfl | rfl
    · exact ⟨'"', by decide⟩
    · exact ⟨'\\', by decide⟩
    · exact ⟨'b', by decide⟩
    · exact ⟨'f', by decide⟩
    · exact ⟨'n', by decide⟩
    · exact ⟨'r', by decide⟩
    · exact ⟨'t', by decide⟩
  · right
    simp only [List.mem_cons, List.not_mem_nil, or_false, not_or] at hshort
    by_cases hcontrol : c.toNat < 0x20
    · exact .inl ⟨hcontrol, by simp [escapeChar, hshort, hcontrol]⟩
    · exact .inr ⟨hshort.1, hshort.2.1, hcontrol, by simp [escapeChar, hshort, hcontrol]⟩

/-- One character of a literal is read back. -/
theorem scanUnits_escapeChar (c : Char) {rest after : List Char} {units : List Nat}
    (h : scanUnits rest = some (units, after)) :
    scanUnits (escapeChar c ++ rest) = some (c.toNat :: units, after) := by
  rcases escapeChar_cases c with
    ⟨e, he, hshort, heq⟩ | ⟨hcontrol, heq⟩ | ⟨hquote, hslash, hplain, heq⟩
  · rw [heq]
    simp [scanUnits, he, hshort, h]
  · have hnumber := hexNumber?_hex4 (n := c.toNat) (by omega)
    rw [heq, hex4]
    simp [scanUnits, hnumber, h]
  · rw [heq]
    simp [scanUnits, hslash, hplain, h]

theorem scanUnits_escape (cs rest : List Char) :
    scanUnits (escape cs ++ '"' :: rest) = some (cs.map Char.toNat, rest) := by
  induction cs with
  | nil => simp [escape, scanUnits]
  | cons c cs ih =>
    rw [escape, List.flatMap_cons, List.append_assoc]
    exact scanUnits_escapeChar c ih

theorem not_surrogate (c : Char) :
    isHighSurrogate c.toNat = false ∧ isLowSurrogate c.toNat = false := by
  have hvalid := c.valid
  simp only [UInt32.isValidChar, Nat.isValidChar, Char.toNat_val] at hvalid
  simp only [isHighSurrogate, isLowSurrogate, Bool.and_eq_false_iff, decide_eq_false_iff_not]
  omega

theorem joinUnits_map_toNat (cs : List Char) : joinUnits (cs.map Char.toNat) = some cs := by
  induction cs with
  | nil => rfl
  | cons c cs ih =>
    obtain ⟨hhigh, hlow⟩ := not_surrogate c
    cases cs with
    | nil => simp [joinUnits, hhigh, hlow]
    | cons d cs =>
      rw [List.map_cons, List.map_cons, joinUnits, ← List.map_cons, ih]
      simp [hhigh, hlow]

/-- A literal starts with a quote and is read back behind it. -/
theorem exists_printLiteral (l : Literal) :
    ∃ body, printLiteral l = '"' :: body ∧ ∀ rest, scanLiteral (body ++ rest) = some (l, rest) := by
  cases l with
  | none =>
    refine ⟨['\\', 'u', 'd', '8', '0', '0', '"'], rfl, ?_⟩
    intro rest
    have hnumber : hexNumber? 'd' '8' '0' '0' = some 0xd800 := by decide
    simp [scanLiteral, scanUnits, hnumber, joinUnits, isHighSurrogate]
  | some s =>
    refine ⟨escape s.toList ++ ['"'], rfl, ?_⟩
    intro rest
    rw [List.append_assoc, List.singleton_append, scanLiteral, scanUnits_escape]
    simp [joinUnits_map_toNat]

/-! ## Numbers -/

/-- What comes next is not a character of this kind. -/
def NotAhead (kind : Char → Bool) (cs : List Char) : Prop := ∀ c ∈ cs.head?, kind c = false

theorem spanDigits_append {ds rest : List Char} (hds : ∀ d ∈ ds, d.isDigit)
    (hrest : NotAhead Char.isDigit rest) : spanDigits (ds ++ rest) = (ds, rest) := by
  rw [spanDigits, List.span_eq_takeWhile_dropWhile, List.takeWhile_append_of_pos hds,
    List.dropWhile_append_of_pos hds]
  cases rest with
  | nil => simp
  | cons c rest =>
    have hc : c.isDigit = false := hrest c rfl
    simp [hc]

theorem scanDigits_append {ds rest : List Char} (hne : ds ≠ []) (hds : ∀ d ∈ ds, d.isDigit)
    (hrest : NotAhead Char.isDigit rest) : scanDigits (ds ++ rest) = some (ds, rest) := by
  rw [scanDigits, spanDigits_append hds hrest]
  cases ds with
  | nil => contradiction
  | cons d ds => rfl

theorem ofDigits_toDigits (n : Nat) : ofDigits (Nat.toDigits 10 n) = n := by
  calc ofDigits (Nat.toDigits 10 n)
      = (Nat.toDigits 10 n).foldl (fun m c => 10 * m + (c.toNat - '0'.toNat)) 0 := by
        simp only [ofDigits, Nat.mul_comm, Char.reduceToNat]
    _ = Nat.ofDigitChars 10 (Nat.toDigits 10 n) 0 := Nat.ofDigitChars_eq_foldl.symm
    _ = n := Nat.ofDigitChars_ten_toDigits

theorem isDigit_of_mem_toDigits (n : Nat) : ∀ d ∈ Nat.toDigits 10 n, d.isDigit :=
  fun _ hd => Nat.isDigit_of_mem_toDigits (by decide) (by decide) hd

theorem exists_toDigits_cons (n : Nat) :
    ∃ d ds, Nat.toDigits 10 n = d :: ds ∧ d.isDigit := by
  obtain ⟨d, ds, hds⟩ := List.exists_cons_of_ne_nil (Nat.toDigits_ne_nil (n := n) (b := 10))
  exact ⟨d, ds, hds, isDigit_of_mem_toDigits n d (hds ▸ List.mem_cons_self)⟩

/-- Only zero is written with a zero in front. -/
theorem head_toDigits_ne_zero {n : Nat} (h : 0 < n) : (Nat.toDigits 10 n).head? ≠ some '0' := by
  induction n using Nat.strong_induction_on with
  | h n ih =>
    by_cases hlt : n < 10
    · rw [Nat.toDigits_of_lt_base hlt]
      interval_cases n <;> decide
    · rw [Nat.toDigits_of_base_le (by decide) (by omega), List.head?_append_of_ne_nil]
      · exact ih (n / 10) (by omega) (by omega)
      · exact Nat.toDigits_ne_nil

theorem scanWhole_toDigits (n : Nat) {rest : List Char} (hrest : NotAhead Char.isDigit rest) :
    scanWhole (Nat.toDigits 10 n ++ rest) = some (n, rest) := by
  rcases Nat.eq_zero_or_pos n with rfl | hpos
  · rfl
  · have hscan := scanDigits_append Nat.toDigits_ne_nil (isDigit_of_mem_toDigits n) hrest
    have hhead := head_toDigits_ne_zero hpos
    obtain ⟨d, ds, hds, -⟩ := exists_toDigits_cons n
    have hd : d ≠ '0' := by simpa [hds] using hhead
    have hvalue : ofDigits (d :: ds) = n := hds ▸ ofDigits_toDigits n
    rw [hds, List.cons_append] at hscan ⊢
    simp [scanWhole, hd, hscan, hvalue]

/-- The text of a fraction, which may be missing. -/
inductive IsFraction : List Char → Prop where
  | missing : IsFraction []
  | digits {ds : List Char} (hne : ds ≠ []) (hds : ∀ d ∈ ds, d.isDigit) : IsFraction ('.' :: ds)

/-- The text of an exponent, which may be missing. -/
inductive IsExponent : List Char → Prop where
  | missing : IsExponent []
  | digits {mark : Char} {sign ds : List Char} (hmark : mark = 'e' ∨ mark = 'E')
    (hsign : sign ∈ [[], ['+'], ['-']]) (hne : ds ≠ []) (hds : ∀ d ∈ ds, d.isDigit) :
    IsExponent (mark :: (sign ++ ds))

/-- Behind the whole part of the number stand a fraction and an exponent. -/
def Number.WellFormed (n : Number) : Prop :=
  ∃ fraction exponent, IsFraction fraction ∧ IsExponent exponent ∧
    n.tail = String.ofList (fraction ++ exponent)

/-- Whether a character could go on with a number. -/
def continuesNumber (c : Char) : Bool := c.isDigit || c == '.' || c == 'e' || c == 'E'

theorem NotAhead.mono {kind kind' : Char → Bool} {cs : List Char} (h : NotAhead kind cs)
    (hle : ∀ c, kind c = false → kind' c = false) : NotAhead kind' cs :=
  fun c hc => hle c (h c hc)

theorem notAhead_cons {kind : Char → Bool} {c : Char} (h : kind c = false) (cs : List Char) :
    NotAhead kind (c :: cs) := by
  simpa [NotAhead] using h

theorem scanFraction_append {fraction rest : List Char} (h : IsFraction fraction)
    (hrest : NotAhead (fun c => c.isDigit || c == '.') rest) :
    scanFraction (fraction ++ rest) = some (fraction, rest) := by
  cases h with
  | missing =>
    cases rest with
    | nil => rfl
    | cons c rest =>
      have hc := hrest c rfl
      simp only [Bool.or_eq_false_iff, beq_eq_false_iff_ne] at hc
      simp [scanFraction, hc]
  | digits hne hds =>
    have hdigits := scanDigits_append hne hds (hrest.mono (by simp +contextual))
    simp [scanFraction, hdigits]

theorem scanSign_append {sign ds rest : List Char} (hsign : sign ∈ [[], ['+'], ['-']])
    (hne : ds ≠ []) (hds : ∀ d ∈ ds, d.isDigit) :
    scanSign (sign ++ (ds ++ rest)) = (sign, ds ++ rest) := by
  simp only [List.mem_cons, List.not_mem_nil, or_false] at hsign
  rcases hsign with rfl | rfl | rfl
  · cases ds with
    | nil => contradiction
    | cons d ds =>
      have hd := hds d List.mem_cons_self
      have hplus : d ≠ '+' := by
        rintro rfl
        contradiction
      have hminus : d ≠ '-' := by
        rintro rfl
        contradiction
      simp [scanSign, hplus, hminus]
  · rfl
  · rfl

theorem scanExponent_append {exponent rest : List Char} (h : IsExponent exponent)
    (hrest : NotAhead continuesNumber rest) :
    scanExponent (exponent ++ rest) = some (exponent, rest) := by
  cases h with
  | missing =>
    cases rest with
    | nil => rfl
    | cons c rest =>
      have hc := hrest c rfl
      simp only [continuesNumber, Bool.or_eq_false_iff, beq_eq_false_iff_ne] at hc
      simp [scanExponent, hc]
  | @digits mark sign ds hmark hsign hne hds =>
    have hdigits := scanDigits_append hne hds
      (hrest.mono (by simp +contextual [continuesNumber]))
    rw [List.cons_append, List.append_assoc, scanExponent, if_pos hmark,
      scanSign_append hsign hne hds]
    simp [hdigits]

/-- Neither a digit nor a point stands in front of an exponent. -/
theorem notAhead_exponent {exponent rest : List Char} (h : IsExponent exponent)
    (hrest : NotAhead continuesNumber rest) :
    NotAhead (fun c => c.isDigit || c == '.') (exponent ++ rest) := by
  cases h with
  | missing => exact hrest.mono (by simp +contextual [continuesNumber])
  | digits hmark =>
    apply notAhead_cons
    rcases hmark with rfl | rfl <;> rfl

theorem notAhead_fraction {fraction rest : List Char} (h : IsFraction fraction)
    (hrest : NotAhead (fun c => c.isDigit || c == '.') rest) :
    NotAhead Char.isDigit (fraction ++ rest) := by
  cases h with
  | missing => exact hrest.mono (by simp +contextual)
  | digits => exact notAhead_cons rfl _

/-- A number without its sign is read back part by part. -/
theorem scanUnsigned_print {n : Number} (h : n.WellFormed) {rest : List Char}
    (hrest : NotAhead continuesNumber rest) :
    scanUnsigned n.negative (Nat.toDigits 10 n.whole ++ n.tail.toList ++ rest) =
      some (n, rest) := by
  obtain ⟨fraction, exponent, hfraction, hexponent, htail⟩ := h
  have hbehind := notAhead_exponent hexponent hrest
  have hwhole := scanWhole_toDigits n.whole (notAhead_fraction hfraction hbehind)
  have htext : n.tail.toList = fraction ++ exponent := by simp [htail]
  have hparts : String.ofList fraction ++ String.ofList exponent = n.tail := by simp [htail]
  rw [htext, List.append_assoc, List.append_assoc, scanUnsigned, hwhole]
  simp [scanFraction_append hfraction hbehind, scanExponent_append hexponent hrest, hparts]

/-- The first character of a number. -/
theorem exists_print_number (n : Number) :
    ∃ c cs, n.print = c :: cs ∧ (c = '-' ∨ c.isDigit) := by
  rw [Number.print]
  cases n.negative with
  | true => exact ⟨'-', _, rfl, .inl rfl⟩
  | false =>
    obtain ⟨d, ds, hds, hd⟩ := exists_toDigits_cons n.whole
    exact ⟨d, ds ++ n.tail.toList, by simp [hds], .inr hd⟩

theorem scanNumber_print {n : Number} (h : n.WellFormed) {rest : List Char}
    (hrest : NotAhead continuesNumber rest) : scanNumber (n.print ++ rest) = some (n, rest) := by
  have hunsigned := scanUnsigned_print h hrest
  rw [Number.print]
  cases hsign : n.negative with
  | true =>
    rw [hsign] at hunsigned
    exact hunsigned
  | false =>
    obtain ⟨d, ds, hds, hd⟩ := exists_toDigits_cons n.whole
    have hminus : d ≠ '-' := by
      rintro rfl
      contradiction
    rw [hsign, hds] at hunsigned
    simpa [scanNumber, hds, hminus] using hunsigned

end StaticTables.Json
