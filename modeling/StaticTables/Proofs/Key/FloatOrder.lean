import Mathlib
import StaticTables.Proofs.Key.TotalOrder

/-!
# The order of floating-point keys is that of the numbers

Sign, exponent and fraction denote a number. Read as one natural number, exponent and fraction grow
with the absolute value of what they denote, up to infinity; what is greater than infinity denotes
no number. So the comparison by sign and magnitude is that of the numbers, and puts what is no
number at the ends, on the side of its sign and by its payload. It is also the comparison of the
bits as signed numbers, once those below a set sign are turned over and both zeros are taken for
one.
-/
namespace StaticTables

/-! ## Formats -/

namespace FloatFormat

/-- The number of bits of the exponent. -/
def exponentBits (f : FloatFormat) : Nat := f.width - 1 - f.fractionBits

/-- The exponent of the infinities and of all that is no number. -/
def maxExponent (f : FloatFormat) : Nat := 2 ^ f.exponentBits - 1

/-- What is added to the exponent of a number before it is stored. -/
def bias (f : FloatFormat) : Nat := 2 ^ (f.exponentBits - 1) - 1

/-- The magnitude of the infinities. -/
def infinity (f : FloatFormat) : Nat := f.maxExponent * 2 ^ f.fractionBits

/-- Above the infinities there is room for the payloads, and no more. -/
theorem signBit_eq (f : FloatFormat) : f.signBit = f.infinity + 2 ^ f.fractionBits := by
  cases f <;> rfl

end FloatFormat

/-! ## Numbers -/

namespace FloatBits

variable {f : FloatFormat} {x y : FloatBits f}

/-- The stored exponent. -/
def exponent (x : FloatBits f) : Nat := x.magnitude / 2 ^ f.fractionBits

/-- The stored fraction: the digits after the point, or the payload of what is no number. -/
def fraction (x : FloatBits f) : Nat := x.magnitude % 2 ^ f.fractionBits

/-- No number is denoted. -/
def IsNaN (x : FloatBits f) : Prop := x.exponent = f.maxExponent ∧ x.fraction ≠ 0

/-- The absolute value of a finite number. With the least exponent there is a zero before the point,
with all others a one, and both of the least exponents denote the same power. -/
noncomputable def finiteAbs (f : FloatFormat) (exponent fraction : Nat) : ℝ :=
  if exponent = 0 then (fraction / 2 ^ f.fractionBits) * 2 ^ (1 - (f.bias : ℤ))
  else (1 + fraction / 2 ^ f.fractionBits) * 2 ^ ((exponent : ℤ) - f.bias)

/-- The absolute value of the number that is denoted. The greatest exponent is that of infinity. -/
noncomputable def absValue (x : FloatBits f) : EReal :=
  if x.exponent = f.maxExponent then ⊤ else (finiteAbs f x.exponent x.fraction : ℝ)

/-- The number that is denoted. -/
noncomputable def value (x : FloatBits f) : EReal :=
  if x.isNegative then -x.absValue else x.absValue

end FloatBits

/-! ## Absolute values grow with the magnitude -/

namespace FloatFormat

/-- The absolute value of a finite number in units of the least positive one, by its magnitude. -/
def units (fractionBits magnitude : Nat) : Nat :=
  if magnitude / 2 ^ fractionBits = 0 then magnitude % 2 ^ fractionBits
  else (2 ^ fractionBits + magnitude % 2 ^ fractionBits) * 2 ^ (magnitude / 2 ^ fractionBits - 1)

theorem units_of_lt {p e r : Nat} (hr : r < 2 ^ p) :
    units p (e * 2 ^ p + r) = if e = 0 then r else (2 ^ p + r) * 2 ^ (e - 1) := by
  have hdiv : (e * 2 ^ p + r) / 2 ^ p = e := by
    rw [Nat.add_comm, Nat.add_mul_div_right _ _ (Nat.two_pow_pos p), Nat.div_eq_of_lt hr,
      Nat.zero_add]
  have hmod : (e * 2 ^ p + r) % 2 ^ p = r := by
    rw [Nat.mul_add_mod_self_right, Nat.mod_eq_of_lt hr]
  rw [units, hdiv, hmod]

/-- The next magnitude has the next fraction, or the next exponent and no fraction. -/
theorem units_lt_succ (p m : Nat) : units p m < units p (m + 1) := by
  have hr := Nat.mod_lt m (Nat.two_pow_pos p)
  rw [← Nat.div_add_mod' m (2 ^ p)]
  generalize m / 2 ^ p = e, m % 2 ^ p = r at hr
  rw [units_of_lt hr]
  by_cases hnext : r + 1 < 2 ^ p
  · rw [Nat.add_assoc, units_of_lt hnext]
    by_cases he : e = 0
    · rw [if_pos he, if_pos he]
      exact Nat.lt_succ_self r
    · rw [if_neg he, if_neg he]
      exact Nat.mul_lt_mul_of_pos_right (by omega) (Nat.two_pow_pos _)
  · have hcarry : e * 2 ^ p + r + 1 = (e + 1) * 2 ^ p + 0 := by rw [Nat.succ_mul]; omega
    rw [hcarry, units_of_lt (Nat.two_pow_pos p), if_neg (Nat.succ_ne_zero e)]
    by_cases he : e = 0
    · rw [if_pos he, he]
      simpa using hr
    · have hpow : 2 ^ (e + 1 - 1) = 2 * 2 ^ (e - 1) := by
        rw [← Nat.pow_succ']
        congr 1
        omega
      rw [if_neg he, hpow, Nat.add_zero, ← Nat.mul_assoc]
      exact Nat.mul_lt_mul_of_pos_right (by omega) (Nat.two_pow_pos _)

theorem units_strictMono (p : Nat) : StrictMono (units p) :=
  strictMono_nat_of_lt_succ (units_lt_succ p)

end FloatFormat

namespace FloatBits

variable {f : FloatFormat} {x y : FloatBits f}

theorem finiteAbs_eq_units (f : FloatFormat) (magnitude : Nat) :
    finiteAbs f (magnitude / 2 ^ f.fractionBits) (magnitude % 2 ^ f.fractionBits) =
      FloatFormat.units f.fractionBits magnitude *
        (2 : ℝ) ^ (1 - (f.bias : ℤ) - f.fractionBits) := by
  have hunit : (2 : ℝ) ^ (1 - (f.bias : ℤ)) =
      2 ^ f.fractionBits * 2 ^ (1 - (f.bias : ℤ) - f.fractionBits) := by
    rw [← zpow_natCast, ← zpow_add₀ two_ne_zero]
    congr 1
    ring
  have hpos : (2 : ℝ) ^ f.fractionBits ≠ 0 := pow_ne_zero _ two_ne_zero
  rw [finiteAbs, FloatFormat.units]
  by_cases he : magnitude / 2 ^ f.fractionBits = 0
  · rw [if_pos he, if_pos he, hunit]
    field_simp
  · obtain ⟨e, he'⟩ := Nat.exists_eq_succ_of_ne_zero he
    have hpow : (2 : ℝ) ^ (((e + 1 : Nat) : ℤ) - f.bias) = 2 ^ e * 2 ^ (1 - (f.bias : ℤ)) := by
      rw [← zpow_natCast, ← zpow_add₀ two_ne_zero]
      congr 1
      push_cast
      ring
    rw [if_neg he, if_neg he, he', Nat.succ_eq_add_one, Nat.add_sub_cancel, hpow, hunit]
    push_cast
    field_simp

/-- The absolute value by the magnitude. -/
noncomputable def absAt (f : FloatFormat) (magnitude : Nat) : EReal :=
  if magnitude / 2 ^ f.fractionBits = f.maxExponent then ⊤
  else (finiteAbs f (magnitude / 2 ^ f.fractionBits) (magnitude % 2 ^ f.fractionBits) : ℝ)

theorem absAt_of_lt {m : Nat} (h : m < f.infinity) :
    absAt f m = ((FloatFormat.units f.fractionBits m *
      (2 : ℝ) ^ (1 - (f.bias : ℤ) - f.fractionBits) : ℝ) : EReal) := by
  have hexponent : m / 2 ^ f.fractionBits < f.maxExponent :=
    (Nat.div_lt_iff_lt_mul (Nat.two_pow_pos _)).mpr h
  rw [absAt, if_neg hexponent.ne, finiteAbs_eq_units]

theorem absAt_infinity (f : FloatFormat) : absAt f f.infinity = ⊤ := by
  have hexponent : f.infinity / 2 ^ f.fractionBits = f.maxExponent :=
    Nat.mul_div_cancel _ (Nat.two_pow_pos _)
  rw [absAt, if_pos hexponent]

theorem absAt_zero (f : FloatFormat) : absAt f 0 = 0 := by
  have hinfinity : 0 < f.infinity := by cases f <;> decide
  rw [absAt_of_lt hinfinity]
  simp [FloatFormat.units]

theorem absAt_strictMonoOn (f : FloatFormat) : StrictMonoOn (absAt f) (Set.Iic f.infinity) := by
  intro m hm n hn hlt
  rw [absAt_of_lt (hlt.trans_le hn)]
  rcases Nat.lt_or_eq_of_le hn with hfinite | rfl
  · rw [absAt_of_lt hfinite, EReal.coe_lt_coe_iff]
    refine mul_lt_mul_of_pos_right ?_ (zpow_pos two_pos _)
    exact_mod_cast FloatFormat.units_strictMono _ hlt
  · rw [absAt_infinity]
    exact EReal.coe_lt_top _

/-- The number by its place. -/
noncomputable def valueAt (f : FloatFormat) (place : Int) : EReal :=
  if place < 0 then -absAt f place.natAbs else absAt f place.natAbs

theorem valueAt_strictMonoOn (f : FloatFormat) :
    StrictMonoOn (valueAt f) (Set.Icc (-(f.infinity : Int)) f.infinity) := by
  intro m hm n hn hlt
  obtain ⟨hm, hm'⟩ := hm
  obtain ⟨hn, hn'⟩ := hn
  have mono := absAt_strictMonoOn f
  have inside : ∀ k : Int, -(f.infinity : Int) ≤ k → k ≤ f.infinity →
      k.natAbs ∈ Set.Iic f.infinity := fun k hk hk' => by
    rw [Set.mem_Iic]
    omega
  have hmabs := inside m hm hm'
  have hnabs := inside n hn hn'
  rw [valueAt, valueAt]
  by_cases hneg : m < 0
  · rw [if_pos hneg]
    by_cases hneg' : n < 0
    · rw [if_pos hneg', EReal.neg_lt_neg_iff]
      exact mono hnabs hmabs (by omega)
    · -- from below zero to zero or above
      have hzero : (0 : Nat) ∈ Set.Iic f.infinity := Nat.zero_le _
      have hbelow : -absAt f m.natAbs < 0 := by
        rw [EReal.neg_lt_comm, neg_zero, ← absAt_zero f]
        exact mono hzero hmabs (by omega)
      have habove : 0 ≤ absAt f n.natAbs := by
        rw [← absAt_zero f]
        exact mono.monotoneOn hzero hnabs (Nat.zero_le _)
      rw [if_neg hneg']
      exact hbelow.trans_le habove
  · have hneg' : ¬ n < 0 := by omega
    rw [if_neg hneg, if_neg hneg']
    exact mono hmabs hnabs (by omega)

/-! ## Values and their places -/

theorem magnitude_lt (x : FloatBits f) : x.magnitude < f.signBit :=
  Nat.mod_lt _ (signBit_pos f)

theorem value_eq_valueAt (x : FloatBits f) : x.value = valueAt f x.place := by
  show (if x.isNegative then -absAt f x.magnitude else absAt f x.magnitude) = _
  rw [valueAt, place]
  cases x.isNegative with
  | false => simp
  | true =>
    by_cases hzero : x.magnitude = 0
    · simp [hzero, absAt_zero]
    · have hneg : -(x.magnitude : Int) < 0 := by omega
      rw [if_pos rfl, if_pos rfl, if_pos hneg, Int.natAbs_neg, Int.natAbs_natCast]

/-- Beyond the infinities no number is denoted, and the distance to them is the payload. -/
theorem isNaN_iff (x : FloatBits f) : x.IsNaN ↔ f.infinity < x.magnitude := by
  have hlt := x.magnitude_lt
  have hsplit := Nat.div_add_mod' x.magnitude (2 ^ f.fractionBits)
  rw [f.signBit_eq] at hlt
  constructor
  · intro h
    obtain ⟨hexponent, hfraction⟩ := h
    rw [exponent] at hexponent
    rw [fraction] at hfraction
    rw [hexponent] at hsplit
    rw [FloatFormat.infinity]
    omega
  · intro h
    have hexponent : x.magnitude / 2 ^ f.fractionBits = f.maxExponent := by
      refine Nat.div_eq_of_lt_le h.le ?_
      rwa [Nat.succ_mul]
    refine ⟨hexponent, ?_⟩
    rw [hexponent] at hsplit
    rw [FloatFormat.infinity] at h
    rw [fraction]
    omega

theorem IsNaN.magnitude_eq (h : x.IsNaN) : x.magnitude = f.infinity + x.fraction := by
  have hsplit := Nat.div_add_mod' x.magnitude (2 ^ f.fractionBits)
  rw [← exponent, h.1] at hsplit
  exact hsplit.symm

/-- A comparison of two values is that of the numbers they denote. What is no number comes before
all numbers if its sign is set, and after all numbers if it is not, by the payload in the direction
away from zero. -/
structure InNumberOrder (x y : FloatBits f) (o : Ordering) : Prop where
  numbers : ¬ x.IsNaN → ¬ y.IsNaN → o.Compares x.value y.value
  zeros : x.IsZero → y.IsZero → o = .eq
  before : x.IsNaN → x.isNegative → ¬ y.IsNaN → o = .lt
  after : x.IsNaN → ¬ x.isNegative → ¬ y.IsNaN → o = .gt
  ends : x.IsNaN → x.isNegative → y.IsNaN → ¬ y.isNegative → o = .lt
  ascending : x.IsNaN → ¬ x.isNegative → y.IsNaN → ¬ y.isNegative →
    o.Compares x.fraction y.fraction
  descending : x.IsNaN → x.isNegative → y.IsNaN → y.isNegative → o.Compares y.fraction x.fraction

theorem place_of_negative (h : x.isNegative) : x.place = -(x.magnitude : Int) := if_pos h

theorem place_of_not_negative (h : ¬ x.isNegative) : x.place = x.magnitude := if_neg h

/-- What is not beyond an infinity has its place between the two. -/
theorem place_mem_of_not_isNaN (h : ¬ x.IsNaN) :
    x.place ∈ Set.Icc (-(f.infinity : Int)) f.infinity := by
  have hle : x.magnitude ≤ f.infinity := Nat.not_lt.mp (x.isNaN_iff.not.mp h)
  rw [Set.mem_Icc]
  by_cases hneg : x.isNegative
  · rw [place_of_negative hneg]
    omega
  · rw [place_of_not_negative hneg]
    omega

theorem compares_place (x y : FloatBits f) : (compare x y).Compares x.place y.place := by
  rw [compare, ← cmp_eq_compare]
  exact cmp_compares _ _

/-- Whatever lies as the places do is in the order of the places. -/
theorem compares_of_place {a b : Nat} (hlt : x.place < y.place → a < b)
    (heq : x.place = y.place → a = b) (hgt : y.place < x.place → b < a) :
    (compare x y).Compares a b := by
  have h := compares_place x y
  cases hcmp : compare x y with
  | lt => rw [hcmp] at h; exact hlt h
  | eq => rw [hcmp] at h; exact heq h
  | gt => rw [hcmp] at h; exact hgt h

/-! ## The comparison by bits -/

/-- The bits as a signed number, those below the sign turned over if the sign is set. By these
numbers go the negative values, from the greatest magnitude up, and then the others. -/
def totalKey (x : FloatBits f) : Int :=
  let bits := BitVec.ofNat f.width x.bits
  (bits ^^^ (bits.sshiftRight (f.width - 1) >>> 1)).toInt

/-- Either zero as the one without a sign. -/
def foldZero (x : FloatBits f) : FloatBits f :=
  if x.magnitude = 0 then ⟨0, Nat.mul_pos two_pos (signBit_pos f)⟩ else x

theorem signBit_eq_two_pow (f : FloatFormat) : f.signBit = 2 ^ (f.width - 1) := by
  cases f <;> rfl

theorem two_pow_width (f : FloatFormat) : 2 ^ f.width = 2 * f.signBit := by
  cases f <;> rfl

theorem msb_bits (x : FloatBits f) : (BitVec.ofNat f.width x.bits).msb = x.isNegative := by
  have hlt : x.bits < 2 ^ f.width := two_pow_width f ▸ x.bits_lt
  rw [BitVec.msb_eq_decide, BitVec.toNat_ofNat, Nat.mod_eq_of_lt hlt, isNegative,
    signBit_eq_two_pow]

theorem getLsbD_magnitude (x : FloatBits f) (i : Nat) :
    (BitVec.ofNat f.width x.magnitude).getLsbD i =
      (decide (i < f.width - 1) && (BitVec.ofNat f.width x.bits).getLsbD i) := by
  rw [BitVec.getLsbD_ofNat, BitVec.getLsbD_ofNat, magnitude, signBit_eq_two_pow,
    Nat.testBit_mod_two_pow, Bool.and_left_comm]

/-- What the bits are turned over with: all bits below the sign if it is set, and none otherwise. -/
theorem getLsbD_signFill {w i : Nat} (bits : BitVec w) (hi : i < w) :
    (bits.sshiftRight (w - 1) >>> 1).getLsbD i = (bits.msb && decide (i < w - 1)) := by
  have hpast : ¬ w - 1 + (1 + i) < w := by omega
  have hlast : w ≤ 1 + i ↔ ¬ i < w - 1 := by omega
  rw [BitVec.getLsbD_ushiftRight, BitVec.getLsbD_sshiftRight, if_neg hpast]
  simp only [hlast, decide_not, Bool.not_not, Bool.and_comm]

theorem flipped_eq (x : FloatBits f) :
    BitVec.ofNat f.width x.bits ^^^
      (BitVec.ofNat f.width x.bits).sshiftRight (f.width - 1) >>> 1 =
        if x.isNegative then ~~~ BitVec.ofNat f.width x.magnitude
        else BitVec.ofNat f.width x.magnitude := by
  refine BitVec.eq_of_getLsbD_eq fun i hi => ?_
  have hlow := x.getLsbD_magnitude i
  rw [BitVec.getLsbD_xor, getLsbD_signFill _ hi, msb_bits]
  by_cases hlast : i < f.width - 1
  · cases x.isNegative <;> simp [BitVec.getLsbD_not, hi, hlast, hlow, -BitVec.getLsbD_eq_getElem]
  · -- the sign itself, which no magnitude has
    have hsign : (BitVec.ofNat f.width x.bits).getLsbD i = x.isNegative := by
      rw [← msb_bits, BitVec.msb_eq_getLsbD_last]
      congr 1
      omega
    rw [hsign]
    cases x.isNegative <;> simp [BitVec.getLsbD_not, hi, hlast, hlow, -BitVec.getLsbD_eq_getElem]

theorem totalKey_eq (x : FloatBits f) :
    x.totalKey = if x.isNegative then -1 - (x.magnitude : Int) else x.magnitude := by
  have hmag := x.magnitude_lt
  have hpow := two_pow_width f
  have hnat : (BitVec.ofNat f.width x.magnitude).toNat = x.magnitude := by
    rw [BitVec.toNat_ofNat, Nat.mod_eq_of_lt (by omega)]
  rw [totalKey, flipped_eq]
  cases x.isNegative with
  | false =>
    show (BitVec.ofNat f.width x.magnitude).toInt = _
    rw [BitVec.toInt_eq_toNat_of_lt (by omega), hnat]
    rfl
  | true =>
    show (~~~ BitVec.ofNat f.width x.magnitude).toInt = -1 - (x.magnitude : Int)
    rw [BitVec.toInt_eq_toNat_cond, BitVec.toNat_not, hnat]
    split <;> omega

/-- Below zero the key is one less than the place, since it keeps a place for the negative zero. -/
theorem totalKey_foldZero (x : FloatBits f) :
    x.foldZero.totalKey = if x.place < 0 then x.place - 1 else x.place := by
  rw [totalKey_eq, foldZero]
  by_cases hzero : x.magnitude = 0
  · have hplace : x.place = 0 := by simp [place, hzero]
    have hpos := signBit_pos f
    rw [if_pos hzero, hplace]
    simp [isNegative, magnitude, hpos.ne']
  · rw [if_neg hzero, place]
    cases x.isNegative with
    | false => simp
    | true =>
      have hneg : -(x.magnitude : Int) < 0 := by omega
      rw [if_pos rfl, if_pos rfl, if_pos hneg]
      omega

/-- Comparing by place is comparing the turned over bits, with both zeros taken for one. -/
theorem compare_eq_compare_totalKey (x y : FloatBits f) :
    compare x y = Ord.compare x.foldZero.totalKey y.foldZero.totalKey := by
  have hmono : StrictMono fun n : Int => if n < 0 then n - 1 else n := by
    intro m n hlt
    show (if m < 0 then m - 1 else m) < if n < 0 then n - 1 else n
    split <;> split <;> omega
  rw [totalKey_foldZero, totalKey_foldZero, compare, ← cmp_eq_compare, ← cmp_eq_compare]
  exact (hmono.cmp_map_eq x.place y.place).symm

/-! ## The order of the keys -/

/-- Floating-point keys compare by their bits, turned over below a set sign and with both zeros
taken for one, and so they are in the order of the numbers they denote. -/
theorem compare_inNumberOrder (x y : FloatBits f) :
    IndexKey.compare x y = Ord.compare x.foldZero.totalKey y.foldZero.totalKey ∧
      InNumberOrder x y (IndexKey.compare x y) := by
  have hcompares := compares_place x y
  refine ⟨compare_eq_compare_totalKey x y, fun hx hy => ?numbers,
    fun hx hy => compare_eq_iff.mpr (.inr ⟨hx, hy⟩),
    fun hx hneg hy => hcompares.eq_lt.mpr ?before, fun hx hpos hy => hcompares.eq_gt.mpr ?after,
    fun hx hneg hy hpos => hcompares.eq_lt.mpr ?ends, fun hx hpos hy hpos' => ?ascending,
    fun hx hneg hy hneg' => ?descending⟩
  case numbers =>
    have hmono := valueAt_strictMonoOn f
    rw [value_eq_valueAt, value_eq_valueAt]
    exact (hmono.compares (place_mem_of_not_isNaN hx) (place_mem_of_not_isNaN hy)).mpr hcompares
  case before =>
    have hbeyond := x.isNaN_iff.mp hx
    have hinside := place_mem_of_not_isNaN hy
    rw [Set.mem_Icc] at hinside
    rw [place_of_negative hneg]
    omega
  case after =>
    have hbeyond := x.isNaN_iff.mp hx
    have hinside := place_mem_of_not_isNaN hy
    rw [Set.mem_Icc] at hinside
    rw [place_of_not_negative hpos]
    omega
  case ends =>
    have hbeyond := x.isNaN_iff.mp hx
    rw [place_of_negative hneg, place_of_not_negative hpos]
    omega
  case ascending =>
    have hplace := place_of_not_negative hpos
    have hplace' := place_of_not_negative hpos'
    rw [hx.magnitude_eq] at hplace
    rw [hy.magnitude_eq] at hplace'
    exact compares_of_place (by omega) (by omega) (by omega)
  case descending =>
    have hplace := place_of_negative hneg
    have hplace' := place_of_negative hneg'
    rw [hx.magnitude_eq] at hplace
    rw [hy.magnitude_eq] at hplace'
    exact compares_of_place (by omega) (by omega) (by omega)

end FloatBits

end StaticTables
