import Mathlib.Algebra.Order.Floor.Ring
import Mathlib.Data.Int.Log
import Mathlib.Data.Rat.Floor
import Mathlib.Tactic.Linarith
import Mathlib.Tactic.NormNum
import Mathlib.Tactic.Positivity
import Mathlib.Tactic.Ring

/-
  Rounding to integers and to floating point numbers.

  Main definitions include:
    * `Library.roundHalfEven`
    * `Library.FloatFormat`
    * `Library.FloatFormat.round`
    * `Library.FloatFormat.Holds`
    * `Library.toDouble`

  Main theorems include:
    * `Library.abs_roundHalfEven_sub_le`
    * `Library.roundHalfEven_mono`
    * `Library.FloatFormat.round_mono`
    * `Library.FloatFormat.holds_round`
    * `Library.FloatFormat.abs_round_sub_le`

  A number is rounded to the nearest one of its format, and
  a tie goes to the even neighbour.  There is a least
  exponent, and no greatest one: the format does not
  overflow.
-/

------------------------------------------------------------
-- Integers
------------------------------------------------------------

namespace Library

/- The nearest integer; a tie goes to the even neighbour. -/
def roundHalfEven
    (q : ℚ) :
    Int :=
  let part := q - ⌊q⌋
  if part < 1 / 2 then
    ⌊q⌋
  else if 1 / 2 < part then
    ⌊q⌋ + 1
  else if ⌊q⌋ % 2 = 0 then
    ⌊q⌋
  else
    ⌊q⌋ + 1

variable {q r : ℚ}

/- Rounding goes at most one half. -/
theorem abs_roundHalfEven_sub_le
    (q : ℚ) :
    |(roundHalfEven q : ℚ) - q| ≤ 1 / 2 := by
  have hFloor := Int.floor_le q
  have hNext := Int.lt_floor_add_one q
  rw [abs_le]
  simp only [roundHalfEven]
  split_ifs <;> push_cast <;> constructor <;> linarith

@[simp]
theorem roundHalfEven_intCast
    (n : Int) :
    roundHalfEven (n : ℚ) = n := by
  simp [roundHalfEven]

theorem roundHalfEven_mono
    (hLe : q ≤ r) :
    roundHalfEven q ≤ roundHalfEven r := by
  rcases hLe.lt_or_eq with hLess | rfl
  · have hq := abs_le.mp (abs_roundHalfEven_sub_le q)
    have hr := abs_le.mp (abs_roundHalfEven_sub_le r)
    have hNear :
        (roundHalfEven q : ℚ) < roundHalfEven r + 1 := by
      linarith
    have hBound :
        roundHalfEven q < roundHalfEven r + 1 := by
      exact_mod_cast hNear
    omega
  · exact le_refl _

/- Rounding does not pass an integer. -/
theorem roundHalfEven_le
    {bound : Int}
    (hBound : q ≤ bound) :
    roundHalfEven q ≤ bound := by
  simpa using roundHalfEven_mono hBound

theorem le_roundHalfEven
    {bound : Int}
    (hBound : (bound : ℚ) ≤ q) :
    bound ≤ roundHalfEven q := by
  simpa using roundHalfEven_mono hBound

theorem floor_neg_of_lt
    (hPart : (⌊q⌋ : ℚ) < q) :
    ⌊-q⌋ = -⌊q⌋ - 1 := by
  rw [Int.floor_eq_iff]
  push_cast
  have hNext := Int.lt_floor_add_one q
  constructor <;> linarith

/- The rounding of both signs is the same. -/
theorem roundHalfEven_neg
    (q : ℚ) :
    roundHalfEven (-q) = -roundHalfEven q := by
  rcases (Int.floor_le q).lt_or_eq with hPart | hWhole
  · have hFloor := floor_neg_of_lt hPart
    simp only [roundHalfEven, hFloor]
    push_cast
    split_ifs <;> first | omega | (exfalso; linarith)
  · rw [← hWhole, ← Int.cast_neg, roundHalfEven_intCast,
      roundHalfEven_intCast]

end Library

------------------------------------------------------------
-- Formats
------------------------------------------------------------

namespace Library

/- The digits of a binary format and its least exponent. -/
structure FloatFormat where
  precision : Nat
  leastExponent : Int
  precision_pos : 1 ≤ precision

namespace FloatFormat

variable (format : FloatFormat)

/- The exponent of the last digit near a number. -/
def exponent
    (q : ℚ) :
    Int :=
  max (Int.log 2 |q| + 1 - format.precision)
    format.leastExponent

/- The nearest number of the format. -/
def round
    (q : ℚ) :
    ℚ :=
  roundHalfEven (q / 2 ^ format.exponent q) *
    2 ^ format.exponent q

/- The numbers of the format are those rounding keeps. -/
def Holds
    (x : ℚ) :
    Prop :=
  format.round x = x

variable {q r x : ℚ}

theorem two_zpow_pos
    (e : Int) :
    (0 : ℚ) < 2 ^ e :=
  zpow_pos (by norm_num) e

@[simp]
theorem round_zero :
    format.round 0 = 0 := by
  simp [round, roundHalfEven]

@[simp]
theorem exponent_neg
    (q : ℚ) :
    format.exponent (-q) = format.exponent q := by
  rw [exponent, abs_neg, exponent]

theorem round_neg
    (q : ℚ) :
    format.round (-q) = -format.round q := by
  rw [round, exponent_neg, neg_div, roundHalfEven_neg,
    round]
  push_cast
  ring

/- A number is less than its first power of two. -/
theorem abs_lt_two_zpow
    (q : ℚ) :
    |q| < 2 ^ (format.exponent q + format.precision) := by
  have hLog :=
    Int.lt_zpow_succ_log_self (b := 2) (by norm_num) |q|
  refine hLog.trans_le ?_
  apply zpow_le_zpow_right₀ (by norm_num)
  have hMax :=
    le_max_left (Int.log 2 |q| + 1 - format.precision)
      format.leastExponent
  rw [exponent]
  omega

/- The digits of a number fit into the precision. -/
theorem abs_div_lt
    (q : ℚ) :
    |q / 2 ^ format.exponent q| <
      2 ^ (format.precision : Int) := by
  rw [abs_div, abs_of_pos (two_zpow_pos _),
    div_lt_iff₀ (two_zpow_pos _),
    ← zpow_add₀ (by norm_num), add_comm]
  exact abs_lt_two_zpow format q

theorem exponent_mono
    (hPos : 0 < |q|)
    (hLe : |q| ≤ |r|) :
    format.exponent q ≤ format.exponent r := by
  have hLog := Int.log_mono_right (b := 2) hPos hLe
  exact
    max_le_max (by omega) (le_refl format.leastExponent)

/- No number is rounded beyond the reach of its exponent. -/
theorem round_le_reach
    (q : ℚ) :
    format.round q ≤
      2 ^ (format.precision + format.exponent q) := by
  have hTop :
      roundHalfEven (q / 2 ^ format.exponent q) ≤
        2 ^ format.precision := by
    apply roundHalfEven_le
    have hBound :=
      (le_abs_self _).trans
        (abs_div_lt format q).le
    push_cast
    rwa [zpow_natCast] at hBound
  have hTopRat :
      (roundHalfEven (q / 2 ^ format.exponent q) : ℚ) ≤
        2 ^ (format.precision : Int) := by
    rw [zpow_natCast]
    exact_mod_cast hTop
  rw [zpow_add₀ (by norm_num)]
  exact
    mul_le_mul_of_nonneg_right hTopRat (two_zpow_pos _).le

/- Above the least exponent all digits are in use. -/
theorem reach_le_round
    (hr : 0 < r)
    (hNormal : format.leastExponent < format.exponent r) :
    2 ^ ((format.precision : Int) - 1 +
        format.exponent r) ≤
      format.round r := by
  have hPrecision := format.precision_pos
  have hLog :
      format.exponent r =
        Int.log 2 |r| + 1 - format.precision := by
    unfold exponent at hNormal ⊢
    omega
  have hDigits :
      ((format.precision : Int) - 1) =
        ((format.precision - 1 : Nat) : Int) := by
    omega
  have hBottom :
      2 ^ (format.precision - 1) ≤
        roundHalfEven (r / 2 ^ format.exponent r) := by
    apply le_roundHalfEven
    push_cast
    have hSelf :=
      Int.zpow_log_le_self (b := 2) (by norm_num)
        (abs_pos.mpr hr.ne')
    have hSum :
        ((format.precision - 1 : Nat) : Int) +
            format.exponent r =
          Int.log 2 |r| := by
      omega
    rw [le_div_iff₀ (two_zpow_pos _), ← zpow_natCast,
      ← zpow_add₀ (by norm_num), hSum]
    rwa [abs_of_pos hr] at hSelf ⊢
  have hBottomRat :
      (2 : ℚ) ^ ((format.precision : Int) - 1) ≤
        roundHalfEven (r / 2 ^ format.exponent r) := by
    rw [hDigits, zpow_natCast]
    exact_mod_cast hBottom
  rw [zpow_add₀ (by norm_num)]
  exact
    mul_le_mul_of_nonneg_right hBottomRat
      (two_zpow_pos _).le

/-
  With a greater exponent a number is beyond all that the
  smaller exponent can round to.
-/
theorem round_le_of_exponent_lt
    (hr : 0 < r)
    (hLess : format.exponent q < format.exponent r) :
    format.round q ≤ format.round r := by
  have hNormal : format.leastExponent < format.exponent r :=
    (le_max_right _ _).trans_lt hLess
  calc
    format.round q ≤
        2 ^ (format.precision + format.exponent q) :=
      round_le_reach format q
    _ ≤ 2 ^ ((format.precision : Int) - 1 +
          format.exponent r) :=
      zpow_le_zpow_right₀ (by norm_num) (by omega)
    _ ≤ format.round r :=
      reach_le_round format hr hNormal

theorem round_nonneg
    (hq : 0 ≤ q) :
    0 ≤ format.round q := by
  apply mul_nonneg _ (two_zpow_pos _).le
  have hRound :
      (0 : Int) ≤
        roundHalfEven (q / 2 ^ format.exponent q) := by
    apply le_roundHalfEven
    push_cast
    exact div_nonneg hq (two_zpow_pos _).le
  exact_mod_cast hRound

theorem round_mono_of_nonneg
    (hq : 0 ≤ q)
    (hLe : q ≤ r) :
    format.round q ≤ format.round r := by
  rcases hq.lt_or_eq with hPos | rfl
  · have hPosR : 0 < r := hPos.trans_le hLe
    have hExponent :
        format.exponent q ≤ format.exponent r :=
      exponent_mono format (abs_pos.mpr hPos.ne')
        (by rwa [abs_of_pos hPos, abs_of_pos hPosR])
    rcases hExponent.lt_or_eq with hLess | hSame
    · exact round_le_of_exponent_lt format hPosR hLess
    · rw [round, round, hSame]
      apply
        mul_le_mul_of_nonneg_right _ (two_zpow_pos _).le
      exact_mod_cast
        roundHalfEven_mono
          (div_le_div_of_nonneg_right hLe
            (two_zpow_pos _).le)
  · rw [round_zero]
    exact round_nonneg format hLe

/- Rounding keeps the order. -/
theorem round_mono
    (hLe : q ≤ r) :
    format.round q ≤ format.round r := by
  rcases le_total 0 q with hq | hq
  · exact round_mono_of_nonneg format hq hLe
  · have hSmall : format.round q ≤ 0 := by
      have hFlip :=
        round_nonneg format (neg_nonneg.mpr hq)
      rw [round_neg] at hFlip
      linarith
    rcases le_total 0 r with hr | hr
    · exact hSmall.trans (round_nonneg format hr)
    · have hFlip :=
        round_mono_of_nonneg format (neg_nonneg.mpr hr)
          (neg_le_neg hLe)
      rw [round_neg, round_neg] at hFlip
      linarith

/- Whole multiples of a digit that fit are kept. -/
theorem holds_of_digits
    {m e : Int}
    (hFits : |(m : ℚ)| < 2 ^ (format.precision : Int))
    (hLeast : format.leastExponent ≤ e) :
    format.Holds (m * 2 ^ e) := by
  by_cases hZero : m = 0
  · subst hZero
    simp [Holds]
  have hAbs : |(m : ℚ) * 2 ^ e| = |(m : ℚ)| * 2 ^ e := by
    rw [abs_mul, abs_of_pos (two_zpow_pos e)]
  have hPos : 0 < |(m : ℚ) * 2 ^ e| := by
    rw [hAbs]
    exact
      mul_pos (abs_pos.mpr (by exact_mod_cast hZero))
        (two_zpow_pos e)
  have hLog :
      Int.log 2 |(m : ℚ) * 2 ^ e| <
        format.precision + e := by
    apply
      (Int.lt_zpow_iff_log_lt (b := 2) (by norm_num)
        hPos).mp
    rw [hAbs, Nat.cast_ofNat, zpow_add₀ (by norm_num)]
    exact mul_lt_mul_of_pos_right hFits (two_zpow_pos e)
  have hExponent :
      format.exponent ((m : ℚ) * 2 ^ e) ≤ e :=
    max_le (by omega) hLeast
  rw [Holds, round]
  generalize format.exponent ((m : ℚ) * 2 ^ e) = last
    at hExponent
  have hWhole :
      (m : ℚ) * 2 ^ e / 2 ^ last =
        ((m * 2 ^ (e - last).toNat : Int) : ℚ) := by
    push_cast
    rw [← zpow_natCast, Int.toNat_of_nonneg (by omega),
      zpow_sub₀ (by norm_num), mul_div_assoc]
  rw [hWhole, roundHalfEven_intCast, ← hWhole,
    div_mul_cancel₀ _ (two_zpow_pos last).ne']

theorem exists_half
    {m : Int}
    (hTop : |m| = 2 ^ format.precision) :
    ∃ half : Int,
      m = 2 * half ∧
        |(half : ℚ)| < 2 ^ (format.precision : Int) := by
  rcases Nat.exists_eq_add_of_le' format.precision_pos with
    ⟨digits, hDigits⟩
  have hBelow :
      (2 : ℚ) ^ digits < 2 ^ (format.precision : Int) := by
    rw [hDigits, zpow_natCast]
    exact
      pow_lt_pow_right₀ (by norm_num)
        (Nat.lt_succ_self digits)
  rw [hDigits, pow_succ] at hTop
  rcases eq_or_eq_neg_of_abs_eq hTop with rfl | rfl
  · refine ⟨2 ^ digits, by ring, ?_⟩
    push_cast
    rwa [abs_of_pos (by positivity)]
  · refine ⟨-2 ^ digits, by ring, ?_⟩
    push_cast
    rwa [abs_neg, abs_of_pos (by positivity)]

/- Rounding gives a number of the format. -/
theorem holds_round
    (q : ℚ) :
    format.Holds (format.round q) := by
  have hLeast :
      format.leastExponent ≤ format.exponent q :=
    le_max_right _ _
  have hDigits :
      |roundHalfEven (q / 2 ^ format.exponent q)| ≤
        2 ^ format.precision := by
    have hBound := abs_le.mp (abs_div_lt format q).le
    rw [zpow_natCast] at hBound
    rw [abs_le]
    constructor
    · apply le_roundHalfEven
      push_cast
      exact hBound.1
    · apply roundHalfEven_le
      push_cast
      exact hBound.2
  rw [round]
  generalize roundHalfEven (q / 2 ^ format.exponent q) = m
    at hDigits
  rcases hDigits.lt_or_eq with hFits | hTop
  · apply holds_of_digits format _ hLeast
    rw [zpow_natCast]
    exact_mod_cast hFits
  · rcases exists_half format hTop with
      ⟨half, rfl, hHalf⟩
    have hMove :
        ((2 * half : Int) : ℚ) * 2 ^ format.exponent q =
          half * 2 ^ (format.exponent q + 1) := by
      rw [zpow_add_one₀ (by norm_num)]
      push_cast
      ring
    rw [hMove]
    exact holds_of_digits format hHalf (by omega)

/- The error is half a digit at most. -/
theorem abs_round_sub_le_half
    (q : ℚ) :
    |format.round q - q| ≤
      2 ^ (format.exponent q - 1) := by
  have hPos := two_zpow_pos (format.exponent q)
  have hNear :=
    abs_roundHalfEven_sub_le (q / 2 ^ format.exponent q)
  have hScale :
      format.round q - q =
        (roundHalfEven (q / 2 ^ format.exponent q) -
            q / 2 ^ format.exponent q) *
          2 ^ format.exponent q := by
    rw [round, sub_mul, div_mul_cancel₀ _ hPos.ne']
  rw [hScale, abs_mul, abs_of_pos hPos,
    zpow_sub_one₀ (by norm_num)]
  calc
    _ ≤ 1 / 2 * 2 ^ format.exponent q :=
      mul_le_mul_of_nonneg_right hNear hPos.le
    _ = 2 ^ format.exponent q * 2⁻¹ := by
      ring

/-
  The error is relative, up to half of the least digit.
-/
theorem abs_round_sub_le
    (q : ℚ) :
    |format.round q - q| ≤
      |q| * 2 ^ (-(format.precision : Int)) +
        2 ^ (format.leastExponent - 1) := by
  have hLeast := two_zpow_pos (format.leastExponent - 1)
  rcases eq_or_ne q 0 with rfl | hZero
  · simpa using hLeast.le
  · have hPos : 0 < |q| := abs_pos.mpr hZero
    have hPower :=
      two_zpow_pos (-(format.precision : Int))
    have hHalf := abs_round_sub_le_half format q
    rcases max_choice
        (Int.log 2 |q| + 1 - (format.precision : Int))
        format.leastExponent with hLog | hBottom
    · have hSelf :=
        Int.zpow_log_le_self (b := 2) (by norm_num) hPos
      have hSplit :
          format.exponent q - 1 =
            Int.log 2 |q| + -(format.precision : Int) := by
        rw [exponent, hLog]
        ring
      rw [hSplit, zpow_add₀ (by norm_num)] at hHalf
      have hScaled :=
        mul_le_mul_of_nonneg_right hSelf hPower.le
      push_cast at hScaled
      linarith
    · rw [exponent, hBottom] at hHalf
      have hTerm := mul_pos hPos hPower
      linarith

/- A number of the format is not passed. -/
theorem Holds.le_round
    {format : FloatFormat}
    (hHolds : format.Holds x)
    (hLe : x ≤ q) :
    x ≤ format.round q := by
  rw [← hHolds]
  exact round_mono format hLe

end FloatFormat

end Library

------------------------------------------------------------
-- Doubles
------------------------------------------------------------

namespace Library

/- The format of a `float`. -/
def binary64 : FloatFormat where
  precision := 53
  leastExponent := -1074
  precision_pos := by decide

/- The `float` nearest to a number. -/
def toDouble : ℚ → ℚ :=
  binary64.round

variable {x q r : ℚ}

theorem toDouble_mono
    (hLe : q ≤ r) :
    toDouble q ≤ toDouble r :=
  binary64.round_mono hLe

@[simp]
theorem toDouble_zero :
    toDouble 0 = 0 :=
  binary64.round_zero

@[simp]
theorem toDouble_toDouble
    (q : ℚ) :
    toDouble (toDouble q) = toDouble q :=
  binary64.holds_round q

/- Half of the least positive `float`. -/
def halfLeastDouble : ℚ :=
  2 ^ (binary64.leastExponent - 1)

theorem halfLeastDouble_pos :
    0 < halfLeastDouble :=
  FloatFormat.two_zpow_pos _

theorem abs_toDouble_sub_le
    (q : ℚ) :
    |toDouble q - q| ≤ |q| / 2 ^ 53 + halfLeastDouble := by
  have hDigits :
      (2 : ℚ) ^ (-(binary64.precision : Int)) =
        1 / 2 ^ 53 := by
    rw [zpow_neg, one_div]
    rfl
  have hError := binary64.abs_round_sub_le q
  rw [hDigits, mul_one_div] at hError
  exact hError

end Library
