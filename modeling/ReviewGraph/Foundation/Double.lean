import Mathlib

/-!
# Rounding to double precision

Floating-point numbers are represented by the rational numbers that they stand for.  `round` maps a
rational number to the nearest double, ties to the even one; overflow is not modelled. 
`abs_round_sub_le` bounds its error.
-/

namespace Double

/-- The exponent of the leading binary digit of a number that is not zero. -/
def binaryExponent (q : ℚ) : ℤ :=
  let e : ℤ := (Nat.log2 q.num.natAbs : ℤ) - (Nat.log2 q.den : ℤ)
  if (2 : ℚ) ^ e ≤ |q| then e else e - 1

/-- The nearest integer, ties to the even one. -/
def roundHalfEven (q : ℚ) : ℤ :=
  let below := ⌊q⌋
  let rest := q - below
  if rest < 1 / 2 then below
  else if 1 / 2 < rest then below + 1
  else if below % 2 = 0 then below else below + 1

/-- The nearest double. -/
def round (q : ℚ) : ℚ :=
  if q = 0 then 0
  else
    let unit : ℚ := (2 : ℚ) ^ (max (binaryExponent q - 52) (-1074))
    roundHalfEven (q / unit) * unit

/-! ## The error of a rounding -/

/-- The nearest integer is at most a half away. -/
lemma abs_roundHalfEven_sub_le (q : ℚ) : |(roundHalfEven q : ℚ) - q| ≤ 1 / 2 := by
  have hle : (⌊q⌋ : ℚ) ≤ q := Int.floor_le q
  have hlt : q < ⌊q⌋ + 1 := Int.lt_floor_add_one q
  unfold roundHalfEven
  rw [abs_le]
  dsimp only
  split_ifs with hbelow habove heven
  · constructor <;> linarith
  · push_cast
    constructor <;> linarith
  · constructor <;> linarith
  · push_cast
    constructor <;> linarith

/-- The power of two at the leading binary digit is at most the number. -/
lemma zpow_binaryExponent_le {q : ℚ} (hq : q ≠ 0) : (2 : ℚ) ^ binaryExponent q ≤ |q| := by
  unfold binaryExponent
  dsimp only
  split_ifs with hle
  · exact hle
  have hnum : (2 : ℚ) ^ Nat.log2 q.num.natAbs ≤ q.num.natAbs := by
    exact_mod_cast Nat.log2_self_le (Int.natAbs_ne_zero.2 (Rat.num_ne_zero.2 hq))
  have hden : (q.den : ℚ) < 2 ^ (Nat.log2 q.den + 1) := by
    exact_mod_cast Nat.lt_log2_self
  have hpos : (0 : ℚ) < q.den := by exact_mod_cast q.den_pos
  have habs : |q| = q.num.natAbs / q.den := by
    rw [Nat.cast_natAbs, Int.cast_abs]
    nth_rewrite 1 [← Rat.num_div_den q]
    rw [abs_div, Nat.abs_cast]
  rw [habs, le_div_iff₀ hpos]
  calc (2 : ℚ) ^ ((Nat.log2 q.num.natAbs : ℤ) - (Nat.log2 q.den : ℤ) - 1) * q.den
      ≤ 2 ^ ((Nat.log2 q.num.natAbs : ℤ) - (Nat.log2 q.den : ℤ) - 1) *
          2 ^ (Nat.log2 q.den + 1) := by gcongr
    _ = 2 ^ Nat.log2 q.num.natAbs := by
      rw [← zpow_natCast, ← zpow_natCast, ← zpow_add₀ (by norm_num)]
      congr 1
      push_cast
      ring
    _ ≤ q.num.natAbs := hnum

/-- The nearest double is close to the number: relatively, or absolutely near zero. -/
lemma abs_round_sub_le (q : ℚ) : |round q - q| ≤ 2 ^ (-53 : ℤ) * |q| + 2 ^ (-1075 : ℤ) := by
  unfold round
  split_ifs with hq
  · rw [hq]
    simp
  set unit : ℚ := (2 : ℚ) ^ (max (binaryExponent q - 52) (-1074)) with hunitDef
  have hunit : 0 < unit := zpow_pos (by norm_num) _
  have herror : |roundHalfEven (q / unit) * unit - q| ≤ unit / 2 := by
    have hscaled : roundHalfEven (q / unit) * unit - q =
        (roundHalfEven (q / unit) - q / unit) * unit := by
      rw [sub_mul, div_mul_cancel₀ _ hunit.ne']
    rw [hscaled, abs_mul, abs_of_pos hunit]
    have hhalf := abs_roundHalfEven_sub_le (q / unit)
    calc |(roundHalfEven (q / unit) : ℚ) - q / unit| * unit ≤ 1 / 2 * unit := by gcongr
      _ = unit / 2 := by ring
  have hsize : unit / 2 ≤ 2 ^ (-53 : ℤ) * |q| + 2 ^ (-1075 : ℤ) := by
    rcases le_total (binaryExponent q - 52) (-1074) with hmax | hmax
    · rw [hunitDef, max_eq_right hmax]
      have hsub : (2 : ℚ) ^ (-1074 : ℤ) / 2 = 2 ^ (-1075 : ℤ) := by
        rw [div_eq_iff (by norm_num), ← zpow_add_one₀ (by norm_num)]
        norm_num
      rw [hsub]
      have hnonneg : (0 : ℚ) ≤ 2 ^ (-53 : ℤ) * |q| := by positivity
      linarith
    · rw [hunitDef, max_eq_left hmax]
      have hsub : (2 : ℚ) ^ (binaryExponent q - 52) / 2 =
          2 ^ (-53 : ℤ) * 2 ^ binaryExponent q := by
        rw [div_eq_iff (by norm_num), ← zpow_add₀ (by norm_num), ← zpow_add_one₀ (by norm_num)]
        congr 1
        ring
      rw [hsub]
      have hle := zpow_binaryExponent_le hq
      have hmul : (2 : ℚ) ^ (-53 : ℤ) * 2 ^ binaryExponent q ≤ 2 ^ (-53 : ℤ) * |q| := by gcongr
      have hpos : (0 : ℚ) < 2 ^ (-1075 : ℤ) := zpow_pos (by norm_num) _
      linarith
  exact herror.trans hsize

@[simp] lemma round_zero : round 0 = 0 := by simp [round]

end Double
