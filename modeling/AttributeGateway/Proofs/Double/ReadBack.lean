import AttributeGateway.Double.Shortest
import Mathlib.Algebra.Order.Field.Power
import Mathlib.Data.Int.Log
import Mathlib.Data.Rat.Floor

/-!
# Decimals that read back

Reading a decimal depends on its value alone, not on the power of ten that its digits are given
with; and the exact value of a finite number is read as that number. The decimal that is chosen for
a number reads back because it is tried before it is chosen, or, if no short one does, because it is
the exact value.

* `floorLog2_eq` — the exponent that reading finds is the logarithm of the value.
* `nearestMagnitude_mul`, `nearest_shift` — a decimal is read by its value.
* `nearestMagnitude_of_eq`, `nearest_exact` — the exact value of a number is read as that number.
* `nearest_shortest` — the decimal that is written for a number reads back.
-/

namespace AttributeGateway

namespace Double

variable {num den m c : Nat} {q : Int}

/-! ### Rounding -/

theorem roundHalfEven_mul (hc : 0 < c) (num den : Nat) :
    roundHalfEven (c * num) (c * den) = roundHalfEven num den := by
  have htwice : 2 * (c * (num % den)) = c * (2 * (num % den)) := by ring
  simp only [roundHalfEven, Nat.mul_div_mul_left _ _ hc, Nat.mul_mod_mul_left, htwice,
    Nat.mul_lt_mul_left hc, Nat.mul_right_inj (Nat.ne_of_gt hc)]

/-- A quotient without remainder is not rounded. -/
theorem roundHalfEven_mul_self (m : Nat) (hd : 0 < den) : roundHalfEven (m * den) den = m := by
  simp only [roundHalfEven, Nat.mul_div_cancel _ hd, Nat.mul_mod_left, Nat.mul_zero]
  rw [if_neg]
  omega

/-! ### The exponent -/

/-- A power of two, given by numerator and denominator, is at most a quotient. -/
theorem mul_pow_le_iff (num : Nat) (hd : 0 < den) (k : Int) :
    den * Nat.pow 2 k.toNat ≤ num * Nat.pow 2 (-k).toNat ↔ (2 : ℚ) ^ k ≤ num / den := by
  have hd' : (0 : ℚ) < den := by exact_mod_cast hd
  rw [le_div_iff₀ hd', ← Nat.cast_le (α := ℚ)]
  simp only [Nat.pow_eq, Nat.cast_mul, Nat.cast_pow, Nat.cast_ofNat]
  obtain ⟨n, rfl | rfl⟩ := k.eq_nat_or_neg
  · simp [mul_comm]
  · have hpow : (0 : ℚ) < 2 ^ n := by positivity
    simp only [Int.toNat_neg_natCast, pow_zero, mul_one, neg_neg, Int.toNat_natCast, zpow_neg,
      zpow_natCast]
    rw [inv_mul_le_iff₀ hpow, mul_comm (num : ℚ)]

theorem log2_bounds (hn : 0 < num) : (2 : ℚ) ^ (num.log2 : ℤ) ≤ num ∧
    (num : ℚ) < (2 : ℚ) ^ (num.log2 + 1 : ℤ) := by
  constructor
  · have h := Nat.log2_self_le (Nat.ne_of_gt hn)
    rw [zpow_natCast]
    exact_mod_cast h
  · have h := Nat.lt_log2_self (n := num)
    rw [← Nat.cast_succ, zpow_natCast]
    exact_mod_cast h

/-- The logarithms of numerator and denominator leave two possibilities for that of the quotient. -/
theorem log_div_bounds (hn : 0 < num) (hd : 0 < den) :
    (num.log2 : ℤ) - den.log2 - 1 ≤ Int.log 2 ((num : ℚ) / den) ∧
      Int.log 2 ((num : ℚ) / den) < (num.log2 : ℤ) - den.log2 + 1 := by
  have hn' : (0 : ℚ) < num := by exact_mod_cast hn
  have hd' : (0 : ℚ) < den := by exact_mod_cast hd
  have hpos : (0 : ℚ) < num / den := div_pos hn' hd'
  obtain ⟨hnlow, hnhigh⟩ := log2_bounds hn
  obtain ⟨hdlow, hdhigh⟩ := log2_bounds hd
  constructor
  · rw [← Int.zpow_le_iff_le_log Nat.one_lt_two hpos, le_div_iff₀ hd']
    calc ((2 : ℕ) : ℚ) ^ ((num.log2 : ℤ) - den.log2 - 1) * den
        ≤ 2 ^ ((num.log2 : ℤ) - den.log2 - 1) * 2 ^ (den.log2 + 1 : ℤ) := by
          push_cast
          gcongr
      _ = 2 ^ (num.log2 : ℤ) := by
          rw [← zpow_add₀ two_ne_zero]
          congr 1
          ring
      _ ≤ num := hnlow
  · rw [← Int.lt_zpow_iff_log_lt Nat.one_lt_two hpos, div_lt_iff₀ hd']
    calc (num : ℚ) < 2 ^ (num.log2 + 1 : ℤ) := hnhigh
      _ = 2 ^ ((num.log2 : ℤ) - den.log2 + 1) * 2 ^ (den.log2 : ℤ) := by
          rw [← zpow_add₀ two_ne_zero]
          congr 1
          ring
      _ ≤ ((2 : ℕ) : ℚ) ^ ((num.log2 : ℤ) - den.log2 + 1) * den := by
          push_cast
          gcongr

/-- **The exponent that is found is the logarithm of the value**, whatever numerator and denominator
it is given by. -/
theorem floorLog2_eq (hn : 0 < num) (hd : 0 < den) :
    floorLog2 num den = Int.log 2 ((num : ℚ) / den) := by
  have hpos : (0 : ℚ) < num / den := div_pos (by exact_mod_cast hn) (by exact_mod_cast hd)
  obtain ⟨hlow, hhigh⟩ := log_div_bounds hn hd
  have hiff := mul_pow_le_iff num hd ((num.log2 : ℤ) - den.log2)
  rw [show (2 : ℚ) = ((2 : ℕ) : ℚ) by norm_num, Int.zpow_le_iff_le_log Nat.one_lt_two hpos] at hiff
  simp only [floorLog2]
  split
  · next h =>
    have hle := hiff.1 h
    omega
  · next h =>
    have hle := mt hiff.2 h
    omega

/-! ### Reading by value -/

/-- **A quotient is read by its value.** -/
theorem nearestMagnitude_mul (hc : 0 < c) (hd : 0 < den) :
    nearestMagnitude (c * num) (c * den) = nearestMagnitude num den := by
  by_cases hn : num = 0
  · simp [nearestMagnitude, hn]
  · have hn' : 0 < num := Nat.pos_of_ne_zero hn
    have hlog : floorLog2 (c * num) (c * den) = floorLog2 num den := by
      have hc' : (c : ℚ) ≠ 0 := by exact_mod_cast Nat.ne_of_gt hc
      rw [floorLog2_eq (Nat.mul_pos hc hn') (Nat.mul_pos hc hd), floorLog2_eq hn' hd]
      push_cast
      rw [mul_div_mul_left _ _ hc']
    have hne : c * num ≠ 0 := Nat.ne_of_gt (Nat.mul_pos hc hn')
    simp only [nearestMagnitude, hn, hne, if_false, hlog, Nat.mul_assoc, roundHalfEven_mul hc]

theorem digitCount_mul_ten (hn : 0 < num) : digitCount (num * 10) = digitCount num + 1 := by
  have hle : 10 ≤ num * 10 := by omega
  rw [digitCount, Nat.toDigits_of_base_le (by decide) hle, List.length_append,
    Nat.mul_div_cancel _ (by decide)]
  rfl

theorem nearest_mul_ten (n : Nat) (e : Int) : nearest ⟨n * 10, e - 1⟩ = nearest ⟨n, e⟩ := by
  by_cases hn : n = 0
  · simp [nearest, hn]
  · have hcount := digitCount_mul_ten (Nat.pos_of_ne_zero hn)
    have hfirst : e - 1 + ((digitCount (n * 10) : Nat) : Int) = e + (digitCount n : Nat) := by
      rw [hcount]
      push_cast
      ring
    have hne : n * 10 ≠ 0 := by omega
    have hmagnitude : nearestMagnitude (n * 10 * Nat.pow 10 (e - 1).toNat)
          (Nat.pow 10 (-(e - 1)).toNat) =
        nearestMagnitude (n * Nat.pow 10 e.toNat) (Nat.pow 10 (-e).toNat) := by
      simp only [Nat.pow_eq]
      by_cases he : 1 ≤ e
      · have hnat : e.toNat = (e - 1).toNat + 1 := by omega
        have hneg : (-(e - 1)).toNat = (-e).toNat := by omega
        rw [hnat, hneg, pow_succ', Nat.mul_assoc]
      · have hzero : (e - 1).toNat = e.toNat := by omega
        have hneg : (-(e - 1)).toNat = (-e).toNat + 1 := by omega
        rw [hzero, hneg, pow_succ', Nat.mul_right_comm, Nat.mul_comm _ 10,
          nearestMagnitude_mul (by decide) (Nat.pow_pos (by decide))]
    simp only [nearest, hn, hne, hfirst, hmagnitude, false_or]

/-- **A decimal is read by its value**: zeros behind its digits change nothing. -/
theorem nearest_shift (n : Nat) (e : Int) (k : Nat) :
    nearest ⟨n * 10 ^ k, e - k⟩ = nearest ⟨n, e⟩ := by
  induction k with
  | zero => simp
  | succ k ih =>
    rw [← ih, ← nearest_mul_ten (n * 10 ^ k), pow_succ, Nat.mul_assoc, Nat.cast_succ, sub_sub]

/-! ### Exact values -/

/-- A quotient that has the value `m * 2 ^ q`. -/
theorem div_eq_of_mul_eq (hd : 0 < den)
    (heq : num * 2 ^ (-q).toNat = m * (den * 2 ^ q.toNat)) : (num : ℚ) / den = m * 2 ^ q := by
  have hd' : (den : ℚ) ≠ 0 := by exact_mod_cast Nat.ne_of_gt hd
  have hcast : (num : ℚ) * 2 ^ (-q).toNat = m * (den * 2 ^ q.toNat) := by exact_mod_cast heq
  rw [div_eq_iff hd']
  obtain ⟨n, rfl | rfl⟩ := q.eq_nat_or_neg
  · simp only [Int.toNat_neg_natCast, pow_zero, mul_one, Int.toNat_natCast] at hcast
    rw [hcast, zpow_natCast]
    ring
  · simp only [neg_neg, Int.toNat_natCast, Int.toNat_neg_natCast, pow_zero, mul_one] at hcast
    rw [zpow_neg, zpow_natCast, mul_right_comm, ← hcast, mul_assoc,
      mul_inv_cancel₀ (by positivity), mul_one]

/-- A value `m * 2 ^ q` is read exactly if a number has that significand and scale. -/
theorem nearestMagnitude_of_eq (hd : 0 < den) (hm : 0 < m) (hq : -1074 ≤ q) (hlt : m < 2 ^ 53)
    (hnorm : 2 ^ 52 ≤ m ∨ q = -1074)
    (heq : num * 2 ^ (-q).toNat = m * (den * 2 ^ q.toNat)) :
    nearestMagnitude num den = min ((q + 1074).toNat * fractions + m) infinityMagnitude := by
  have hn : 0 < num := by
    refine Nat.pos_of_ne_zero ?_
    rintro rfl
    rw [Nat.zero_mul] at heq
    exact absurd heq.symm (Nat.ne_of_gt (by positivity))
  have hvalue := div_eq_of_mul_eq hd heq
  have hpos : (0 : ℚ) < m * 2 ^ q := by positivity
  have hhigh : Int.log 2 ((m : ℚ) * 2 ^ q) < 53 + q := by
    rw [← Int.lt_zpow_iff_log_lt Nat.one_lt_two hpos]
    push_cast
    rw [zpow_add₀ two_ne_zero]
    have hlt' : (m : ℚ) < 2 ^ (53 : ℤ) := by exact_mod_cast hlt
    gcongr
  have hexponent : max (floorLog2 num den - 52) (-1074) = q := by
    rw [floorLog2_eq hn hd, hvalue]
    rcases hnorm with hnorm | hnorm
    · have hlow : 52 + q ≤ Int.log 2 ((m : ℚ) * 2 ^ q) := by
        rw [← Int.zpow_le_iff_le_log Nat.one_lt_two hpos]
        push_cast
        rw [zpow_add₀ two_ne_zero]
        have hnorm' : (2 : ℚ) ^ (52 : ℤ) ≤ m := by exact_mod_cast hnorm
        gcongr
      omega
    · omega
  simp only [nearestMagnitude, Nat.ne_of_gt hn, if_false, hexponent, Nat.pow_eq]
  rw [heq, roundHalfEven_mul_self m (by positivity)]

variable {x : Double}

/-- Significand and scale of a finite number. -/
structure Scaled (x : Double) : Prop where
  low : -1074 ≤ x.scale
  high : x.scale ≤ 971
  lt : x.significand < 2 ^ 53
  /-- The significand has all its bits, unless the scale is the least one. -/
  full : 2 ^ 52 ≤ x.significand ∨ x.scale = -1074
  /-- The number is given by both. -/
  magnitude : (x.scale + 1074).toNat * fractions + x.significand = x.magnitude

theorem magnitude_lt_of_isFinite (h : x.isFinite = true) : x.magnitude < infinityMagnitude :=
  of_decide_eq_true h

/-- A number is its sign and its magnitude. -/
theorem ofMagnitude_magnitude (x : Double) : ofMagnitude x.negative x.magnitude = x := by
  obtain ⟨bits⟩ := x
  have hlt := bits.toNat_lt
  rw [ofMagnitude, Double.mk.injEq, ← UInt64.toNat_inj, UInt64.toNat_ofNat']
  by_cases hneg : signBit ≤ bits.toNat
  · simp only [negative, magnitude, hneg, decide_true, if_true]
    simp only [signBit] at hneg ⊢
    omega
  · simp only [negative, magnitude, hneg, decide_false, Bool.false_eq_true, if_false]
    simp only [signBit] at hneg ⊢
    omega

theorem magnitude_eq_zero (hz : x.isZero = true) : x.magnitude = 0 := by
  simpa [isZero] using hz

theorem magnitude_ne_zero (hz : x.isZero = false) : x.magnitude ≠ 0 := by
  simpa [isZero] using hz

/-- The significand has one more bit than the fraction, unless the exponent is the least one. -/
theorem significand_cases (x : Double) :
    x.magnitude < 0x10000000000000 ∧ x.significand = x.magnitude ∨
      0x10000000000000 ≤ x.magnitude ∧
        x.significand = 0x10000000000000 + x.magnitude % 0x10000000000000 := by
  rw [significand]
  split
  · next h => exact .inl ⟨h, rfl⟩
  · next h => exact .inr ⟨Nat.le_of_not_lt h, rfl⟩

theorem scaled_of_isFinite (h : x.isFinite = true) : Scaled x := by
  have hfinite := magnitude_lt_of_isFinite h
  have hcases := x.significand_cases
  simp only [infinityMagnitude, fractions] at hfinite
  constructor
  · simp only [scale, fractions]
    omega
  · simp only [scale, fractions]
    omega
  · omega
  · simp only [scale, fractions]
    omega
  · simp only [scale, fractions]
    omega

theorem significand_pos (hz : x.isZero = false) : 0 < x.significand := by
  have hne := magnitude_ne_zero hz
  have hcases := x.significand_cases
  omega

/-- Within the range of the exponents a decimal is read as the quotient that it is. -/
theorem nearest_eq {d : Decimal} (hne : d.digits ≠ 0)
    (hlow : -400 ≤ d.exponent + (digitCount d.digits : Nat))
    (hhigh : d.exponent + (digitCount d.digits : Nat) ≤ 400) :
    nearest d =
      nearestMagnitude (d.digits * 10 ^ d.exponent.toNat) (10 ^ (-d.exponent).toNat) := by
  simp only [nearest, Nat.pow_eq]
  rw [if_neg (by omega), if_neg (by omega)]

theorem digitCount_le_iff {n k : Nat} (hk : 0 < k) : digitCount n ≤ k ↔ n < 10 ^ k :=
  Nat.length_toDigits_le_iff (by decide) hk

theorem two_pow_le_ten_pow {s t : Nat} (h : s ≤ 3 * t) : 2 ^ s ≤ 10 ^ t := by
  calc 2 ^ s ≤ 2 ^ (3 * t) := Nat.pow_le_pow_right (by decide) h
    _ = (2 ^ 3) ^ t := pow_mul 2 3 t
    _ ≤ 10 ^ t := Nat.pow_le_pow_left (by decide) t

/-- A significand has at most sixteen digits. -/
theorem digitCount_mul_le {n k : Nat} (hm : m < 2 ^ 53) (hn : n ≤ 10 ^ k) :
    digitCount (m * n) ≤ 16 + k := by
  rw [digitCount_le_iff (by omega), pow_add]
  have hm' : m < 10 ^ 16 := Nat.lt_of_lt_of_le hm (by decide)
  exact Nat.mul_lt_mul_of_lt_of_le hm' hn (by positivity)

/-- The exact value of a small number is far within the range of the exponents. -/
theorem le_digitCount_mul_five_pow {k : Nat} (hm : 0 < m) (hk : k ≤ 1074) :
    k ≤ digitCount (m * 5 ^ k) + 400 := by
  by_contra hlt
  have hcount : digitCount (m * 5 ^ k) ≤ k - 400 := by omega
  rw [digitCount_le_iff (by omega)] at hcount
  have hpow : 10 ^ 400 * 5 ^ k < 2 ^ k * 5 ^ k := by
    calc 10 ^ 400 * 5 ^ k ≤ 10 ^ 400 * (m * 5 ^ k) :=
          Nat.mul_le_mul_left _ (Nat.le_mul_of_pos_left _ hm)
      _ < 10 ^ 400 * 10 ^ (k - 400) := Nat.mul_lt_mul_of_pos_left hcount (by positivity)
      _ = 2 ^ k * 5 ^ k := by
        rw [← pow_add, ← Nat.mul_pow, Nat.add_sub_cancel' (by omega)]
  exact absurd (Nat.lt_of_mul_lt_mul_right hpow) (Nat.not_lt.2 (two_pow_le_ten_pow (by omega)))

/-- **The exact value of a number is read as that number.** -/
theorem nearest_exact (hf : x.isFinite = true) (hz : x.isZero = false) :
    nearest x.exact = x.magnitude := by
  have hs := scaled_of_isFinite hf
  have hpos := significand_pos hz
  have hlow := hs.low
  have hhigh := hs.high
  have hmagnitude {num den : Nat} (hd : 0 < den)
      (heq : num * 2 ^ (-x.scale).toNat = x.significand * (den * 2 ^ x.scale.toNat)) :
      nearestMagnitude num den = x.magnitude := by
    rw [nearestMagnitude_of_eq hd hpos hs.low hs.lt hs.full heq, hs.magnitude]
    exact Nat.min_eq_left (Nat.le_of_lt (magnitude_lt_of_isFinite hf))
  simp only [exact, Nat.pow_eq]
  split
  · next hscale =>
    have hcount : digitCount (x.significand * 2 ^ x.scale.toNat) ≤ 16 + 324 :=
      digitCount_mul_le hs.lt (two_pow_le_ten_pow (by omega))
    rw [nearest_eq (by positivity) (by dsimp only; omega) (by dsimp only; omega)]
    refine hmagnitude (by simp) ?_
    have hneg : (-x.scale).toNat = 0 := by omega
    simp [hneg]
  · next hscale =>
    obtain ⟨k, hk⟩ : ∃ k : Nat, x.scale = -k := ⟨(-x.scale).toNat, by omega⟩
    have hle : digitCount (x.significand * 5 ^ k) ≤ 16 + k :=
      digitCount_mul_le hs.lt (Nat.pow_le_pow_left (by decide) k)
    have hge := le_digitCount_mul_five_pow (k := k) hpos (by omega)
    simp only [hk, neg_neg, Int.toNat_natCast] at hmagnitude ⊢
    rw [nearest_eq (by positivity) (by dsimp only; omega) (by dsimp only; omega)]
    refine hmagnitude (by positivity) ?_
    simp only [neg_neg, Int.toNat_natCast, Int.toNat_neg_natCast, pow_zero, mul_one]
    rw [Nat.mul_assoc, ← Nat.mul_pow]

/-- **The decimal that is written for a number reads back.** -/
theorem nearest_shortest (tie : Tie) (hf : x.isFinite = true) (hz : x.isZero = false) :
    nearest (x.shortest tie) = x.magnitude := by
  rw [shortest]
  cases hfound : (List.range 17).findSome? fun n => shortenTo tie x (n + 1) with
  | none => exact nearest_exact hf hz
  | some d =>
    obtain ⟨n, -, hd⟩ := List.exists_of_findSome?_eq_some hfound
    simpa [readsBack] using readsBack_of_shortenTo hd

/-- The decimal that is written for a number other than zero is not zero. -/
theorem digits_shortest_ne (tie : Tie) (hf : x.isFinite = true) (hz : x.isZero = false) :
    (x.shortest tie).digits ≠ 0 := by
  intro hzero
  have hread := nearest_shortest tie hf hz
  rw [nearest, if_pos (.inl hzero)] at hread
  exact magnitude_ne_zero hz hread.symm

end Double

end AttributeGateway
