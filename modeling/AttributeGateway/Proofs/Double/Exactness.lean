import AttributeGateway.Double.Arithmetic
import AttributeGateway.Proofs.Double.ReadBack

/-!
# Scaling without more than one rounding

An integer of at most 53 bits is a number, and so are the powers of ten up to the twenty-second: the
power of five in them has at most 53 bits. A product or quotient of two such numbers rounds once, so
it is the number nearest to the decimal.

* `nearestMagnitude_congr` — a fraction is read by its value.
* `Equals` — a number is equal to a fraction.
* `equals_ofNat`, `equals_powerOfTen` — the integers and the powers of ten that are numbers.
* `magnitude_timesPowerOfTen` — scaling such an integer gives the number nearest to the decimal.
-/

namespace AttributeGateway

namespace Double

variable {num den num' den' m j n k : Nat} {q : Int} {x y : Double}

/-- **A fraction is read by its value.** -/
theorem nearestMagnitude_congr (hd : 0 < den) (hd' : 0 < den') (h : num * den' = num' * den) :
    nearestMagnitude num den = nearestMagnitude num' den' := by
  calc nearestMagnitude num den = nearestMagnitude (den' * num) (den' * den) :=
        (nearestMagnitude_mul hd' hd).symm
    _ = nearestMagnitude (den * num') (den * den') := by
        rw [Nat.mul_comm den' num, h, Nat.mul_comm num' den, Nat.mul_comm den' den]
    _ = nearestMagnitude num' den' := nearestMagnitude_mul hd hd'

theorem nearestMagnitude_le (num den : Nat) : nearestMagnitude num den ≤ infinityMagnitude := by
  rw [nearestMagnitude]
  split
  · exact Nat.zero_le _
  · exact Nat.min_le_right _ _

@[simp] theorem magnitude_ofMagnitude_nearestMagnitude (num den : Nat) :
    (ofMagnitude false (nearestMagnitude num den)).magnitude = nearestMagnitude num den := by
  have hle := nearestMagnitude_le num den
  simp only [infinityMagnitude, fractions] at hle
  simp only [magnitude, ofMagnitude, Bool.false_eq_true, if_false, UInt64.toNat_ofNat', signBit]
  omega

theorem denominator_pos (x : Double) : 0 < x.denominator := Nat.pow_pos (by decide)

/-! ### Numbers equal to fractions -/

/-- The absolute value of the number is the fraction. -/
def Equals (x : Double) (num den : Nat) : Prop :=
  x.numerator * den = num * x.denominator

theorem magnitude_mul (hx : x.Equals num den) (hy : y.Equals num' den') (hd : 0 < den)
    (hd' : 0 < den') : (x.mul y).magnitude = nearestMagnitude (num * num') (den * den') := by
  rw [mul, magnitude_ofMagnitude_nearestMagnitude]
  refine nearestMagnitude_congr (Nat.mul_pos x.denominator_pos y.denominator_pos)
    (Nat.mul_pos hd hd') ?_
  rw [Nat.mul_mul_mul_comm, hx, hy, Nat.mul_mul_mul_comm]

theorem magnitude_div (hx : x.Equals num den) (hy : y.Equals num' den') (hd : 0 < den)
    (hn' : 0 < num') (hpos : 0 < y.numerator) :
    (x.div y).magnitude = nearestMagnitude (num * den') (den * num') := by
  rw [div, magnitude_ofMagnitude_nearestMagnitude]
  refine nearestMagnitude_congr (Nat.mul_pos x.denominator_pos hpos) (Nat.mul_pos hd hn') ?_
  rw [Nat.mul_mul_mul_comm, hx, Nat.mul_comm y.denominator, ← hy, Nat.mul_comm y.numerator,
    Nat.mul_mul_mul_comm]

/-- Significand and scale are read off a magnitude. -/
theorem significand_scale_ofMagnitude (hq : -1074 ≤ q) (hhigh : q ≤ 971) (hlow : 2 ^ 52 ≤ m)
    (hlt : m < 2 ^ 53) : let x := ofMagnitude false ((q + 1074).toNat * fractions + m)
    x.significand = m ∧ x.scale = q := by
  intro x
  have hmagnitude : x.magnitude = (q + 1074).toNat * 0x10000000000000 + m := by
    simp only [x, magnitude, ofMagnitude, Bool.false_eq_true, if_false, UInt64.toNat_ofNat',
      signBit, fractions]
    omega
  have hcases := x.significand_cases
  refine ⟨by omega, ?_⟩
  simp only [scale, fractions, hmagnitude]
  omega

/-- An integer of at most 53 bits, doubled any number of times, is a number. -/
theorem equals_ofNat (hm : 0 < m) (hlt : m < 2 ^ 53) (hj : j ≤ 900) :
    (ofNat (m * 2 ^ j)).Equals (m * 2 ^ j) 1 := by
  have hlog : m.log2 ≤ 52 := by
    have hlog := (Nat.log2_lt (Nat.ne_of_gt hm)).2 hlt
    omega
  obtain ⟨s, hs⟩ : ∃ s, m.log2 + s = 52 := ⟨52 - m.log2, by omega⟩
  have hlow : 2 ^ 52 ≤ m * 2 ^ s := by
    calc 2 ^ 52 = 2 ^ m.log2 * 2 ^ s := by rw [← pow_add, hs]
      _ ≤ m * 2 ^ s := Nat.mul_le_mul_right _ (Nat.log2_self_le (Nat.ne_of_gt hm))
  have hhigh : m * 2 ^ s < 2 ^ 53 := by
    calc m * 2 ^ s < 2 ^ (m.log2 + 1) * 2 ^ s :=
          Nat.mul_lt_mul_of_pos_right Nat.lt_log2_self (by positivity)
      _ = 2 ^ 53 := by rw [← pow_add]; congr 1; omega
  -- All 53 bits of the significand are used, so its scale is what is left of the doublings.
  have hsplit : 2 ^ j * 2 ^ (-((j : Int) - s)).toNat = 2 ^ s * 2 ^ ((j : Int) - s).toNat := by
    rw [← pow_add, ← pow_add]
    congr 1
    omega
  have hread : nearestMagnitude (m * 2 ^ j) 1 =
      min (((j : Int) - s + 1074).toNat * fractions + m * 2 ^ s) infinityMagnitude := by
    refine nearestMagnitude_of_eq Nat.one_pos (by positivity) (by omega) hhigh (.inl hlow) ?_
    rw [Nat.one_mul, Nat.mul_assoc, Nat.mul_assoc, hsplit]
  have hfinite : ((j : Int) - s + 1074).toNat * fractions + m * 2 ^ s ≤ infinityMagnitude := by
    simp only [infinityMagnitude, fractions]
    omega
  rw [Nat.min_eq_left hfinite] at hread
  obtain ⟨hsignificand, hscale⟩ :=
    significand_scale_ofMagnitude (q := (j : Int) - s) (by omega) (by omega) hlow hhigh
  rw [Equals, numerator, denominator, ofNat, hread, hsignificand, hscale, Nat.mul_one,
    Nat.pow_eq, Nat.pow_eq, Nat.mul_assoc, Nat.mul_assoc, hsplit]

theorem equals_powerOfTen (hk : k ≤ 22) : (powerOfTen k).Equals (10 ^ k) 1 := by
  have hlt : 5 ^ k < 2 ^ 53 :=
    Nat.lt_of_le_of_lt (Nat.pow_le_pow_right (by decide) hk) (by decide)
  have hsplit : 10 ^ k = 5 ^ k * 2 ^ k := by rw [← Nat.mul_pow]
  rw [powerOfTen, Nat.pow_eq, hsplit]
  exact equals_ofNat (by positivity) hlt (by omega)

/-! ### Scaling -/

/-- **Scaling rounds once** if the digits and the power of ten are numbers. -/
theorem magnitude_timesPowerOfTen {e : Int} (hn : 0 < n) (hlt : n < 2 ^ 53) (he : e.natAbs ≤ 22) :
    ((ofNat n).timesPowerOfTen e).magnitude = nearest ⟨n, e⟩ := by
  have hcount : digitCount n ≤ 16 := (digitCount_le_iff (by decide)).2 (by omega)
  rw [nearest_eq (Nat.ne_of_gt hn) (by dsimp only; omega) (by dsimp only; omega)]
  have hdigits : (ofNat n).Equals n 1 := by simpa using equals_ofNat (j := 0) hn hlt (by decide)
  have hpower := equals_powerOfTen he
  rw [timesPowerOfTen, if_pos (by simp only [maxExponent]; omega)]
  split
  · next hnonneg =>
    have hnat : e.toNat = e.natAbs := by omega
    have hneg : (-e).toNat = 0 := by omega
    rw [magnitude_mul hdigits hpower Nat.one_pos Nat.one_pos]
    simp only [hnat, hneg, Nat.mul_one, pow_zero]
  · next hnonneg =>
    have hnat : e.toNat = 0 := by omega
    have hneg : (-e).toNat = e.natAbs := by omega
    have hpos : 0 < (powerOfTen e.natAbs).numerator := by
      have hmul : 0 < (powerOfTen e.natAbs).numerator * 1 := by
        rw [hpower]
        exact Nat.mul_pos (by positivity) (denominator_pos _)
      exact Nat.pos_of_mul_pos_right hmul
    rw [magnitude_div hdigits hpower Nat.one_pos (by positivity) hpos]
    simp only [hnat, hneg, Nat.mul_one, Nat.one_mul, pow_zero]

end Double

end AttributeGateway
