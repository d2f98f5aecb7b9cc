import AttributeGateway.Json.Printer
import AttributeGateway.Json.Token
import AttributeGateway.Proofs.Double.Exactness
import Mathlib.Data.List.TakeWhile

/-!
# Numbers read back

A number of a document is written as one token. An integer is read from its digits. A floating-point
number is written with the digits of a decimal to which it is the nearest number
(`Double.nearest_shortest`), and the point and the exponent are placed so that the token has the
value of that decimal, wherever they stand. Reading computes a number that need not be the nearest
one, so not every number is read from its text; but it is the nearest one if the decimal is short.

* `digitsValue_toDigits`, `digitsValue_append_zeros` — the value of digits.
* `kept_eq` — all digits are kept while their value fits.
* `realNumber?_eq_nearestNumber?` — scaling that rounds once gives the nearest number.
* `unsignedNumber?_decimalText` — a layout of a short decimal is read as that decimal.
* `Number.readsBack_integer`, `Number.readsBack_real` — integers are read from their texts, and so
  are numbers whose decimals are short.
* `Number.all_isNumberChar_text` — the text of a number is one token.
-/

namespace AttributeGateway

namespace Json

variable {c : Char} {l whole fraction rest : List Char} {n : Nat} {negative : Bool}

/-! ### Digits -/

theorem digitsValue_eq_ofDigitChars (l : List Char) : digitsValue l = Nat.ofDigitChars 10 l 0 := by
  have hstep : (fun (n : Nat) (c : Char) => n * 10 + (c.toNat - 48)) =
      fun n c => 10 * n + (c.toNat - '0'.toNat) := by
    funext n c
    rw [Nat.mul_comm]
    rfl
  rw [digitsValue, hstep, Nat.ofDigitChars_eq_foldl]

@[simp] theorem digitsValue_toDigits (n : Nat) : digitsValue (Nat.toDigits 10 n) = n := by
  rw [digitsValue_eq_ofDigitChars, Nat.ofDigitChars_ten_toDigits]

theorem digitsValue_append_zeros (l : List Char) (k : Nat) :
    digitsValue (l ++ List.replicate k '0') = digitsValue l * 10 ^ k := by
  rw [digitsValue_eq_ofDigitChars, Nat.ofDigitChars_append, Nat.ofDigitChars_replicate_zero,
    ← digitsValue_eq_ofDigitChars, Nat.mul_comm]

theorem digitsValue_zeros_append (k : Nat) (l : List Char) :
    digitsValue (List.replicate k '0' ++ l) = digitsValue l := by
  rw [digitsValue_eq_ofDigitChars, Nat.ofDigitChars_append, Nat.ofDigitChars_replicate_zero,
    Nat.mul_zero, ← digitsValue_eq_ofDigitChars]

/-! ### Digits that are kept -/

/-- A digit more makes the value greater. -/
theorem le_foldl_digits (l : List Char) (n : Nat) :
    n ≤ l.foldl (fun n c => n * 10 + (c.toNat - 48)) n := by
  induction l generalizing n with
  | nil => exact Nat.le_refl n
  | cons c l ih =>
    have hle := ih (n * 10 + (c.toNat - 48))
    rw [List.foldl_cons]
    omega

theorem foldl_keepWhole
    (hfits : l.foldl (fun n c => n * 10 + (c.toNat - 48)) n ≤ Text.maxWord64) :
    l.foldl keepWhole ⟨n, 0⟩ = ⟨l.foldl (fun n c => n * 10 + (c.toNat - 48)) n, 0⟩ := by
  induction l generalizing n with
  | nil => rfl
  | cons c l ih =>
    have hdigit : n * 10 + (c.toNat - 48) ≤ Text.maxWord64 :=
      Nat.le_trans (le_foldl_digits l _) hfits
    have hkeep : keepWhole ⟨n, 0⟩ c = ⟨n * 10 + (c.toNat - 48), 0⟩ := if_pos ⟨rfl, hdigit⟩
    rw [List.foldl_cons, List.foldl_cons, hkeep]
    exact ih hfits

theorem keepFraction_eq {e : Int}
    (hfits : l.foldl (fun n c => n * 10 + (c.toNat - 48)) n ≤ Text.maxWord64) :
    keepFraction ⟨n, e⟩ l = ⟨l.foldl (fun n c => n * 10 + (c.toNat - 48)) n, e - l.length⟩ := by
  induction l generalizing n e with
  | nil => simp [keepFraction]
  | cons c l ih =>
    have hdigit : n * 10 + (c.toNat - 48) ≤ Text.maxWord64 :=
      Nat.le_trans (le_foldl_digits l _) hfits
    rw [keepFraction, if_pos hdigit, ih hfits, List.foldl_cons, List.length_cons, Nat.cast_succ,
      sub_sub, add_comm]

/-- **All digits are kept** while their value fits into 64 bits. -/
theorem kept_eq (hfits : digitsValue (whole ++ fraction) ≤ Text.maxWord64) :
    kept whole fraction = ⟨digitsValue (whole ++ fraction), -fraction.length⟩ := by
  rw [digitsValue, List.foldl_append] at hfits ⊢
  rw [kept, foldl_keepWhole (Nat.le_trans (le_foldl_digits fraction _) hfits),
    keepFraction_eq hfits, zero_sub]

/-! ### Texts of digits -/

/-- Nothing but digits. -/
def Digits (l : List Char) : Prop := ∀ c ∈ l, c.isDigit = true

theorem digits_toDigits (n : Nat) : Digits (Nat.toDigits 10 n) :=
  fun _ hc => Nat.isDigit_of_mem_toDigits (by decide) (by decide) hc

theorem digits_zeros (k : Nat) : Digits (List.replicate k '0') := by
  intro c hc
  rw [List.eq_of_mem_replicate hc]
  rfl

theorem Digits.append (hl : Digits l) (hrest : Digits rest) : Digits (l ++ rest) := by
  intro c hc
  rcases List.mem_append.1 hc with hc | hc
  · exact hl c hc
  · exact hrest c hc

theorem Digits.takeWhile (h : Digits l) : l.takeWhile Char.isDigit = l := by
  rw [List.takeWhile_eq_self_iff]
  exact h

theorem Digits.dropWhile (h : Digits l) : l.dropWhile Char.isDigit = [] := by
  rw [List.dropWhile_eq_nil_iff]
  exact h

/-- Digits end at a character that is none. -/
theorem Digits.takeWhile_append (h : Digits l) (hc : c.isDigit = false) :
    (l ++ c :: rest).takeWhile Char.isDigit = l := by
  rw [List.takeWhile_append_of_pos h, List.takeWhile_cons, hc]
  simp

theorem Digits.dropWhile_append (h : Digits l) (hc : c.isDigit = false) :
    (l ++ c :: rest).dropWhile Char.isDigit = c :: rest := by
  rw [List.dropWhile_append_of_pos h, List.dropWhile_cons, hc]
  simp

theorem digitChar_ne_zero (hn : n ≠ 0) (hlt : n < 10) : Nat.digitChar n ≠ '0' := by
  intro h
  have hval := Nat.toNat_digitChar_of_lt_ten hlt
  rw [h] at hval
  simp at hval
  omega

/-- The digits of a number other than zero: the first one is not zero. -/
structure Significant (l : List Char) : Prop where
  digits : Digits l
  exists_eq_cons : ∃ c rest, l = c :: rest ∧ c ≠ '0'

theorem significant_toDigits (hn : n ≠ 0) : Significant (Nat.toDigits 10 n) := by
  refine ⟨digits_toDigits n, ?_⟩
  induction n using Nat.strongRecOn with
  | ind n ih =>
    rw [Nat.toDigits_eq_if (by decide)]
    split
    · next hlt => exact ⟨_, [], rfl, digitChar_ne_zero hn hlt⟩
    · next hge =>
      obtain ⟨c, l, heq, hc⟩ := ih (n / 10) (by omega) (by omega)
      exact ⟨c, l ++ [Nat.digitChar (n % 10)], by rw [heq]; rfl, hc⟩

theorem Significant.ne_nil (h : Significant l) : l ≠ [] := by
  obtain ⟨c, rest, rfl, -⟩ := h.exists_eq_cons
  exact List.cons_ne_nil _ _

theorem isWholePart_cons (hc : c ≠ '0') : isWholePart (c :: l) = true := by
  rw [isWholePart]
  · simpa using hc
  · rintro rfl
    exact absurd rfl hc

/-- Whatever follows them, they begin a whole part. -/
theorem Significant.isWholePart_append (h : Significant l) (rest : List Char) :
    isWholePart (l ++ rest) = true := by
  obtain ⟨c, l, rfl, hc⟩ := h.exists_eq_cons
  exact isWholePart_cons hc

theorem isWholePart_toDigits (n : Nat) : isWholePart (Nat.toDigits 10 n) = true := by
  by_cases hn : n = 0
  · subst hn
    rfl
  · simpa using (significant_toDigits hn).isWholePart_append []

/-! ### Tokens of a number -/

theorem unsignedNumber?_whole (negative : Bool) (hw : Digits whole)
    (hwhole : isWholePart whole = true) :
    unsignedNumber? negative whole = wholeNumber? negative whole := by
  simp [unsignedNumber?, hw.takeWhile, hw.dropWhile, hwhole]

theorem unsignedNumber?_fraction (negative : Bool) (hw : Digits whole)
    (hwhole : isWholePart whole = true) (hf : Digits fraction) (hne : fraction ≠ []) :
    unsignedNumber? negative (whole ++ '.' :: fraction) =
      realNumber? negative (kept whole fraction) := by
  simp [unsignedNumber?, hw.takeWhile_append, hw.dropWhile_append, hf.takeWhile, hf.dropWhile,
    hwhole, hne, fractionNumber?]

theorem unsignedNumber?_exponent (negative : Bool) (hw : Digits whole)
    (hwhole : isWholePart whole = true) (rest : List Char) :
    unsignedNumber? negative (whole ++ 'e' :: rest) = (exponentValue? rest).bind fun e =>
      realNumber? negative ⟨(kept whole []).digits, (kept whole []).exponent + e⟩ := by
  simp [unsignedNumber?, hw.takeWhile_append, hw.dropWhile_append, hwhole, fractionNumber?]

theorem unsignedNumber?_fraction_exponent (negative : Bool) (hw : Digits whole)
    (hwhole : isWholePart whole = true) (hf : Digits fraction) (hne : fraction ≠ [])
    (rest : List Char) :
    unsignedNumber? negative (whole ++ '.' :: (fraction ++ 'e' :: rest)) =
      (exponentValue? rest).bind fun e => realNumber? negative
        ⟨(kept whole fraction).digits, (kept whole fraction).exponent + e⟩ := by
  simp [unsignedNumber?, hw.takeWhile_append, hw.dropWhile_append, hf.takeWhile_append,
    hf.dropWhile_append, hwhole, hne, fractionNumber?]

/-- An exponent is read from its sign and its digits. -/
theorem exponentValue?_toDigits (e : Int) :
    exponentValue? ((if e < 0 then '-' else '+') :: Nat.toDigits 10 e.natAbs) = some e := by
  have hall : (Nat.toDigits 10 e.natAbs).all Char.isDigit = true :=
    List.all_eq_true.2 (digits_toDigits _)
  split
  · next he => simp [exponentValue?, hall, Nat.toDigits_ne_nil, abs_of_neg he]
  · next he => simp [exponentValue?, hall, Nat.toDigits_ne_nil, abs_of_nonneg (Int.not_lt.1 he)]

/-! ### Decimals -/

/-- The floating-point number nearest to a decimal, if it is finite. -/
def nearestNumber? (negative : Bool) (d : Decimal) : Option Number :=
  let x := Double.ofMagnitude negative (Double.nearest d)
  if h : x.isFinite = true then some (.real x h) else none

theorem nearestNumber?_congr {d d' : Decimal} (h : Double.nearest d = Double.nearest d') :
    nearestNumber? negative d = nearestNumber? negative d' := by
  simp only [nearestNumber?, h]

theorem nearestNumber?_of_nearest {x : Double} {d : Decimal} (h : Double.nearest d = x.magnitude)
    (hf : x.isFinite = true) : nearestNumber? x.negative d = some (.real x hf) := by
  have hx : Double.ofMagnitude x.negative (Double.nearest d) = x := by
    rw [h, Double.ofMagnitude_magnitude]
  simp only [nearestNumber?, hx, hf, dite_true]

/-- The digits and the power of ten of a decimal are numbers, so that scaling rounds once. -/
structure Scales (d : Decimal) : Prop where
  pos : 0 < d.digits
  lt : d.digits < 2 ^ 53
  natAbs_le : d.exponent.natAbs ≤ 22

theorem Scales.fits {d : Decimal} (h : Scales d) : d.digits ≤ Text.maxWord64 :=
  Nat.le_trans (Nat.le_of_lt h.lt) (by decide)

/-- **Such a decimal is read as the number nearest to it.** -/
theorem realNumber?_eq_nearestNumber? {d : Decimal} (h : Scales d) :
    realNumber? negative d = nearestNumber? negative d := by
  simp only [realNumber?, nearestNumber?,
    Double.magnitude_timesPowerOfTen h.pos h.lt h.natAbs_le]

/-- With more digits than that they are rounded before they are scaled: to a neighbour of the
nearest number, or beyond the greatest one. -/
example : (number? "9007199254740993.0".toList).map Number.text =
      some "9007199254740994.0".toList ∧ number? "1.7976931348623158e308".toList = none := by
  decide +kernel

/-- A point before the first digit is reached by zeros. -/
theorem unsignedNumber?_point_before (h : Significant l) (k : Nat)
    (hscales : Scales ⟨digitsValue l, -(k + l.length)⟩) :
    unsignedNumber? negative ('0' :: '.' :: (List.replicate k '0' ++ l)) =
      nearestNumber? negative ⟨digitsValue l, -(k + l.length)⟩ := by
  have hvalue : digitsValue (List.replicate 1 '0' ++ (List.replicate k '0' ++ l)) =
      digitsValue l := by
    rw [digitsValue_zeros_append, digitsValue_zeros_append]
  have hkept : kept (List.replicate 1 '0') (List.replicate k '0' ++ l) =
      ⟨digitsValue l, -(k + l.length)⟩ := by
    rw [kept_eq (by rw [hvalue]; exact hscales.fits), hvalue, List.length_append,
      List.length_replicate, Nat.cast_add]
  have hread := unsignedNumber?_fraction negative (digits_zeros 1) rfl
    ((digits_zeros k).append h.digits) (by simp [h.ne_nil])
  rw [hkept, realNumber?_eq_nearestNumber? hscales] at hread
  exact hread

theorem unsignedNumber?_point_within (h : Significant l) {k : Nat} (hk : 0 < k)
    (hlt : k < l.length) (hscales : Scales ⟨digitsValue l, k - l.length⟩) :
    unsignedNumber? negative (l.take k ++ '.' :: l.drop k) =
      nearestNumber? negative ⟨digitsValue l, k - l.length⟩ := by
  have hwhole : isWholePart (l.take k) = true := by
    obtain ⟨c, rest, rfl, hc⟩ := h.exists_eq_cons
    obtain ⟨k, rfl⟩ := Nat.exists_eq_succ_of_ne_zero (Nat.ne_of_gt hk)
    exact isWholePart_cons hc
  have hkept : kept (l.take k) (l.drop k) = ⟨digitsValue l, k - l.length⟩ := by
    rw [kept_eq (by rw [List.take_append_drop]; exact hscales.fits), List.take_append_drop,
      List.length_drop, Nat.cast_sub (Nat.le_of_lt hlt), neg_sub]
  rw [unsignedNumber?_fraction _ (fun c hc => h.digits c (List.mem_of_mem_take hc)) hwhole
    (fun c hc => h.digits c (List.mem_of_mem_drop hc)) (by simpa using hlt), hkept,
    realNumber?_eq_nearestNumber? hscales]

/-- A point behind the last digit is reached by zeros; they and the zero behind the point change
nothing, but they are digits that have to be kept. -/
theorem unsignedNumber?_point_behind (h : Significant l) (k : Nat)
    (hscales : Scales ⟨digitsValue l * 10 ^ (k + 1), -1⟩) :
    unsignedNumber? negative (l ++ List.replicate k '0' ++ ['.', '0']) =
      nearestNumber? negative ⟨digitsValue l, k⟩ := by
  have hvalue : digitsValue (l ++ List.replicate k '0' ++ List.replicate 1 '0') =
      digitsValue l * 10 ^ (k + 1) := by
    rw [List.append_assoc, List.replicate_append_replicate, digitsValue_append_zeros]
  have hkept : kept (l ++ List.replicate k '0') (List.replicate 1 '0') =
      ⟨digitsValue l * 10 ^ (k + 1), -1⟩ := by
    rw [kept_eq (by rw [hvalue]; exact hscales.fits), hvalue]
    rfl
  have hread := unsignedNumber?_fraction negative
    (h.digits.append (digits_zeros k)) (h.isWholePart_append _) (digits_zeros 1) (by simp)
  have hshift := Double.nearest_shift (digitsValue l) k (k + 1)
  rw [Nat.cast_succ, sub_add_cancel_left] at hshift
  rw [hkept, realNumber?_eq_nearestNumber? hscales, nearestNumber?_congr hshift] at hread
  exact hread

theorem unsignedNumber?_exponentText (h : Significant l) (e : Int)
    (hscales : Scales ⟨digitsValue l, e + 1 - l.length⟩) :
    unsignedNumber? negative (NumberLayout.exponentText l e) =
      nearestNumber? negative ⟨digitsValue l, e + 1 - l.length⟩ := by
  rw [← realNumber?_eq_nearestNumber? hscales]
  have hfits := hscales.fits
  obtain ⟨c, rest, rfl, hc⟩ := h.exists_eq_cons
  have hfirst : Digits [c] := fun a ha => h.digits a (List.mem_append_left rest ha)
  have hwhole : isWholePart [c] = true := isWholePart_cons hc
  have hkept : kept [c] rest = ⟨digitsValue (c :: rest), -rest.length⟩ := kept_eq hfits
  have hexponent : -(rest.length : Int) + e = e + 1 - (c :: rest).length := by
    rw [List.length_cons, Nat.cast_succ]
    ring
  have hdigits := exponentValue?_toDigits e
  cases rest with
  | nil =>
    have hread := unsignedNumber?_exponent negative hfirst hwhole
      ((if e < 0 then '-' else '+') :: Nat.toDigits 10 e.natAbs)
    rw [hdigits, Option.bind_some, hkept, hexponent] at hread
    simpa [NumberLayout.exponentText] using hread
  | cons c' rest =>
    have hread := unsignedNumber?_fraction_exponent negative hfirst hwhole
      (fun a ha => h.digits a (List.mem_cons_of_mem _ ha)) (List.cons_ne_nil c' rest)
      ((if e < 0 then '-' else '+') :: Nat.toDigits 10 e.natAbs)
    rw [hdigits, Option.bind_some, hkept, hexponent] at hread
    simpa [NumberLayout.exponentText] using hread

/-- A decimal of at most 22 places that, written out with a zero behind the point, has at most 53
bits. -/
def Short (d : Decimal) : Prop :=
  d.digits * Nat.pow 10 (d.exponent.toNat + 1) < 2 ^ 53 ∧ -22 ≤ d.exponent

instance (d : Decimal) : Decidable (Short d) := inferInstanceAs (Decidable (_ ∧ _))

theorem Short.lt {d : Decimal} (h : Short d) : d.digits * 10 ^ (d.exponent.toNat + 1) < 2 ^ 53 :=
  h.1

theorem Short.exponent_le {d : Decimal} (h : Short d) (hd : d.digits ≠ 0) : d.exponent ≤ 22 := by
  by_contra hgt
  have hpow : 10 ^ 22 ≤ d.digits * 10 ^ (d.exponent.toNat + 1) := by
    calc 10 ^ 22 ≤ 10 ^ (d.exponent.toNat + 1) := Nat.pow_le_pow_right (by decide) (by omega)
      _ ≤ d.digits * 10 ^ (d.exponent.toNat + 1) :=
          Nat.le_mul_of_pos_left _ (Nat.pos_of_ne_zero hd)
  exact absurd (Nat.lt_of_le_of_lt hpow h.lt) (by decide)

theorem Short.scales {d : Decimal} (h : Short d) (hd : d.digits ≠ 0) : Scales d where
  pos := Nat.pos_of_ne_zero hd
  lt := Nat.lt_of_le_of_lt (Nat.le_mul_of_pos_right _ (by positivity)) h.lt
  natAbs_le := by
    have hlow := h.2
    have hhigh := h.exponent_le hd
    omega

/-- **A short decimal is read from its layout**, wherever that puts the point. -/
theorem unsignedNumber?_decimalText {d : Decimal} (hd : d.digits ≠ 0) (hshort : Short d) :
    unsignedNumber? negative (NumberLayout.json.decimalText d) = nearestNumber? negative d := by
  have hscales := hshort.scales hd
  have hlt := hshort.lt
  obtain ⟨digits, exponent⟩ := d
  have h := significant_toDigits hd
  have hvalue := digitsValue_toDigits digits
  rw [NumberLayout.decimalText]
  dsimp only at hlt ⊢
  generalize Nat.toDigits 10 digits = l at h hvalue
  subst hvalue
  split
  · rw [NumberLayout.positionalText]
    split
    · have hexponent : -(((-(exponent + l.length)).toNat : Int) + l.length) = exponent := by omega
      rw [unsignedNumber?_point_before h _ (by rwa [hexponent]), hexponent]
    · split
      · have hexponent : ((exponent + l.length).toNat : Int) - l.length = exponent := by omega
        rw [unsignedNumber?_point_within h (by omega) (by omega) (by rwa [hexponent]), hexponent]
      · have hzeros : (exponent + l.length).toNat - l.length = exponent.toNat := by omega
        have hexponent : (exponent.toNat : Int) = exponent := by omega
        rw [NumberLayout.json, hzeros, unsignedNumber?_point_behind h _
          ⟨Nat.mul_pos hscales.pos (by positivity), hlt, by simp⟩, hexponent]
  · have hexponent : exponent + l.length - 1 + 1 - l.length = exponent := by ring
    rw [unsignedNumber?_exponentText h _ (by rwa [hexponent]), hexponent]

/-! ### Numbers -/

/-- No sign begins a token that has been read without one. -/
theorem number?_of_unsignedNumber? {number : Number}
    (h : unsignedNumber? false l = some number) : number? l = some number := by
  rw [number?]
  · exact h
  · rintro text rfl
    simp [unsignedNumber?, isWholePart, Char.isDigit] at h

/-- Digits that fit are read as an integer, unless they are a zero with a sign. -/
theorem wholeNumber?_eq {i : Int}
    (heq : (if negative then -digitsValue whole else digitsValue whole : Int) = i)
    (hne : ¬(negative = true ∧ digitsValue whole = 0))
    (hi : -0x8000000000000000 ≤ i ∧ i ≤ 0xFFFFFFFFFFFFFFFF) :
    wholeNumber? negative whole = some (.integer i hi) := by
  subst heq
  exact dif_pos ⟨hi, hne⟩

theorem number?_decimal {i : Int} (hi : -0x8000000000000000 ≤ i ∧ i ≤ 0xFFFFFFFFFFFFFFFF) :
    number? (Text.decimal i).toList = some (.integer i hi) := by
  have hread (negative : Bool) (n : Nat) : unsignedNumber? negative (Nat.toDigits 10 n) =
      wholeNumber? negative (Nat.toDigits 10 n) :=
    unsignedNumber?_whole _ (digits_toDigits n) (isWholePart_toDigits n)
  cases i with
  | ofNat n =>
    rw [Text.decimal, String.toList_ofList]
    refine number?_of_unsignedNumber? ?_
    rw [hread]
    exact wholeNumber?_eq (by simp) (by simp) hi
  | negSucc n =>
    rw [Text.decimal, String.toList_ofList, number?, hread]
    exact wholeNumber?_eq (by simp [Int.negSucc_eq]) (by simp) hi

/-- A number is read from its text. -/
def Number.ReadsBack (n : Number) : Prop := number? n.text = some n

theorem Number.readsBack_integer {i : Int}
    (hi : -0x8000000000000000 ≤ i ∧ i ≤ 0xFFFFFFFFFFFFFFFF) : (integer i hi).ReadsBack :=
  number?_decimal hi

/-- The text of a floating-point number, if it is finite, is read as that number. -/
def FloatReadsBack (x : Double) : Prop := ∀ hf : x.isFinite = true, (Number.real x hf).ReadsBack

/-- **A floating-point number is read from its text** if it is zero or its decimal is short. -/
theorem Number.readsBack_real {x : Double} (hf : x.isFinite = true)
    (hshort : x.isZero = false → Short (x.shortest NumberLayout.json.tie)) :
    (real x hf).ReadsBack := by
  have hunsigned : unsignedNumber? x.negative (if x.isZero then '0' :: NumberLayout.json.wholeEnd
      else NumberLayout.json.decimalText (x.shortest NumberLayout.json.tie)) =
        some (.real x hf) := by
    cases hz : x.isZero with
    | true =>
      have hzero : Double.ofMagnitude x.negative 0 = x := by
        rw [← Double.magnitude_eq_zero hz, Double.ofMagnitude_magnitude]
      have hscaled : ((Double.ofNat 0).timesPowerOfTen (-1)).magnitude = 0 := by decide +kernel
      have hread : realNumber? x.negative ⟨0, -1⟩ = some (.real x hf) := by
        simp only [realNumber?, hscaled, hzero, hf, dite_true]
      exact (unsignedNumber?_fraction _ (digits_zeros 1) rfl (digits_zeros 1) (by simp)).trans hread
    | false =>
      rw [if_neg Bool.false_ne_true,
        unsignedNumber?_decimalText (x.digits_shortest_ne _ hf hz) (hshort hz)]
      exact nearestNumber?_of_nearest (Double.nearest_shortest _ hf hz) hf
  rw [ReadsBack, text, NumberLayout.finiteText]
  cases hneg : x.negative with
  | true => rwa [hneg] at hunsigned
  | false =>
    rw [hneg] at hunsigned
    exact number?_of_unsignedNumber? hunsigned

/-! ### The characters of numbers -/

theorem isNumberChar_of_isDigit (h : c.isDigit = true) : isNumberChar c = true := by
  simp [isNumberChar, h]

theorem Digits.all_isNumberChar (h : Digits l) : l.all isNumberChar = true :=
  List.all_eq_true.2 fun c hc => isNumberChar_of_isDigit (h c hc)

theorem all_isNumberChar_zeros (k : Nat) : (List.replicate k '0').all isNumberChar = true :=
  (digits_zeros k).all_isNumberChar

theorem all_isNumberChar_positionalText (h : Digits l) (point : Int) :
    (NumberLayout.json.positionalText l point).all isNumberChar = true := by
  rw [NumberLayout.positionalText]
  split
  · rw [List.all_cons, List.all_cons, List.all_append, all_isNumberChar_zeros, h.all_isNumberChar]
    rfl
  · split
    · have htake : Digits (l.take point.toNat) := fun c hc => h c (List.mem_of_mem_take hc)
      have hdrop : Digits (l.drop point.toNat) := fun c hc => h c (List.mem_of_mem_drop hc)
      rw [List.all_append, List.all_cons, htake.all_isNumberChar, hdrop.all_isNumberChar]
      rfl
    · rw [List.all_append, List.all_append, all_isNumberChar_zeros, h.all_isNumberChar]
      rfl

theorem all_isNumberChar_exponentText (h : Digits l) (e : Int) :
    (NumberLayout.exponentText l e).all isNumberChar = true := by
  have hmantissa := h.all_isNumberChar
  have hsign : isNumberChar (if e < 0 then '-' else '+') = true := by
    split <;> rfl
  have hexponent : ('e' :: (if e < 0 then '-' else '+') :: Nat.toDigits 10 e.natAbs).all
      isNumberChar = true := by
    rw [List.all_cons, List.all_cons, hsign, (digits_toDigits _).all_isNumberChar]
    rfl
  unfold NumberLayout.exponentText
  dsimp only
  rw [List.all_append, hexponent, Bool.and_true]
  split
  · rfl
  · exact hmantissa
  · rw [List.all_cons] at hmantissa ⊢
    rw [List.all_cons]
    exact hmantissa

theorem all_isNumberChar_finiteText (x : Double) :
    (NumberLayout.json.finiteText x).all isNumberChar = true := by
  have hunsigned : (if x.isZero then '0' :: NumberLayout.json.wholeEnd
      else NumberLayout.json.decimalText (x.shortest NumberLayout.json.tie)).all
        isNumberChar = true := by
    split
    · rfl
    · rw [NumberLayout.decimalText]
      split
      · exact all_isNumberChar_positionalText (digits_toDigits _) _
      · exact all_isNumberChar_exponentText (digits_toDigits _) _
  rw [NumberLayout.finiteText]
  split
  · rw [List.all_cons, hunsigned]
    rfl
  · exact hunsigned

theorem all_isNumberChar_decimal (i : Int) :
    (Text.decimal i).toList.all isNumberChar = true := by
  cases i with
  | ofNat n =>
    rw [Text.decimal, String.toList_ofList]
    exact (digits_toDigits n).all_isNumberChar
  | negSucc n =>
    rw [Text.decimal, String.toList_ofList, List.all_cons, (digits_toDigits _).all_isNumberChar]
    rfl

/-- **The text of a number consists of the characters of numbers.** -/
theorem Number.all_isNumberChar_text (n : Number) : n.text.all isNumberChar = true := by
  cases n with
  | integer i _ => exact all_isNumberChar_decimal i
  | real x _ => exact all_isNumberChar_finiteText x

end Json

end AttributeGateway
