import AttributeGateway.Proofs.Json.Numbers
import AttributeGateway.Proofs.Text.Numerals

/-!
# The texts that are signed integers

An integer of 64 bits is read from a text by the same pass as a natural number, behind a sign. What
it accepts is said without the pass: digits, at least one, perhaps behind a sign, whose value stays
in the range. Many texts stand for one integer, because zeros in front and a plus sign change
nothing; one of them has neither, and that is the one that is written for it.

* `DenotesInt`, `InRange64` — texts that stand for an integer, and the integers of 64 bits.
* `readInt64_eq_ok_iff`, `exists_readInt64_iff` — the texts of integers of 64 bits are read, and no
  others.
* `Canonical`, `canonical_iff` — the text without superfluous characters is the one that is written.
-/

namespace AttributeGateway

namespace Text

variable {digits text : List Char} {n bound : Nat} {overflow : NumeralError} {value : String}
  {i : Int} {word : Int64}

/-- A text that stands for an integer: digits, perhaps behind a sign. -/
inductive DenotesInt (text : String) : Int → Prop where
  /-- Without a sign or behind a plus sign. -/
  | natural {n : Nat} (h : Denotes text n) : DenotesInt text n
  /-- Behind a minus sign. -/
  | negative {digits : List Char} {n : Nat} (htext : text.toList = '-' :: digits)
      (h : Numeral digits n) : DenotesInt text (-n)

/-- The integers of 64 bits. -/
def InRange64 (i : Int) : Prop := -0x8000000000000000 ≤ i ∧ i ≤ 0x7FFFFFFFFFFFFFFF

/-- The text of an integer that has no superfluous characters: no plus sign, no zeros in front of
other digits, and no minus sign in front of a zero. -/
inductive Canonical : Int → List Char → Prop where
  /-- A zero alone. -/
  | zero : Canonical 0 ['0']
  /-- Digits, the first of which is no zero. -/
  | positive {digits : List Char} {n : Nat} (h : Numeral digits n)
      (hlead : digits.head? ≠ some '0') : Canonical n digits
  /-- Such digits behind a minus sign. -/
  | negative {digits : List Char} {n : Nat} (h : Numeral digits n)
      (hlead : digits.head? ≠ some '0') : Canonical (-n) ('-' :: digits)

/-! ### Reading -/

theorem inRange64_toInt (word : Int64) : InRange64 word.toInt :=
  ⟨word.le_toInt, Int.le_of_lt_add_one word.toInt_lt⟩

theorem toInt_ofInt (h : InRange64 i) : (Int64.ofInt i).toInt = i :=
  Int64.toInt_ofInt_of_le h.1 (Int.lt_add_one_of_le h.2)

theorem ofInt_eq_iff (h : InRange64 i) : Int64.ofInt i = word ↔ i = word.toInt := by
  constructor
  · rintro rfl
    exact (toInt_ofInt h).symm
  · rintro rfl
    exact Int64.ofInt_toInt word

/-- Digits are read as an integer with their value, or its negative, if the bound on the value keeps
this integer in the range. -/
theorem map_readMagnitude_eq_ok_iff {f : Int → Int}
    (hf : ∀ n : Nat, n ≤ bound ↔ InRange64 (f n)) :
    Except.map (fun k : Int => Int64.ofInt (f k)) (do
        let n ← readMagnitude bound overflow digits
        pure ↑n) = .ok word ↔
      ∃ n : Nat, Numeral digits n ∧ f n = word.toInt := by
  have hword (n : Nat) : Numeral digits n ∧ f n = word.toInt ↔
      readMagnitude bound overflow digits = .ok n ∧ Int64.ofInt (f n) = word := by
    rw [readMagnitude_eq_ok_iff, and_assoc]
    refine and_congr_right fun _ => ?_
    constructor
    · intro h
      have hrange : InRange64 (f n) := h ▸ inRange64_toInt word
      exact ⟨(hf n).2 hrange, (ofInt_eq_iff hrange).2 h⟩
    · rintro ⟨hn, h⟩
      exact (ofInt_eq_iff ((hf n).1 hn)).1 h
  simp only [hword]
  cases readMagnitude bound overflow digits <;>
    simp [Except.map, bind, Except.bind, pure, Except.pure]

/-- **A text is read as an integer of 64 bits** exactly if it stands for it. -/
theorem readInt64_eq_ok_iff : readInt64 value = .ok word ↔ DenotesInt value word.toInt := by
  have hnatural (n : Nat) : n ≤ 0x7FFFFFFFFFFFFFFF ↔ InRange64 n := by
    rw [InRange64]
    omega
  have hnegative (n : Nat) : n ≤ 0x8000000000000000 ↔ InRange64 (-n) := by
    rw [InRange64]
    omega
  unfold readInt64
  generalize hi : word.toInt = i
  split
  · next ht =>
    refine iff_of_false nofun fun h => ?_
    cases h with
    | natural h =>
      rw [denotes_plain_iff (by simp [ht]), ht] at h
      exact h.ne_nil rfl
    | negative htext _ => exact absurd (ht.symm.trans htext) (List.cons_ne_nil _ _).symm
  · next rest ht =>
    rw [map_readMagnitude_eq_ok_iff hnatural, hi]
    constructor
    · rintro ⟨n, hn, rfl⟩
      exact .natural ((denotes_plus_iff ht).2 hn)
    · intro h
      cases h with
      | natural h => exact ⟨_, (denotes_plus_iff ht).1 h, rfl⟩
      | negative htext _ => exact absurd (List.cons.inj (ht.symm.trans htext)).1 (by decide)
  · next rest ht =>
    rw [map_readMagnitude_eq_ok_iff hnegative, hi]
    constructor
    · rintro ⟨n, hn, rfl⟩
      exact .negative ht hn
    · intro h
      cases h with
      | natural h =>
        rw [denotes_plain_iff (by simp [ht]), ht] at h
        exact absurd (h.isDigit '-' List.mem_cons_self) (by decide)
      | negative htext h =>
        obtain rfl := (List.cons.inj (ht.symm.trans htext)).2
        exact ⟨_, h, rfl⟩
  · next hplus hminus =>
    have hhead : value.toList.head? ≠ some '+' := fun h => by
      obtain ⟨rest, hrest⟩ := List.head?_eq_some_iff.1 h
      exact hplus rest hrest
    rw [map_readMagnitude_eq_ok_iff hnatural, hi]
    constructor
    · rintro ⟨n, hn, rfl⟩
      exact .natural ((denotes_plain_iff hhead).2 hn)
    · intro h
      cases h with
      | natural h => exact ⟨_, (denotes_plain_iff hhead).1 h, rfl⟩
      | negative htext _ => exact absurd htext (hminus _)

/-- A text is read as some integer exactly if it stands for one of 64 bits. -/
theorem exists_readInt64_iff :
    (∃ word, readInt64 value = .ok word) ↔ ∃ i, DenotesInt value i ∧ InRange64 i := by
  constructor
  · rintro ⟨word, h⟩
    exact ⟨_, readInt64_eq_ok_iff.1 h, inRange64_toInt word⟩
  · rintro ⟨i, h, hrange⟩
    exact ⟨Int64.ofInt i, readInt64_eq_ok_iff.2 (by rwa [toInt_ofInt hrange])⟩

/-! ### Writing -/

/-- A digit is the digit of its value. -/
theorem toDigits_value {c : Char} (hc : c.isDigit = true) :
    c.toNat - '0'.toNat < 10 ∧ Nat.toDigits 10 (c.toNat - '0'.toNat) = [c] := by
  have hzero : '0'.toNat = 48 := rfl
  have hrange : 48 ≤ c.toNat ∧ c.toNat ≤ 57 := Char.isDigit_iff_toNat.1 hc
  have hlt : c.toNat - '0'.toNat < 10 := by omega
  refine ⟨hlt, ?_⟩
  rw [Nat.toDigits_of_lt_base hlt, List.singleton_inj, ← Char.toNat_inj,
    Nat.toNat_digitChar_of_lt_ten hlt]
  omega

/-- Further digits behind those of a number other than zero make the digits of another number. -/
theorem toDigits_append (hn : 0 < n) (hdigits : ∀ c ∈ digits, c.isDigit = true) :
    Nat.toDigits 10 n ++ digits = Nat.toDigits 10 (Nat.ofDigitChars 10 digits n) := by
  induction digits generalizing n with
  | nil => simp
  | cons c rest ih =>
    obtain ⟨hc, hrest⟩ := List.forall_mem_cons.1 hdigits
    obtain ⟨hlt, hchar⟩ := toDigits_value hc
    have hstep := Nat.toDigits_append_toDigits (by decide : 1 < 10) hn hlt
    rw [hchar] at hstep
    rw [Nat.ofDigitChars_cons, ← ih (by omega) hrest, ← hstep, List.append_assoc]
    rfl

/-- **Only one numeral for a number begins with no zero**, and the number is not zero then. -/
theorem Numeral.eq_toDigits (h : Numeral digits n) (hlead : digits.head? ≠ some '0') :
    0 < n ∧ digits = Nat.toDigits 10 n := by
  cases digits with
  | nil => exact absurd rfl h.ne_nil
  | cons c rest =>
    obtain ⟨hc, hrest⟩ := List.forall_mem_cons.1 h.isDigit
    obtain ⟨-, hchar⟩ := toDigits_value hc
    have hpos : 0 < c.toNat - '0'.toNat := by
      refine Nat.pos_of_ne_zero fun hz => hlead ?_
      rw [hz] at hchar
      exact congrArg List.head? hchar.symm
    have hvalue : Nat.ofDigitChars 10 rest (c.toNat - '0'.toNat) = n := by
      have := h.value
      rwa [Nat.ofDigitChars_cons, Nat.mul_zero, Nat.zero_add] at this
    refine ⟨hvalue ▸ Nat.lt_of_lt_of_le hpos (le_ofDigitChars ..), ?_⟩
    rw [← hvalue, ← toDigits_append hpos hrest, hchar]
    rfl

theorem head?_toDigits (hn : n ≠ 0) : (Nat.toDigits 10 n).head? ≠ some '0' := by
  obtain ⟨c, rest, heq, hc⟩ := (Json.significant_toDigits hn).exists_eq_cons
  rw [heq]
  exact fun h => hc (Option.some.inj h)

/-- **The text that is written for an integer** is the one without superfluous characters. -/
theorem canonical_iff : Canonical i text ↔ text = (decimal i).toList := by
  constructor
  · intro h
    cases h with
    | zero => rfl
    | positive h hlead => exact (h.eq_toDigits hlead).2.trans String.toList_ofList.symm
    | @negative digits n h hlead =>
      obtain ⟨hn, rfl⟩ := h.eq_toDigits hlead
      obtain ⟨m, rfl⟩ := Nat.exists_eq_add_of_lt hn
      rw [Nat.zero_add]
      exact String.toList_ofList.symm
  · rintro rfl
    cases i with
    | ofNat n =>
      rw [decimal, String.toList_ofList]
      by_cases hn : n = 0
      · subst hn
        exact .zero
      · exact .positive (numeral_toDigits n) (head?_toDigits hn)
    | negSucc n =>
      rw [decimal, String.toList_ofList]
      exact .negative (numeral_toDigits (n + 1)) (head?_toDigits (Nat.succ_ne_zero n))

end Text

end AttributeGateway
