import AttributeGateway.Text.Numeral
import Mathlib.Tactic.Common

/-!
# The texts that are integers

A text is read as a natural number by one pass that stops at the first character that decides. What
it accepts is said here without the pass: an optional plus sign and digits, at least one, whose
value stays within the bound. Zeros in front change nothing.

* `Numeral`, `Denotes` — digits and texts that stand for a number.
* `readMagnitude_eq_ok_iff`, `readNat_eq_ok_iff` — these, and no others, are read, as that number.
* `denotes_decimal` — the digits that are written for a number stand for it.
-/

namespace AttributeGateway

namespace Text

variable {digits : List Char} {bound acc n : Nat} {overflow : NumeralError} {text : String}

/-- At least one digit, with the value that they have together. -/
structure Numeral (digits : List Char) (n : Nat) : Prop where
  ne_nil : digits ≠ []
  /-- Nothing but digits. -/
  isDigit : ∀ c ∈ digits, c.isDigit = true
  /-- Their value. -/
  value : Nat.ofDigitChars 10 digits 0 = n

/-- A text that stands for a natural number: digits, perhaps behind a plus sign. -/
def Denotes (text : String) (n : Nat) : Prop :=
  ∃ digits, (text.toList = digits ∨ text.toList = '+' :: digits) ∧ Numeral digits n

/-! ### Digits -/

/-- Digits put behind others do not make the value smaller. -/
theorem le_ofDigitChars (digits : List Char) (acc : Nat) :
    acc ≤ Nat.ofDigitChars 10 digits acc := by
  induction digits generalizing acc with
  | nil => simp
  | cons c rest ih =>
    have hrest := ih (10 * acc + (c.toNat - '0'.toNat))
    rw [Nat.ofDigitChars_cons]
    omega

/-- **Digits are read** as their value, if it stays within the bound; and nothing else is. -/
theorem readDigits_eq_ok_iff (hacc : acc ≤ bound) :
    readDigits bound overflow acc digits = .ok n ↔
      (∀ c ∈ digits, c.isDigit = true) ∧ Nat.ofDigitChars 10 digits acc = n ∧ n ≤ bound := by
  induction digits generalizing acc with
  | nil =>
    simp only [readDigits, Except.ok.injEq, List.not_mem_nil, false_implies, implies_true,
      Nat.ofDigitChars_nil, true_and]
    omega
  | cons c rest ih =>
    rw [readDigits, digit?, List.forall_mem_cons, Nat.ofDigitChars_cons]
    by_cases hc : c.isDigit = true
    · -- The value so far is within the bound, or no digits behind it bring it back.
      have hvalue : acc * 10 + (c.toNat - 48) = 10 * acc + (c.toNat - '0'.toNat) := by
        rw [Nat.mul_comm]
        rfl
      simp only [hc, if_true, hvalue, true_and]
      by_cases hnext : 10 * acc + (c.toNat - '0'.toNat) ≤ bound
      · rw [if_pos hnext]
        exact ih hnext
      · have hle := le_ofDigitChars rest (10 * acc + (c.toNat - '0'.toNat))
        simp only [if_neg hnext, reduceCtorEq, false_iff, not_and]
        intro _ hn
        omega
    · simp [hc]

theorem readMagnitude_eq_ok_iff :
    readMagnitude bound overflow digits = .ok n ↔ Numeral digits n ∧ n ≤ bound := by
  cases digits with
  | nil => exact iff_of_false (fun h => nomatch h) fun h => h.1.ne_nil rfl
  | cons c rest =>
    rw [readMagnitude, readDigits_eq_ok_iff (Nat.zero_le bound)]
    · constructor
      · rintro ⟨hdigits, hvalue, hn⟩
        exact ⟨⟨List.cons_ne_nil _ _, hdigits, hvalue⟩, hn⟩
      · rintro ⟨h, hn⟩
        exact ⟨h.isDigit, h.value, hn⟩
    · simp

/-! ### Texts -/

/-- Behind a plus sign stand the digits. -/
theorem denotes_plus_iff (ht : text.toList = '+' :: digits) :
    Denotes text n ↔ Numeral digits n := by
  constructor
  · rintro ⟨digits', rfl | hdigits, h⟩
    · exact absurd (h.isDigit '+' (ht ▸ List.mem_cons_self)) (by decide)
    · obtain rfl := (List.cons.inj (ht.symm.trans hdigits)).2
      exact h
  · intro h
    exact ⟨digits, .inr ht, h⟩

/-- Without a sign the text consists of the digits. -/
theorem denotes_plain_iff (ht : text.toList.head? ≠ some '+') :
    Denotes text n ↔ Numeral text.toList n := by
  constructor
  · rintro ⟨digits', rfl | hdigits, h⟩
    · exact h
    · exact absurd (by rw [hdigits]; rfl) ht
  · intro h
    exact ⟨_, .inl rfl, h⟩

/-- **A text is read as a natural number** exactly if it stands for one within the bound. -/
theorem readNat_eq_ok_iff : readNat bound text = .ok n ↔ Denotes text n ∧ n ≤ bound := by
  unfold readNat
  split
  · next htext =>
    rw [denotes_plain_iff (by simp [htext]), htext]
    exact iff_of_false nofun fun h => h.1.ne_nil rfl
  · next rest htext => rw [readMagnitude_eq_ok_iff, denotes_plus_iff htext]
  · next hplus =>
    have hhead : text.toList.head? ≠ some '+' := fun h => by
      obtain ⟨rest, hrest⟩ := List.head?_eq_some_iff.1 h
      exact hplus rest hrest
    rw [readMagnitude_eq_ok_iff, denotes_plain_iff hhead]

theorem numeral_toDigits (n : Nat) : Numeral (Nat.toDigits 10 n) n where
  ne_nil := Nat.toDigits_ne_nil
  isDigit _ hc := Nat.isDigit_of_mem_toDigits (by decide) (by decide) hc
  value := Nat.ofDigitChars_ten_toDigits

/-- The digits that are written for a number stand for it. -/
theorem denotes_decimal (n : Nat) : Denotes (decimal n) n :=
  ⟨Nat.toDigits 10 n, .inl String.toList_ofList, numeral_toDigits n⟩

end Text

end AttributeGateway
