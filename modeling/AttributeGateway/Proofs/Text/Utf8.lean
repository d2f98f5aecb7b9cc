import AttributeGateway.Text.SingleLine
import AttributeGateway.Text.Utf8
import Mathlib.Tactic.IntervalCases

/-!
# Text as bytes and back

The bytes of a text are those of its characters, one character after another. Reading them gives
the text back: the machine that reads bytes is at the beginning of a character again behind each of
them, and has read that character.

A byte below 128 stands for a character of its own wherever it occurs, so a text without a character
of that range has no such byte.

* `toBytes_eq` — the bytes of a text.
* `ofBytes_toBytes` — reading gives the text back.
* `not_mem_toBytes` — a text without line breaks has no byte of a line break.
-/

namespace AttributeGateway

namespace Text

/-! ### The bytes of a text -/

theorem toList_loop (bytes : ByteArray) (i : Nat) (r : List UInt8) :
    ByteArray.toList.loop bytes i r = r.reverse ++ bytes.data.toList.drop i := by
  rw [ByteArray.toList.loop]
  split
  · next hi =>
    have hget : bytes.data.toList.drop i = bytes.get! i :: bytes.data.toList.drop (i + 1) := by
      rw [List.drop_eq_getElem_cons (by simpa using hi)]
      congr 1
      rw [ByteArray.get!, getElem!_pos bytes.data i (by simpa using hi)]
      simp
    rw [toList_loop bytes (i + 1), hget, List.reverse_cons, List.append_assoc,
      List.singleton_append]
  · next hi =>
    rw [List.drop_eq_nil_of_le (by simpa using hi), List.append_nil]
termination_by bytes.size - i

/-- The bytes of a text are those of its characters. -/
theorem toBytes_eq (text : String) :
    toBytes text = text.toList.flatMap String.utf8EncodeChar := by
  have hbytes : text.toUTF8 = (text.toList.flatMap String.utf8EncodeChar).toByteArray :=
    String.utf8Encode_toList.symm
  rw [toBytes, hbytes, ByteArray.toList, toList_loop, List.data_toByteArray]
  simp

/-- A byte below 128 occurs in the character that it stands for, and in no other. -/
theorem eq_of_mem_utf8EncodeChar {b : UInt8} {c : Char} (hb : b.toNat < 128)
    (h : b ∈ String.utf8EncodeChar c) : c.toNat = b.toNat := by
  -- In a character of several bytes a multiple of 64 from 128 on is added to each of them.
  have hlow {n k : Nat} (hk : 128 ≤ k) (hn : n + k < 256) : b ≠ UInt8.ofNat (n + k) := by
    rintro rfl
    rw [UInt8.toNat_ofNat_of_lt' hn] at hb
    omega
  rw [String.utf8EncodeChar] at h
  split at h
  · next hc =>
    rw [List.mem_singleton.1 h, UInt8.toNat_ofNat_of_lt' (Nat.lt_of_le_of_lt hc (by decide))]
    rfl
  · split at h
    · simp only [List.mem_cons, List.not_mem_nil, or_false] at h
      rcases h with h | h <;> exact absurd h (hlow (by decide) (by omega))
    · split at h <;> simp only [List.mem_cons, List.not_mem_nil, or_false] at h
      · rcases h with h | h | h <;> exact absurd h (hlow (by decide) (by omega))
      · rcases h with h | h | h | h <;> exact absurd h (hlow (by decide) (by omega))

/-- A text without line breaks has no byte of one. -/
theorem not_mem_toBytes {text : String} (h : ∀ c ∈ text.toList, breaksLine c = false) {b : UInt8}
    (hb : b.toNat < 128) (hbreak : breaksLine (Char.ofNat b.toNat) = true) : b ∉ toBytes text := by
  intro hmem
  rw [toBytes_eq, List.mem_flatMap] at hmem
  obtain ⟨c, hc, hmem⟩ := hmem
  have hnat := eq_of_mem_utf8EncodeChar hb hmem
  rw [← hnat, Char.ofNat_toNat, h c hc] at hbreak
  cases hbreak

theorem lineFeed_not_mem_toBytes {text : String}
    (h : ∀ c ∈ text.toList, breaksLine c = false) : 0x0A ∉ toBytes text :=
  not_mem_toBytes h (by decide) (by decide)

/-! ### Reading -/

namespace Utf8

theorem lead_two {n : Nat} (hn : 2 ≤ n) (hn' : n < 32) :
    lead (UInt8.ofNat (n + 0xC0)) = .opens ⟨0x80, 0xBF, 0, n⟩ := by
  interval_cases n <;> rfl

theorem lead_three {n : Nat} (hn : n < 16) :
    lead (UInt8.ofNat (n + 0xE0)) =
      .opens ⟨if n = 0 then 0xA0 else 0x80, if n = 0xD then 0x9F else 0xBF, 1, n⟩ := by
  interval_cases n <;> rfl

theorem lead_four {n : Nat} (hn : n < 5) :
    lead (UInt8.ofNat (n + 0xF0)) =
      .opens ⟨if n = 0 then 0x90 else 0x80, if n = 4 then 0x8F else 0xBF, 2, n⟩ := by
  interval_cases n <;> rfl

/-- A byte that a character may go on with. -/
theorem toNat_tail {n : Nat} (hn : n < 64) : (UInt8.ofNat (n + 0x80)).toNat = n + 0x80 := by
  refine UInt8.toNat_ofNat_of_lt' ?_
  simp only [UInt8.size]
  omega

variable {done : List Char} {low high : UInt8} {more bits n : Nat}

theorem tail_mem (hn : n < 64) (hlow : low.toNat ≤ n + 0x80) (hhigh : n + 0x80 ≤ high.toNat) :
    low ≤ UInt8.ofNat (n + 0x80) ∧ UInt8.ofNat (n + 0x80) ≤ high := by
  rw [UInt8.le_iff_toNat_le, UInt8.le_iff_toNat_le, toNat_tail hn]
  exact ⟨hlow, hhigh⟩

/-- A byte that a character may go on with adds its six bits. -/
theorem next_tail (hn : n < 64) (hlow : low.toNat ≤ n + 0x80) (hhigh : n + 0x80 ≤ high.toNat) :
    Reading.next ⟨done, some ⟨low, high, more + 1, bits⟩⟩ (UInt8.ofNat (n + 0x80)) =
      ⟨done, some ⟨0x80, 0xBF, more, bits * 64 + n⟩⟩ := by
  have hmod : (n + 0x80) % 64 = n := by omega
  simp only [Reading.next, tail_mem hn hlow hhigh, and_self, if_true, toNat_tail hn, hmod]

/-- The last byte of a character. -/
theorem next_last {c : Char} (hn : n < 64) (hlow : low.toNat ≤ n + 0x80)
    (hhigh : n + 0x80 ≤ high.toNat) (hc : bits * 64 + n = c.toNat) :
    Reading.next ⟨done, some ⟨low, high, 0, bits⟩⟩ (UInt8.ofNat (n + 0x80)) =
      ⟨c :: done, none⟩ := by
  have hmod : (n + 0x80) % 64 = n := by omega
  simp only [Reading.next, tail_mem hn hlow hhigh, and_self, if_true, toNat_tail hn, hmod, hc,
    Char.ofNat_toNat]

/-- **The bytes of a character are read as that character.** -/
theorem foldl_next_utf8EncodeChar (done : List Char) (c : Char) :
    (String.utf8EncodeChar c).foldl Reading.next ⟨done, none⟩ = ⟨c :: done, none⟩ := by
  have hvalid : c.toNat < 0xD800 ∨ 0xDFFF < c.toNat ∧ c.toNat < 0x110000 := c.valid
  have hopen {b : UInt8} {p : Pending} (h : lead b = .opens p) :
      Reading.next ⟨done, none⟩ b = ⟨done, some p⟩ := by
    simp only [Reading.next, Reading.atStart, h]
  rw [String.utf8EncodeChar]
  simp only [show c.val.toNat = c.toNat from rfl]
  split
  · next h1 =>
    have hbyte : (UInt8.ofNat c.toNat).toNat = c.toNat :=
      UInt8.toNat_ofNat_of_lt' (Nat.lt_of_le_of_lt h1 (by decide))
    have hlt : UInt8.ofNat c.toNat < 0x80 := by
      rw [UInt8.lt_iff_toNat_lt, hbyte]
      exact Nat.lt_succ_of_le h1
    simp [Reading.next, Reading.atStart, lead, hlt, hbyte]
  · next h1 =>
    -- The least code points of each length and the surrogates are what restricts the second byte.
    split
    · next h2 =>
      have hlead := lead_two (n := c.toNat / 64 % 32) (by omega) (by omega)
      rw [List.foldl_cons, hopen hlead, List.foldl_cons,
        next_last (by omega) (by simp) (by simp only [UInt8.reduceToNat]; omega)
          (c := c) (by omega),
        List.foldl_nil]
    · next h2 =>
      split
      · next h3 =>
        have hlead := lead_three (n := c.toNat / 4096 % 16) (by omega)
        rw [List.foldl_cons, hopen hlead, List.foldl_cons,
          next_tail (by omega) (by split <;> simp only [UInt8.reduceToNat] <;> omega)
            (by split <;> simp only [UInt8.reduceToNat] <;> omega),
          List.foldl_cons,
          next_last (by omega) (by simp) (by simp only [UInt8.reduceToNat]; omega)
            (c := c) (by omega),
          List.foldl_nil]
      · next h3 =>
        have hlead := lead_four (n := c.toNat / 262144 % 8) (by omega)
        rw [List.foldl_cons, hopen hlead, List.foldl_cons,
          next_tail (by omega) (by split <;> simp only [UInt8.reduceToNat] <;> omega)
            (by split <;> simp only [UInt8.reduceToNat] <;> omega),
          List.foldl_cons,
          next_tail (by omega) (by simp) (by simp only [UInt8.reduceToNat]; omega),
          List.foldl_cons,
          next_last (by omega) (by simp) (by simp only [UInt8.reduceToNat]; omega)
            (c := c) (by omega),
          List.foldl_nil]

/-- The bytes of characters are read as those characters. -/
theorem foldl_next_flatMap (done text : List Char) :
    (text.flatMap String.utf8EncodeChar).foldl Reading.next ⟨done, none⟩ =
      ⟨text.reverse ++ done, none⟩ := by
  induction text generalizing done with
  | nil => rfl
  | cons c text ih =>
    rw [List.flatMap_cons, List.foldl_append, foldl_next_utf8EncodeChar, ih, List.reverse_cons,
      List.append_assoc, List.singleton_append]

end Utf8

/-- **The bytes of a text are read as that text.** -/
@[simp]
theorem ofBytes_toBytes (text : String) : ofBytes (toBytes text) = text := by
  rw [toBytes_eq, ofBytes, Utf8.foldl_next_flatMap]
  simp [Utf8.Reading.close]

end Text

end AttributeGateway
