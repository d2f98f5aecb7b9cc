import AttributeGateway.Proofs.Json.Numbers
import AttributeGateway.Text.SingleLine

/-!
# Cutting a written document

A document that has been written is cut into exactly the tokens it is made of: brackets, commas and
colons are tokens wherever they stand, a string ends at its closing quote, for the quotes inside it
are escaped, and a number ends at the punctuation that follows it.

* `scanString_flatMap_escaped` — a string is read from its escaped characters.
* `Cuts` — a text is cut into tokens, whatever stands around it.
* `cuts_text`, `tokens_text` — a document is cut into its tokens.
* `unbroken_text` — a document is written on a single line.
-/

namespace AttributeGateway

namespace Json

variable {c : Char} {t : Token} {cut tokens tokens' : List Token} {n k : Nat}
  {read s l l' rest rest' : List Char}

/-! ### Strings -/

theorem hexValue?_digitChar {d : Nat} (hd : d < 16) : hexValue? (Nat.digitChar d) = some d := by
  have hall : ∀ d < 16, hexValue? (Nat.digitChar d) = some d := by decide
  exact hall d hd

theorem hexUnit?_hex4 (hn : n < 65536) (rest : List Char) :
    hexUnit? (hex4 n ++ rest) = some (n, rest) := by
  have hvalue (k : Nat) : hexValue? (Nat.digitChar (k % 16)) = some (k % 16) :=
    hexValue?_digitChar (Nat.mod_lt _ (by decide))
  simp only [hex4, List.cons_append, List.nil_append, hexUnit?, hvalue, Option.bind_eq_bind,
    Option.bind_some, Option.pure_def, Option.some.injEq, Prod.mk.injEq, and_true]
  omega

/-- The escape by number of a control character. -/
theorem escape?_hex4 (hc : c.toNat < 0x20) (rest : List Char) :
    escape? ('u' :: (hex4 c.toNat ++ rest)) = some (c, rest) := by
  rw [escape?, codeEscape?, hexUnit?_hex4 (by omega)]
  simp only [Option.bind_eq_bind, Option.bind_some]
  rw [if_neg (by omega), if_neg (by omega), Char.ofNat_toNat]
  rfl

theorem scanString_escape (h : escape? rest = some (c, rest')) :
    scanString read ('\\' :: rest) = scanString (c :: read) rest' := by
  rw [scanString]
  split
  · next heq =>
    rw [h] at heq
    obtain ⟨rfl, rfl⟩ := heq
    rfl
  · next heq =>
    rw [h] at heq
    cases heq

/-- A character is read from its escaped form. -/
theorem scanString_escaped (read : List Char) (c : Char) (rest : List Char) :
    scanString read (escaped c ++ rest) = scanString (c :: read) rest := by
  unfold escaped
  split
  case h_8 hquote hbackslash _ _ _ _ _ =>
    split
    · next hc => exact scanString_escape (escape?_hex4 hc rest)
    · next hc =>
      rw [List.singleton_append, scanString]
      · rw [if_neg hc]
      · exact hquote
      · exact hbackslash
  all_goals exact scanString_escape rfl

/-- **A string is read from its escaped characters**, up to the quote behind them. -/
theorem scanString_flatMap_escaped (read s rest : List Char) :
    scanString read (s.flatMap escaped ++ '"' :: rest) = some (read.reverse ++ s, rest) := by
  induction s generalizing read with
  | nil => simp [scanString]
  | cons c s ih => simp [scanString_escaped, ih]

/-! ### Single tokens -/

/-- What follows a text does not prolong a number at its end. -/
def Stops (rest : List Char) : Prop := ∀ c ∈ rest.head?, isNumberChar c = false

/-- **The text is cut into the tokens**, whatever has been cut before and whatever follows. -/
def Cuts (l : List Char) (tokens : List Token) : Prop :=
  ∀ cut rest, Stops rest → scan cut (l ++ rest) = scan (tokens.reverse ++ cut) rest

theorem scan_string (h : scanString [] rest = some (s, rest')) :
    scan cut ('"' :: rest) = scan (.string (String.ofList s) :: cut) rest' := by
  rw [scan]
  split
  · next heq =>
    rw [h] at heq
    obtain ⟨rfl, rfl⟩ := heq
    rfl
  · next heq =>
    rw [h] at heq
    cases heq

theorem cuts_stringText (s : String) : Cuts (stringText s) [.string s] := by
  intro cut rest _
  have hread := scanString_flatMap_escaped [] s.toList rest
  rw [stringText, List.cons_append, List.append_assoc, List.singleton_append, scan_string hread,
    List.reverse_nil, List.nil_append, String.ofList_toList]
  rfl

theorem not_isSpace_of_isNumberChar (hc : isNumberChar c = true) : isSpace c = false := by
  by_contra hspace
  simp only [isSpace, Bool.not_eq_false, Bool.or_eq_true, beq_iff_eq] at hspace
  rcases hspace with ((rfl | rfl) | rfl) | rfl <;> exact absurd hc (by decide)

/-- A number is not taken for any other token. -/
theorem scan_number (hc : isNumberChar c = true) {number : Number}
    (h : number? (c :: rest.takeWhile isNumberChar) = some number) :
    scan cut (c :: rest) = scan (.number number :: cut) (rest.dropWhile isNumberChar) := by
  rw [scan]
  · rw [not_isSpace_of_isNumberChar hc, hc, h]
    rfl
  -- No other token begins with a character of a number.
  all_goals
    intros
    subst c
    exact absurd hc (by decide)

/-- A number ends where no character prolongs it. -/
theorem takeWhile_append_of_stops (hl : l.all isNumberChar = true) (h : Stops rest) :
    (l ++ rest).takeWhile isNumberChar = l ∧ (l ++ rest).dropWhile isNumberChar = rest := by
  have hl' := List.all_eq_true.1 hl
  rw [List.takeWhile_append_of_pos hl', List.dropWhile_append_of_pos hl']
  cases rest with
  | nil => simp
  | cons c rest =>
    have hc : isNumberChar c = false := h c rfl
    simp [hc]

theorem cuts_numberText {number : Number} (hread : number.ReadsBack) :
    Cuts number.text [.number number] := by
  intro cut rest hstops
  have hall := number.all_isNumberChar_text
  rw [Number.ReadsBack] at hread
  cases hl : number.text with
  | nil =>
    rw [hl] at hread
    cases hread
  | cons c l =>
    rw [hl] at hread hall
    rw [List.all_cons, Bool.and_eq_true] at hall
    obtain ⟨htake, hdrop⟩ := takeWhile_append_of_stops hall.2 hstops
    rw [← htake] at hread
    rw [List.cons_append, scan_number hall.1 hread, hdrop]
    rfl

/-- The words. -/
inductive Word : List Char → Token → Prop
  | null : Word ['n', 'u', 'l', 'l'] .null
  | true : Word ['t', 'r', 'u', 'e'] (.bool true)
  | false : Word ['f', 'a', 'l', 's', 'e'] (.bool false)

theorem Word.cuts (h : Word l t) : Cuts l [t] := by
  intro cut rest _
  cases h <;> exact scan.eq_def cut _

/-- The characters that are tokens by themselves. -/
inductive Punctuation : Char → Token → Prop
  | comma : Punctuation ',' .comma
  | colon : Punctuation ':' .colon
  | beginArray : Punctuation '[' .beginArray
  | endArray : Punctuation ']' .endArray
  | beginObject : Punctuation '{' .beginObject
  | endObject : Punctuation '}' .endObject

theorem Punctuation.not_isNumberChar (hc : Punctuation c t) : isNumberChar c = false := by
  cases hc <;> rfl

theorem Punctuation.scan_eq (hc : Punctuation c t) (cut : List Token) (rest : List Char) :
    scan cut (c :: rest) = scan (t :: cut) rest := by
  cases hc <;> exact scan.eq_def cut _

/-! ### Several tokens -/

theorem cuts_nil : Cuts [] [] := fun _ _ _ => rfl

theorem stops_cons (hc : isNumberChar c = false) (rest : List Char) : Stops (c :: rest) := by
  rintro _ ⟨⟩
  exact hc

theorem Cuts.append (h : Cuts l tokens) (h' : Cuts l' tokens')
    (hstops : ∀ rest, Stops rest → Stops (l' ++ rest)) : Cuts (l ++ l') (tokens ++ tokens') := by
  intro cut rest hrest
  rw [List.append_assoc, h _ _ (hstops rest hrest), h' _ _ hrest, List.reverse_append,
    List.append_assoc]

theorem Punctuation.cons (hc : Punctuation c t) (h : Cuts l tokens) :
    Cuts (c :: l) (t :: tokens) := by
  intro cut rest hrest
  rw [List.cons_append, hc.scan_eq, h _ _ hrest, List.reverse_cons, List.append_assoc]
  rfl

theorem Punctuation.between (hc : Punctuation c t) (h : Cuts l tokens) (h' : Cuts l' tokens') :
    Cuts (l ++ c :: l') (tokens ++ t :: tokens') :=
  h.append (hc.cons h') fun rest _ => stops_cons hc.not_isNumberChar (l' ++ rest)

/-! ### Documents -/

/-- Tokens with commas between them. -/
def commaTokens : List (List Token) → List Token
  | [] => []
  | [ts] => ts
  | ts :: rest => ts ++ .comma :: commaTokens rest

/-- The tokens of a document. -/
def tokensOf : Json → List Token
  | .null => [.null]
  | .bool b => [.bool b]
  | .number n => [.number n]
  | .string s => [.string s]
  | .array _ item =>
    .beginArray :: (commaTokens (List.ofFn fun i => (item i).tokensOf) ++ [.endArray])
  | .object keys child =>
    .beginObject :: (commaTokens (List.ofFn fun i =>
      .string (keys.key i) :: .colon :: (child i).tokensOf) ++ [.endObject])

theorem commaSeparated_ofFn (text : Fin (k + 2) → List Char) : commaSeparated (List.ofFn text) =
    text 0 ++ ',' :: commaSeparated (List.ofFn fun i => text i.succ) := by
  simp only [List.ofFn_succ, commaSeparated]

theorem commaTokens_ofFn (tokens : Fin (k + 2) → List Token) : commaTokens (List.ofFn tokens) =
    tokens 0 ++ .comma :: commaTokens (List.ofFn fun i => tokens i.succ) := by
  simp only [List.ofFn_succ, commaTokens]

theorem cuts_commaSeparated {text : Fin k → List Char} {tokens : Fin k → List Token}
    (h : ∀ i, Cuts (text i) (tokens i)) :
    Cuts (commaSeparated (List.ofFn text)) (commaTokens (List.ofFn tokens)) := by
  induction k with
  | zero => exact cuts_nil
  | succ k ih =>
    cases k with
    | zero => exact h 0
    | succ k =>
      rw [commaSeparated_ofFn, commaTokens_ofFn]
      exact Punctuation.comma.between (h 0) (ih fun i => h i.succ)

/-- Every number of the document is read from its text. -/
def NumbersReadBack : Json → Prop
  | .number n => n.ReadsBack
  | .array _ item => ∀ i, (item i).NumbersReadBack
  | .object _ child => ∀ i, (child i).NumbersReadBack
  | _ => True

/-- **A document is cut into its tokens.** -/
theorem cuts_text {j : Json} (hnumbers : j.NumbersReadBack) : Cuts j.text j.tokensOf := by
  induction j with
  | null => exact Word.null.cuts
  | bool b =>
    cases b with
    | true => exact Word.true.cuts
    | false => exact Word.false.cuts
  | number n => exact cuts_numberText hnumbers
  | string s => exact cuts_stringText s
  | array n item ih =>
    exact Punctuation.beginArray.cons
      (Punctuation.endArray.between (cuts_commaSeparated fun i => ih i (hnumbers i)) cuts_nil)
  | object keys child ih =>
    exact Punctuation.beginObject.cons
      (Punctuation.endObject.between (cuts_commaSeparated fun i =>
        Punctuation.colon.between (cuts_stringText (keys.key i)) (ih i (hnumbers i))) cuts_nil)

/-- **A document is cut into its tokens** and nothing else. -/
theorem tokens_text {j : Json} (hnumbers : j.NumbersReadBack) :
    Json.tokens j.text = some j.tokensOf := by
  have hcuts := cuts_text hnumbers [] [] (by rintro _ ⟨⟩)
  rw [List.append_nil, List.append_nil, scan, List.reverse_reverse] at hcuts
  exact hcuts

/-! ### On a single line -/

/-- Nothing in the text breaks a line. -/
def Unbroken (l : List Char) : Prop := ∀ c ∈ l, Text.breaksLine c = false

/-- Flattening leaves such a text as it is. -/
theorem singleLine_of_unbroken {line : String} (h : Unbroken line.toList) :
    Text.singleLine line = line := by
  have hmap : line.toList.map (fun c => if Text.breaksLine c then ' ' else c) = line.toList := by
    refine (List.map_congr_left fun c hc => ?_).trans (List.map_id _)
    rw [h c hc]
    rfl
  rw [Text.singleLine, hmap, String.ofList_toList]

theorem Unbroken.append (h : Unbroken l) (h' : Unbroken l') : Unbroken (l ++ l') := by
  intro c hc
  rcases List.mem_append.1 hc with hc | hc
  · exact h c hc
  · exact h' c hc

theorem Unbroken.cons (hc : Text.breaksLine c = false) (h : Unbroken l) : Unbroken (c :: l) := by
  intro c' hc'
  rcases List.mem_cons.1 hc' with rfl | hc'
  · exact hc
  · exact h c' hc'

theorem unbroken_nil : Unbroken [] := by
  rintro c ⟨⟩

theorem unbroken_of_not_any (h : l.any Text.breaksLine = false) : Unbroken l := by
  simpa [Unbroken] using h

theorem unbroken_hex4 (n : Nat) : Unbroken (hex4 n) := by
  have hall : ∀ d < 16, Text.breaksLine (Nat.digitChar d) = false := by decide
  have hdigit (k : Nat) := hall (k % 16) (Nat.mod_lt _ (by decide))
  exact .cons (hdigit _) (.cons (hdigit _) (.cons (hdigit _) (.cons (hdigit _) unbroken_nil)))

/-- Characters that break a line are escaped. -/
theorem unbroken_escaped (c : Char) : Unbroken (escaped c) := by
  unfold escaped
  split
  case h_8 =>
    split
    · exact .cons rfl (.cons rfl (unbroken_hex4 _))
    · refine .cons ?_ unbroken_nil
      simp_all [Text.breaksLine]
  all_goals exact .cons rfl (.cons rfl unbroken_nil)

theorem unbroken_stringText (s : String) : Unbroken (stringText s) := by
  refine .cons rfl (.append ?_ (.cons rfl unbroken_nil))
  intro c hc
  obtain ⟨d, -, hc⟩ := List.mem_flatMap.1 hc
  exact unbroken_escaped d c hc

theorem unbroken_numberText (n : Number) : Unbroken n.text := by
  intro c hc
  have hnumber := List.all_eq_true.1 n.all_isNumberChar_text c hc
  by_contra hbreak
  simp only [Text.breaksLine, Bool.not_eq_false, Bool.or_eq_true, beq_iff_eq] at hbreak
  rcases hbreak with (rfl | rfl) | rfl <;> exact absurd hnumber (by decide)

theorem unbroken_commaSeparated {text : Fin k → List Char}
    (h : ∀ i, Unbroken (text i)) : Unbroken (commaSeparated (List.ofFn text)) := by
  induction k with
  | zero => exact unbroken_nil
  | succ k ih =>
    cases k with
    | zero => exact h 0
    | succ k =>
      rw [commaSeparated_ofFn]
      exact (h 0).append (.cons rfl (ih fun i => h i.succ))

/-- **A document is written on a single line.** -/
theorem unbroken_text (j : Json) : Unbroken j.text := by
  induction j with
  | null => exact unbroken_of_not_any rfl
  | bool b => cases b <;> exact unbroken_of_not_any rfl
  | number n => exact unbroken_numberText n
  | string s => exact unbroken_stringText s
  | array n item ih =>
    exact .cons rfl (.append (unbroken_commaSeparated ih) (.cons rfl unbroken_nil))
  | object keys child ih =>
    refine .cons rfl (.append (unbroken_commaSeparated fun i => ?_) (.cons rfl unbroken_nil))
    exact .append (unbroken_stringText (keys.key i)) (.cons rfl (ih i))

end Json

end AttributeGateway
