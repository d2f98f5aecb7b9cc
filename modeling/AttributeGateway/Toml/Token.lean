import AttributeGateway.Json.Token

/-!
# Tokens of TOML

A document is cut into punctuation, blanks, line ends, quoted strings and words. A word is a run of
characters that are none of these; whether it is a key or part of a value is decided later, since
only the place where it stands tells. Comments are left out: wherever one may stand, nothing may
stand too.
-/

namespace AttributeGateway

namespace Toml

/-- A token. -/
inductive Token where
  | beginBracket
  | endBracket
  | beginBrace
  | endBrace
  | equals
  | dot
  | comma
  /-- A run of spaces and tabs. -/
  | blanks (text : List Char)
  | newline
  /-- A string, and whether it may extend over several lines. -/
  | quoted (multiline : Bool) (text : String)
  /-- A run of other characters. -/
  | word (text : List Char)
  deriving DecidableEq

/-- Space within a line. -/
def isBlankChar (c : Char) : Bool := c == ' ' || c == '\t'

/-- A character that may stand neither in a comment nor in a string. -/
def isControl (c : Char) : Bool := (c.toNat < 0x20 && c != '\t') || c.toNat == 0x7F

/-- Whether a character belongs to a word. -/
def isWordChar (c : Char) : Bool :=
  !(isBlankChar c || isControl c || c == '#' || c == '=' || c == '.' || c == ',' || c == '[' ||
    c == ']' || c == '{' || c == '}' || c == '"' || c == '\'')

/-! ### Strings -/

/-- How a string is written. -/
structure Quote where
  /-- The character around the string. -/
  mark : Char
  /-- Whether a backslash begins an escape. -/
  escapes : Bool
  /-- Whether there are three marks on either side, and line ends may stand between them. -/
  multiline : Bool

/-- Part of a string at the beginning of a text; what follows it is shorter than `bound`. -/
inductive Part (bound : Nat) where
  /-- Characters of the string, and what follows them. -/
  | chars (chars rest : List Char) (shorter : rest.length < bound)
  /-- The end of the string, with marks before it that belong to the string. -/
  | close (marks rest : List Char) (shorter : rest.length < bound)

/-- A part of a longer text. -/
def Part.within {n m : Nat} (h : n ≤ m) : Part n → Part m
  | .chars cs rest h' => .chars cs rest (Nat.lt_of_lt_of_le h' h)
  | .close marks rest h' => .close marks rest (Nat.lt_of_lt_of_le h' h)

/-- The number of a fixed count of hexadecimal digits, and what follows them. -/
def hexNumber? : Nat → Nat → List Char → Option (Nat × List Char)
  | 0, n, text => some (n, text)
  | _ + 1, _, [] => none
  | k + 1, n, c :: text => (Json.hexValue? c).bind fun d => hexNumber? k (n * 16 + d) text

theorem length_of_hexNumber? {k n m : Nat} {text rest : List Char}
    (h : hexNumber? k n text = some (m, rest)) : rest.length ≤ text.length := by
  induction k generalizing n text with
  | zero =>
    simp only [hexNumber?, Option.some.injEq, Prod.mk.injEq] at h
    exact h.2 ▸ Nat.le_refl _
  | succ k ih =>
    match text with
    | [] => simp [hexNumber?] at h
    | c :: text =>
      simp only [hexNumber?, Option.bind_eq_some_iff] at h
      obtain ⟨_, _, h⟩ := h
      exact Nat.le_succ_of_le (ih h)

/-- A character given by its number in hexadecimal digits. -/
def numbered? (digits : Nat) (text : List Char) : Option (Part (text.length + 1)) :=
  match h : hexNumber? digits 0 text with
  | some (n, rest) =>
    if valid : n.isValidChar then
      some (.chars [Char.ofNatAux n valid] rest (Nat.lt_succ_of_le (length_of_hexNumber? h)))
    else none
  | none => none

/-- Leaves out blanks and line ends. -/
def skipLines : List Char → List Char
  | '\r' :: '\n' :: rest => skipLines rest
  | c :: rest => if isBlankChar c || c == '\n' then skipLines rest else c :: rest
  | [] => []

theorem length_skipLines (text : List Char) : (skipLines text).length ≤ text.length := by
  fun_induction skipLines text with
  | case1 rest ih => exact Nat.le_succ_of_le (Nat.le_succ_of_le ih)
  | case2 c rest _ _ ih => exact Nat.le_succ_of_le ih
  | case3 => exact Nat.le_refl _
  | case4 => exact Nat.le_refl _

/-- What a line end at the beginning is followed by. -/
def afterNewline? : List Char → Option (List Char)
  | '\n' :: rest => some rest
  | '\r' :: '\n' :: rest => some rest
  | _ => none

/-- Leaves out a line end at the beginning. -/
def dropNewline (text : List Char) : List Char := (afterNewline? text).getD text

theorem length_dropNewline (text : List Char) : (dropNewline text).length ≤ text.length := by
  unfold dropNewline afterNewline?
  split <;> simp only [Option.getD_some, Option.getD_none, List.length_cons] <;> omega

/-- The character that an escape of one letter stands for. -/
def letterEscape? : Char → Option Char
  | '"' => some '"'
  | '\\' => some '\\'
  | 'b' => some '\x08'
  | 't' => some '\t'
  | 'n' => some '\n'
  | 'f' => some '\x0c'
  | 'r' => some '\r'
  | 'e' => some '\x1b'
  | _ => none

/-- How many digits give the number of a character behind a letter. -/
def numberEscape? : Char → Option Nat
  | 'x' => some 2
  | 'u' => some 4
  | 'U' => some 8
  | _ => none

/-- What an escape stands for, behind its backslash. Between three marks, a backslash at the end of
a line leaves out the line end and all blanks and line ends after it. -/
def escape? (multiline : Bool) (text : List Char) : Option (Part (text.length + 1)) :=
  match text with
  | [] => none
  | c :: rest =>
    match letterEscape? c, numberEscape? c with
    | some r, _ => some (.chars [r] rest (Nat.lt_succ_of_lt (Nat.lt_succ_self _)))
    | none, some digits => (numbered? digits rest).map (.within (Nat.le_succ _))
    | none, none =>
      if multiline && (afterNewline? ((c :: rest).dropWhile isBlankChar)).isSome then
        some (.chars [] (skipLines (c :: rest)) (Nat.lt_succ_of_le (length_skipLines _)))
      else none

/-- What follows a mark between three marks. -/
def closing (mark : Char) (text : List Char) : Part (text.length + 1) :=
  match text with
  | a :: b :: c :: d :: rest =>
    if a = mark ∧ b = mark then
      if c = mark ∧ d = mark then .close [c, d] rest (by simp only [List.length_cons]; omega)
      else if c = mark then .close [c] (d :: rest) (by simp only [List.length_cons]; omega)
      else .close [] (c :: d :: rest) (by simp only [List.length_cons]; omega)
    else .chars [mark] (a :: b :: c :: d :: rest) (Nat.lt_succ_self _)
  | [a, b, c] =>
    if a = mark ∧ b = mark then
      if c = mark then .close [c] [] (Nat.succ_pos _)
      else .close [] [c] (by simp only [List.length_cons, List.length_nil]; omega)
    else .chars [mark] [a, b, c] (Nat.lt_succ_self _)
  | [a, b] =>
    if a = mark ∧ b = mark then .close [] [] (Nat.succ_pos _)
    else .chars [mark] [a, b] (Nat.lt_succ_self _)
  | text => .chars [mark] text (Nat.lt_succ_self _)

/-- The first part of a string. -/
def Quote.next (q : Quote) (text : List Char) : Option (Part text.length) :=
  match text with
  | [] => none
  | c :: rest =>
    if c = q.mark then
      if q.multiline then some (closing c rest) else some (.close [] rest (Nat.lt_succ_self _))
    else if q.escapes = true ∧ c = '\\' then escape? q.multiline rest
    else
      match afterNewline? (c :: rest) with
      | some r =>
        if h : q.multiline = true ∧ r.length < rest.length + 1 then
          some (.chars ((c :: rest).take (rest.length + 1 - r.length)) r h.2)
        else none
      | none => if isControl c then none else some (.chars [c] rest (Nat.lt_succ_self _))

/-- Reads a string behind its opening marks, onto the characters read before. The result is the
string and what follows its closing marks. -/
def Quote.scan (q : Quote) (read text : List Char) :
    Option (List Char × { rest : List Char // rest.length < text.length }) :=
  match q.next text with
  | none => none
  | some (.close marks rest h) => some (read.reverse ++ marks, ⟨rest, h⟩)
  | some (.chars chars rest h) =>
    match q.scan (chars.reverse ++ read) rest with
    | none => none
    | some (s, ⟨rest', h'⟩) => some (s, ⟨rest', Nat.lt_trans h' h⟩)
termination_by text.length

/-- The token of a string of which the first mark has been read, and what follows it. -/
def quoted? (mark : Char) (escapes : Bool) (text : List Char) :
    Option (Token × { rest : List Char // rest.length ≤ text.length }) :=
  match text with
  | a :: b :: rest =>
    if a = mark ∧ b = mark then
      match Quote.scan ⟨mark, escapes, true⟩ [] (dropNewline rest) with
      | some (s, ⟨r, hr⟩) =>
        have := length_dropNewline rest
        some (.quoted true (String.ofList s), ⟨r, by simp only [List.length_cons]; omega⟩)
      | none => none
    else single (a :: b :: rest)
  | text => single text
where
  /-- The token of a string with single marks. -/
  single (text : List Char) : Option (Token × { rest : List Char // rest.length ≤ text.length }) :=
    match Quote.scan ⟨mark, escapes, false⟩ [] text with
    | some (s, ⟨r, hr⟩) => some (.quoted false (String.ofList s), ⟨r, Nat.le_of_lt hr⟩)
    | none => none

/-! ### Cutting a text -/

/-- Cuts a text into tokens, behind the tokens cut before, the last one first. -/
def scan (cut : List Token) (text : List Char) : Option (List Token) :=
  match text with
  | [] => some cut.reverse
  | '[' :: rest => scan (.beginBracket :: cut) rest
  | ']' :: rest => scan (.endBracket :: cut) rest
  | '{' :: rest => scan (.beginBrace :: cut) rest
  | '}' :: rest => scan (.endBrace :: cut) rest
  | '=' :: rest => scan (.equals :: cut) rest
  | '.' :: rest => scan (.dot :: cut) rest
  | ',' :: rest => scan (.comma :: cut) rest
  | '\n' :: rest => scan (.newline :: cut) rest
  | '\r' :: '\n' :: rest => scan (.newline :: cut) rest
  | '"' :: rest =>
    match quoted? '"' true rest with
    | some (t, ⟨r, _⟩) => scan (t :: cut) r
    | none => none
  | '\'' :: rest =>
    match quoted? '\'' false rest with
    | some (t, ⟨r, _⟩) => scan (t :: cut) r
    | none => none
  | c :: rest =>
    if c = '#' then
      have : (rest.dropWhile fun c => !isControl c).length ≤ rest.length :=
        (List.dropWhile_sublist _).length_le
      scan cut (rest.dropWhile fun c => !isControl c)
    else if isBlankChar c then
      have : (rest.dropWhile isBlankChar).length ≤ rest.length :=
        (List.dropWhile_sublist _).length_le
      scan (.blanks (c :: rest.takeWhile isBlankChar) :: cut) (rest.dropWhile isBlankChar)
    else if isWordChar c then
      have : (rest.dropWhile isWordChar).length ≤ rest.length :=
        (List.dropWhile_sublist _).length_le
      scan (.word (c :: rest.takeWhile isWordChar) :: cut) (rest.dropWhile isWordChar)
    else none
termination_by text.length

/-- The tokens of a text. A byte order mark at its beginning is no part of it. -/
def tokens (text : List Char) : Option (List Token) :=
  match text with
  | '\ufeff' :: rest => scan [] rest
  | text => scan [] text

end Toml

end AttributeGateway
