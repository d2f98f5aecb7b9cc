/-!
# White space and words

A request line is cut into words at white space, and a host that consists of white space alone
counts as empty. White space is the property of that name of the character database, not the
ASCII class of the core library: a no-break space separates words, a zero-width space does not.

Main definitions: `isBlank`, `words`, `wordsOf`.
-/

namespace AttributeGateway

namespace Text

/-- White space: the twenty-five characters with the property `White_Space`. -/
def isBlank (c : Char) : Bool :=
  let n := c.toNat
  (0x09 ≤ n && n ≤ 0x0D) || n == 0x20 || n == 0x85 || n == 0xA0 || n == 0x1680 ||
    (0x2000 ≤ n && n ≤ 0x200A) || n == 0x2028 || n == 0x2029 || n == 0x202F || n == 0x205F ||
    n == 0x3000

/-- Puts one character before a text that is already cut into the word that it begins with
(empty if it begins with white space) and the words after that one. -/
def cutBefore (c : Char) (cut : List Char × List (List Char)) : List Char × List (List Char) :=
  if isBlank c then ([], if cut.1.isEmpty then cut.2 else cut.1 :: cut.2)
  else (c :: cut.1, cut.2)

/-- The words of a text: its longest runs of characters other than white space, in order. -/
def words (text : List Char) : List (List Char) :=
  let cut := text.foldr cutBefore ([], [])
  if cut.1.isEmpty then cut.2 else cut.1 :: cut.2

/-- The words of a line. -/
def wordsOf (line : String) : List String := (words line.toList).map String.ofList

/-- Whether a text has no character other than white space. -/
def allBlank (text : String) : Bool := text.toList.all isBlank

theorem words_nil : words [] = [] := rfl

/-- White space before a text adds no word. -/
theorem words_cons_blank {c : Char} (h : isBlank c = true) (text : List Char) :
    words (c :: text) = words text := by
  simp [words, cutBefore, h]

end Text

end AttributeGateway
