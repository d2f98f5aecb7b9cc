import AttributeGateway.Text.Numeral

/-!
# Output templates

A request for attributes says how each value is to be written. In its template `%s` stands for the
text of the value, `%d` for the value as an integer in its plainest form, and `%%` for a percent
sign; every other character stands for itself. A template with neither `%s` nor `%d` leaves values
as they are.
-/

namespace AttributeGateway

/-- The text without one pair of equal quotes around it, if there is one. -/
def stripQuotes (token : String) : String :=
  match token.toList with
  | q :: rest =>
    if (q == '\'' || q == '"') && rest.getLast? == some q then String.ofList rest.dropLast
    else token
  | [] => token

/-- What a template consists of. -/
inductive Piece where
  /-- A character that stands for itself. -/
  | literal (c : Char)
  /-- The text of the value. -/
  | text
  /-- The value as an integer. -/
  | integer
  deriving DecidableEq, Repr

/-- Whether a piece depends on the value. -/
def Piece.isPlaceholder : Piece → Bool
  | .literal _ => false
  | _ => true

/-- A template, as its text. -/
structure Template where
  text : String
  deriving DecidableEq, Repr

namespace Template

/-- The template of a word of a request: one pair of quotes around it does not belong to it. -/
def ofToken (token : String) : Template := ⟨stripQuotes token⟩

/-- The pieces of a text. -/
def piecesOf : List Char → List Piece
  | [] => []
  | '%' :: 's' :: rest => .text :: piecesOf rest
  | '%' :: 'd' :: rest => .integer :: piecesOf rest
  | '%' :: '%' :: rest => .literal '%' :: piecesOf rest
  | c :: rest => .literal c :: piecesOf rest

/-- The pieces of a template. -/
def pieces (t : Template) : List Piece := piecesOf t.text.toList

/-- Whether the template depends on the value. -/
def hasPlaceholders (t : Template) : Bool := t.pieces.any Piece.isPlaceholder

/-- What a piece becomes for a value; nothing if the value is no integer but has to be one. -/
def fillPiece (value : String) : Piece → Option (List Char)
  | .literal c => some [c]
  | .text => some value.toList
  | .integer =>
    match Text.readInt64 value with
    | .ok i => some (Text.decimal i.toInt).toList
    | .error _ => none

/-- The line for a value; nothing if the template has `%d` and the value is no integer. -/
def fill (t : Template) (value : String) : Option String :=
  if t.hasPlaceholders then
    (t.pieces.mapM (fillPiece value)).map fun parts => String.ofList parts.flatten
  else some value

end Template

end AttributeGateway
