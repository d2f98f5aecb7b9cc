import AttributeGateway.Toml.Scalar
import AttributeGateway.Toml.Token

/-!
# Reading TOML

The tokens of a document are read from left to right, with a stack of the pairs, arrays and tables
that have been begun and not ended. What may come next is an `Awaited`; a token that may not come
next ends the reading. At most `maxDepth` arrays and tables between braces may be open at the same
time, and a key has at most `maxSegments` segments. Between braces a line may end wherever a blank
may stand, except inside a key.
-/

namespace AttributeGateway

namespace Toml

/-- How many arrays and tables between braces may be open at the same time. -/
def maxDepth : Nat := 80

/-- How many segments a key may have. -/
def maxSegments : Nat := 80

/-- Something that has been begun, with what has been read of it. -/
inductive Container where
  /-- A pair on lines of its own, with its key. -/
  | pair (key : List String)
  /-- An array, with its items, the last one first. -/
  | array (items : List Value)
  /-- A table between braces, with its entries and the key whose value is being read. -/
  | table (entries : Entries) (key : List String)

/-- What a key is read for. -/
inductive Purpose where
  /-- To set a value. -/
  | pair
  /-- To begin a table. -/
  | table
  /-- To begin an item of a list of tables. -/
  | item
  deriving DecidableEq

/-- What may come next. -/
inductive Awaited where
  /-- The beginning of a pair or a header, or an empty line. -/
  | line
  /-- The end of a line. -/
  | lineEnd
  /-- The second bracket of the header of an item, or the key of the header of a table. -/
  | header
  /-- A segment of a key, behind the segments read before, the last one first. -/
  | segment (purpose : Purpose) (read : List String)
  /-- A dot, or what ends a key. -/
  | dotOrEnd (purpose : Purpose) (read : List String)
  /-- The equals sign of a pair between braces, on a line after that of its key. -/
  | equals (key : List String)
  /-- The second closing bracket of the header of an item. -/
  | bracket (key : List String)
  /-- A value. -/
  | value
  /-- An item of an array, or its end. -/
  | itemOrEnd
  /-- A key in a table between braces, or its end. -/
  | keyOrEnd
  /-- More of a bare value, of which a text has been read, and blanks behind it. -/
  | bare (text blanks : List Char)
  /-- What follows a value inside an array or a table: a comma or the end. -/
  | commaOrEnd

/-- How far reading has come. -/
structure Reading where
  document : Document
  /-- What has been begun, the innermost first. -/
  stack : List Container
  awaited : Awaited

namespace Reading

/-- Awaits something else. -/
def await (r : Reading) (a : Awaited) : Option Reading := some { r with awaited := a }

/-- Files a complete value into what has been begun last. -/
def complete (r : Reading) (v : Value) : Option Reading :=
  match r.stack with
  | .pair key :: rest => do
    return ⟨← r.document.assign key v, rest, .lineEnd⟩
  | .array items :: rest =>
    some { r with stack := .array (v :: items) :: rest, awaited := .commaOrEnd }
  | .table entries key :: rest => do
    let entries ← entries.assign key v
    return { r with stack := .table entries [] :: rest, awaited := .commaOrEnd }
  | [] => none

/-- How many arrays and tables between braces are open. -/
def depth (r : Reading) : Nat :=
  r.stack.countP fun
    | .pair _ => false
    | _ => true

/-- Begins an array or a table between braces. -/
def begin (r : Reading) (c : Container) (a : Awaited) : Option Reading :=
  if r.depth < maxDepth then some { r with stack := c :: r.stack, awaited := a } else none

/-- Reads a token that is to begin a value. -/
def beginValue (r : Reading) : Token → Option Reading
  | .quoted _ s => r.complete (.string s)
  | .word text => r.await (.bare text [])
  | .dot => r.await (.bare ['.'] [])
  | .beginBracket => r.begin (.array []) .itemOrEnd
  | .beginBrace => r.begin (.table ∅ []) .keyOrEnd
  | _ => none

/-- Ends the array or the table that has been begun last. -/
def close (r : Reading) (t : Token) : Option Reading :=
  match t, r.stack with
  | .endBracket, .array items :: rest =>
    { r with stack := rest }.complete (.ofItems items.reverse)
  | .endBrace, .table entries _ :: rest =>
    { r with stack := rest }.complete (.ofEntries .inline entries)
  | _, _ => none

/-- Whether a character may stand in a bare key. -/
def isKeyChar (c : Char) : Bool := c.isAlphanum || c == '_' || c == '-'

/-- The segment of a key that a token is. -/
def segment? : Token → Option String
  | .word text => if text.all isKeyChar = true then some (String.ofList text) else none
  | .quoted false s => some s
  | _ => none

/-- Reads a segment of a key. -/
def readSegment (r : Reading) (purpose : Purpose) (read : List String) (t : Token) :
    Option Reading :=
  match segment? t with
  | some s => if read.length < maxSegments then r.await (.dotOrEnd purpose (s :: read)) else none
  | none => none

/-- Ends a key. -/
def endKey (r : Reading) (purpose : Purpose) (key : List String) (t : Token) : Option Reading :=
  match purpose, t with
  | .pair, .equals =>
    match r.stack with
    | .table entries _ :: rest =>
      some { r with stack := .table entries key :: rest, awaited := .value }
    | stack => some { r with stack := .pair key :: stack, awaited := .value }
  | .table, .endBracket => do
    return { r with document := ← r.document.openTable key, awaited := .lineEnd }
  | .item, .endBracket => r.await (.bracket key)
  | _, _ => none

/-- Whether a table between braces has been begun last. -/
def inBraces (r : Reading) : Bool :=
  match r.stack with
  | .table _ _ :: _ => true
  | _ => false

/-- Reads the end of a line where blanks may stand. -/
def readNewline (r : Reading) (a : Awaited) : Option Reading :=
  if r.inBraces then r.await a else none

/-- Reads a token where no bare value goes on. -/
def read (r : Reading) (t : Token) : Option Reading :=
  match r.awaited, t with
  | .line, .blanks _ => some r
  | .line, .newline => some r
  | .line, .beginBracket => r.await .header
  | .line, t => r.readSegment .pair [] t
  | .lineEnd, .blanks _ => some r
  | .lineEnd, .newline => r.await .line
  | .header, .beginBracket => r.await (.segment .item [])
  | .header, .blanks _ => r.await (.segment .table [])
  | .header, t => r.readSegment .table [] t
  | .segment _ _, .blanks _ => some r
  | .segment purpose read, t => r.readSegment purpose read t
  | .dotOrEnd _ _, .blanks _ => some r
  | .dotOrEnd purpose read, .dot => r.await (.segment purpose read)
  | .dotOrEnd _ read, .newline => r.readNewline (.equals read.reverse)
  | .dotOrEnd purpose read, t => r.endKey purpose read.reverse t
  | .equals _, .blanks _ => some r
  | .equals _, .newline => some r
  | .equals key, t => r.endKey .pair key t
  | .bracket key, .endBracket => do
    return { r with document := ← r.document.openItem key, awaited := .lineEnd }
  | .value, .blanks _ => some r
  | .value, .newline => r.readNewline .value
  | .value, t => r.beginValue t
  | .itemOrEnd, .blanks _ => some r
  | .itemOrEnd, .newline => some r
  | .itemOrEnd, .endBracket => r.close .endBracket
  | .itemOrEnd, t => r.beginValue t
  | .keyOrEnd, .blanks _ => some r
  | .keyOrEnd, .newline => some r
  | .keyOrEnd, .endBrace => r.close .endBrace
  | .keyOrEnd, t => r.readSegment .pair [] t
  | .commaOrEnd, .blanks _ => some r
  | .commaOrEnd, .newline => some r
  | .commaOrEnd, .comma =>
    r.await (match r.stack with
      | .array _ :: _ => .itemOrEnd
      | _ => .keyOrEnd)
  | .commaOrEnd, t => r.close t
  | _, _ => none

/-- Reads one token. -/
def next (r : Reading) (t : Token) : Option Reading :=
  match r.awaited with
  | .bare text blanks =>
    match t with
    | .word more => r.await (.bare (text ++ blanks ++ more) [])
    | .dot => r.await (.bare (text ++ blanks ++ ['.']) [])
    | .blanks more => r.await (.bare text (blanks ++ more))
    | t => do
      let v ← Value.ofBare? text
      (← r.complete v).read t
  | _ => r.read t

end Reading

/-- The entries of the document that a list of tokens stands for. -/
def ofTokens? (tokens : List Token) : Option Entries :=
  match (tokens ++ [Token.newline]).foldlM Reading.next ⟨.empty, [], .line⟩ with
  | some ⟨document, [], .line⟩ => some document.root
  | _ => none

/-- The entries of the document that a text stands for. -/
def parse? (text : String) : Option Entries := (tokens text.toList).bind ofTokens?

end Toml

end AttributeGateway
