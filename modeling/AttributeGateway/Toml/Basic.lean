import AttributeGateway.KeyList

/-!
# TOML documents

A configuration is written as a TOML document: a table whose values are booleans, integers,
strings, arrays and tables. Floating-point numbers, dates and times are values too, but no setting
is one, so that it is enough to know that they stand there.

A table remembers how it was begun, because that decides what may still be added to it.

Main definitions: `Toml.Value`, `Entries.assign`, `Entries.openTable`, `Entries.openItem`.
-/

namespace AttributeGateway

namespace Toml

/-- How a table was begun. -/
inductive Origin where
  /-- By a header of its own, or as the document. -/
  | header
  /-- By a header of a table inside it. -/
  | implied
  /-- By a dotted key. -/
  | dotted
  /-- Between braces. -/
  | inline
  deriving DecidableEq, Repr

/-- A value of a document. -/
inductive Value where
  | boolean (b : Bool)
  | integer (i : Int)
  | string (s : String)
  /-- Some floating-point number. -/
  | real
  /-- Some date, time, or both. -/
  | moment
  /-- Values between brackets. -/
  | array (length : Nat) (item : Fin length → Value)
  /-- Tables that are begun by headers in double brackets, the first one and those after it. -/
  | tables (more : Nat) (item : Fin (more + 1) → Value)
  /-- A table. -/
  | table (origin : Origin) (keys : KeyList) (child : Fin keys.length → Value)

instance : Inhabited Value := ⟨.real⟩

/-- The entries of a table. -/
abbrev Entries := Table String Value

namespace Value

/-- The array of a list of items. -/
def ofItems (items : List Value) : Value := .array items.length items.get

/-- The table with the given entries. -/
def ofEntries (origin : Origin) (t : Entries) : Value := .table origin t.keyList t.child

end Value

namespace Entries

/-- The entries of a family over distinct keys. -/
def ofFamily (keys : KeyList) (child : Fin keys.length → Value) : Entries :=
  Table.ofList (keys.entries child)

/-- Changes the table that is reached along a path, given how it was begun and its entries. A table
that is not there is begun, and from a list of tables the path goes on into the last one. Nothing is
added to a table between braces, and a dotted key does not lead into a table that has a header of
its own. -/
def edit (dotted : Bool) (change : Origin → Entries → Option Entries) :
    List String → Origin → Entries → Option Entries
  | [], origin, t => change origin t
  | k :: path, _, t =>
    match t.get? k with
    | none => do
      let origin := if dotted then Origin.dotted else .implied
      let inner ← edit dotted change path origin ∅
      return t.insert k (.ofEntries origin inner)
    | some (.table origin keys child) =>
      if origin = .inline ∨ (dotted = true ∧ origin = .header) then none
      else do
        let inner ← edit dotted change path origin (ofFamily keys child)
        return t.insert k (.ofEntries origin inner)
    | some (.tables more item) =>
      match item (Fin.last more) with
      | .table origin keys child => do
        let inner ← edit dotted change path origin (ofFamily keys child)
        return t.insert k
          (.tables more fun i => if i = Fin.last more then .ofEntries origin inner else item i)
      | _ => none
    | some _ => none

/-- Sets the value of a key, of which all but the last segment lead into tables that were begun by
dotted keys. A key is set once. -/
def assign (t : Entries) (key : List String) (v : Value) : Option Entries :=
  let path := key.dropLast
  match key.getLast? with
  | none => none
  | some last =>
    edit true (fun origin t =>
      if (path ≠ [] ∧ origin ≠ .dotted) ∨ t.contains last = true then none
      else some (t.insert last v)) path .header t

/-- Begins the table of a header. A table has one header. -/
def openTable (t : Entries) (key : List String) : Option Entries :=
  match key.getLast? with
  | none => none
  | some last =>
    edit false (fun _ t =>
      match t.get? last with
      | none => some (t.insert last (.ofEntries .header ∅))
      | some (.table .implied keys child) => some (t.insert last (.table .header keys child))
      | some _ => none) key.dropLast .header t

/-- Begins the next table of the list of tables of a header. -/
def openItem (t : Entries) (key : List String) : Option Entries :=
  match key.getLast? with
  | none => none
  | some last =>
    edit false (fun _ t =>
      match t.get? last with
      | none => some (t.insert last (.tables 0 fun _ => .ofEntries .header ∅))
      | some (.tables more item) =>
        some (t.insert last (.tables (more + 1) fun i =>
          if h : i.val < more + 1 then item ⟨i.val, h⟩ else .ofEntries .header ∅))
      | some _ => none) key.dropLast .header t

end Entries

/-- A document that is being read. -/
structure Document where
  /-- All that has been read. -/
  root : Entries
  /-- The header under which lines are being read. -/
  heading : List String

namespace Document

/-- The document before the first line. -/
def empty : Document := ⟨∅, []⟩

/-- Sets a key under the present header. -/
def assign (d : Document) (key : List String) (v : Value) : Option Document := do
  let root ← Entries.edit false (fun _ t => Entries.assign t key v) d.heading .header d.root
  return { d with root }

/-- Goes on under the header of a table. -/
def openTable (d : Document) (key : List String) : Option Document := do
  return ⟨← Entries.openTable d.root key, key⟩

/-- Goes on under the header of an item of a list of tables. -/
def openItem (d : Document) (key : List String) : Option Document := do
  return ⟨← Entries.openItem d.root key, key⟩

end Document

end Toml

end AttributeGateway
