import FleetGate.Json.Value

/-!
# TOML documents

A document as a tree in the making. A table remembers how it came about, since that decides what
may still be added to it: a table with a header is complete once, a table that a longer header
implied may get its own header later, a table spelled by dotted keys grows by dotted keys alone, and
an inline table is closed.

`Document.toJson` forgets this and leaves the values.
-/

namespace FleetGate.Toml

/-- How a table came about. -/
inductive Origin where
  | header
  | implied
  | dotted
  | inline
  deriving DecidableEq, Repr

/-- A value of a document. -/
inductive Value where
  | str (s : String)
  | int (n : Int)
  | float (x : Float)
  | bool (b : Bool)
  | date (text : String)
  | arr (items : List Value)
  | table (origin : Origin) (members : List (String × Value))
  /-- Tables under one double-bracketed header, the latest first. -/
  | rows (tables : List (List (String × Value)))
  deriving Inhabited

/-- The members of a table. -/
abbrev Table := List (String × Value)

/-- What happens to the table at the end of a path, given its origin and its members. -/
abbrev Edit := Origin → Table → Option Table

/-- Changes the table at the end of a path, making the tables on the way that are missing. A path
of dotted keys does not pass a table that has a header; no path passes a value. -/
def editAt (dotted : Bool) : List String → Edit → Edit
  | [], edit, origin, table => edit origin table
  | key :: path, edit, _, table =>
    match Keyed.get? key table with
    | none =>
      let origin := if dotted then .dotted else .implied
      (editAt dotted path edit origin []).map fun t => Keyed.put key (.table origin t) table
    | some (.table origin inner) =>
      if origin = .inline ∨ (dotted ∧ origin = .header) then none
      else (editAt dotted path edit origin inner).map fun t => Keyed.put key (.table origin t) table
    | some (.rows (row :: rows)) =>
      (editAt dotted path edit .header row).map fun t => Keyed.put key (.rows (t :: rows)) table
    | some _ => none

/-- Adds a member that is not there yet. -/
def insert (key : String) (value : Value) (table : Table) : Option Table :=
  if Keyed.has key table then none else some (Keyed.put key value table)

/-- Adds a member under a key of one or more parts. Only tables that dotted keys made can be
extended by them. -/
def assign (path : List String) (key : String) (value : Value) : Edit :=
  editAt true path fun origin table =>
    if path ≠ [] ∧ origin ≠ .dotted then none else insert key value table

/-- Adds a member to an inline table. -/
def assignInline (path : List String) (key : String) (value : Value) (table : Table) :
    Option Table :=
  assign path key value .inline table

/-- Opens the table of a header. -/
def openTable (path : List String) (key : String) : Edit :=
  editAt false path fun _ table =>
    match Keyed.get? key table with
    | none => some (Keyed.put key (.table .header []) table)
    | some (.table .implied inner) => some (Keyed.put key (.table .header inner) table)
    | some _ => none

/-- Opens a new row of a double-bracketed header. -/
def openRow (path : List String) (key : String) : Edit :=
  editAt false path fun _ table =>
    match Keyed.get? key table with
    | none => some (Keyed.put key (.rows [[]]) table)
    | some (.rows rows) => some (Keyed.put key (.rows ([] :: rows)) table)
    | some _ => none

/-- The member that a date carries as an object. No record has a field of this name. -/
def dateMember : String := "$date"

mutual

/-- The value without the origins of its tables. A date becomes an object of one member. -/
def Value.toJson : Value → Json
  | .str s => .str s
  | .int n => .int n
  | .float x => .float x
  | .bool b => .bool b
  | .date text => .obj [(dateMember, .str text)]
  | .arr items => .arr (itemsJson items)
  | .table _ members => .obj (membersJson members)
  | .rows tables => .arr (rowsJson tables).reverse

/-- The items without the origins of their tables. -/
def itemsJson : List Value → List Json
  | [] => []
  | v :: rest => v.toJson :: itemsJson rest

/-- The members without the origins of their tables. -/
def membersJson : List (String × Value) → List (String × Json)
  | [] => []
  | (key, v) :: rest => (key, v.toJson) :: membersJson rest

/-- The rows without the origins of their tables. -/
def rowsJson : List (List (String × Value)) → List Json
  | [] => []
  | table :: rest => .obj (membersJson table) :: rowsJson rest

end

end FleetGate.Toml
