import QueryBuilder.Toml.Value

/-!
# Tables under construction

While a document is read, a table may still be added to, and how depends on what brought it
about. A table named by a header may not be named by a second one; a table that is only
passed on the way to another may get a header of its own; a table made by a dotted key is
extended by dotted keys only. Values, inline tables among them, are closed.
-/

namespace QueryBuilder.Toml
set_option autoImplicit false

/-- What brought a table about. -/
inductive Origin where
  /-- A header that names the table. -/
  | header
  /-- A header that names a table below it. -/
  | passed
  /-- A dotted key. -/
  | dotted
  deriving DecidableEq

/-- What stands under a key of a table under construction. -/
inductive Node where
  | value (v : Value)
  | table (origin : Origin) (entries : List (String × Node))
  /-- An array whose elements are tables with headers of their own; the last one is open. -/
  | elements (tables : List (List (String × Node)))

/-- The entries of a table under construction. -/
abbrev Entries := List (String × Node)

namespace Entries

/-- Puts a node under a key: in the place of the old one, else at the end. -/
def put (key : String) (n : Node) : Entries → Entries
  | [] => [(key, n)]
  | (k, m) :: rest => if k = key then (k, n) :: rest else (k, m) :: put key n rest

/-- Changes the last table of an array. -/
def updateLast? (f : Entries → Option Entries) : List Entries → Option (List Entries)
  | [] => none
  | [t] => (f t).map ([·])
  | t :: rest => (updateLast? f rest).map (t :: ·)

/-- Changes the table at a path of header keys. Tables that are missing on the way are made;
an array of tables is entered at its last element. -/
def descend? (f : Entries → Option Entries) : List String → Entries → Option Entries
  | [], es => f es
  | k :: path, es =>
    match es.lookup k with
    | none => (descend? f path []).map fun sub => put k (.table .passed sub) es
    | some (.table origin sub) =>
      (descend? f path sub).map fun sub => put k (.table origin sub) es
    | some (.elements ts) =>
      (updateLast? (descend? f path) ts).map fun ts => put k (.elements ts) es
    | some (.value _) => none

/-- Opens the table that a header names below the entries. -/
def openTable? (key : String) (es : Entries) : Option Entries :=
  match es.lookup key with
  | none => some (put key (.table .header []) es)
  | some (.table .passed sub) => some (put key (.table .header sub) es)
  | some _ => none

/-- Opens one more element of the array of tables that a header names below the entries. -/
def openElement? (key : String) (es : Entries) : Option Entries :=
  match es.lookup key with
  | none => some (put key (.elements [[]]) es)
  | some (.elements ts) => some (put key (.elements (ts ++ [[]])) es)
  | some _ => none

/-- Enters a value under a dotted key. Every table on the way but the last may be a passed or
a dotted one; the last, which gets the value, has to be dotted. -/
def enter? (v : Value) : List String → Entries → Option Entries
  | [], _ => none
  | [key], es => if (es.lookup key).isSome then none else some (put key (.value v) es)
  | k :: path, es =>
    match es.lookup k with
    | none => (enter? v path []).map fun sub => put k (.table .dotted sub) es
    | some (.table .header _) => none
    | some (.table origin sub) =>
      if path.length = 1 && origin != .dotted then none
      else (enter? v path sub).map fun sub => put k (.table origin sub) es
    | some (.elements ts) =>
      if path.length = 1 then none
      else (updateLast? (enter? v path) ts).map fun ts => put k (.elements ts) es
    | some (.value _) => none

end Entries

mutual

/-- The value of a node of a finished table. -/
def Node.close : Node → Value
  | .value v => v
  | .table _ es => .table (closeEntries es)
  | .elements ts => .array (closeTables ts)

/-- The values of a finished table. -/
def closeEntries : Entries → Table
  | [] => []
  | (k, n) :: rest => (k, n.close) :: closeEntries rest

/-- The values of finished tables. -/
def closeTables : List Entries → List Value
  | [] => []
  | es :: rest => .table (closeEntries es) :: closeTables rest

end

end QueryBuilder.Toml
