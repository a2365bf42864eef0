namespace FencedHighlight
namespace Toml

/-!
TOML values, and tables under construction.

The tables of a document are built up from headers and dotted keys.  Whether a
table may still be added to depends on how it came about: a header defines its
table once, a dotted key may only go through tables that dotted keys have made,
and values are closed.
-/

/-- A value.  Of numbers with a fraction or an exponent only the kind is kept,
and moments in time are kept in their usual form. -/
inductive Value where
  | string (text : String)
  | integer (value : Int)
  | float
  | boolean (value : Bool)
  | moment (text : String)
  | array (items : List Value)
  | table (entries : List (String × Value))

namespace Value

def text? : Value -> Option String
  | string text => some text
  | _ => none

def boolean? : Value -> Option Bool
  | boolean value => some value
  | _ => none

def items? : Value -> Option (List Value)
  | array items => some items
  | _ => none

end Value

/-- Decode the value under a key.  A missing key stands for the given default;
nothing is decoded if the value has the wrong form. -/
def field? {α : Type} (decode : Value -> Option α) (default : α) (key : String)
    (entries : List (String × Value)) : Option α :=
  match entries.lookup key with
  | some value => decode value
  | none => some default

/-- What stands under a key while a document is read. -/
inductive Node where
  | value (value : Value)
  /-- A table.  It is implicit if no header has defined it, and dotted if a
  dotted key has made it. -/
  | table (implicit dotted : Bool) (entries : List (String × Node))
  /-- The tables of an array, each of which some header has begun. -/
  | tables (items : List (List (String × Node)))

/-- A table under construction. -/
structure Table where
  implicit : Bool := false
  dotted : Bool := false
  entries : List (String × Node) := []

namespace Table

def get? (table : Table) (key : String) : Option Node :=
  table.entries.lookup key

/-- Put a node in the place of the one under a key, or last. -/
def set (table : Table) (key : String) (node : Node) : Table :=
  { table with
    entries :=
      if (table.get? key).isSome then
        table.entries.map fun entry => if entry.1 = key then (key, node) else entry
      else
        table.entries ++ [(key, node)] }

def erase (table : Table) (key : String) : Table :=
  { table with entries := table.entries.filter fun entry => entry.1 != key }

/-- Change the table at the end of a path of keys.  Tables that are missing are
made on the way.  In an array of tables the path goes through the last one. -/
def alter (dotted : Bool) (change : Table -> Option Table) :
    (path : List String) -> Table -> Option Table
  | [], table => change table
  | key :: path, table =>
      match table.get? key with
      | none => do
          let inner <- alter dotted change path { implicit := true, dotted }
          return table.set key (.table inner.implicit inner.dotted inner.entries)
      | some (.table implicit isDotted entries) =>
          if dotted && !implicit then
            none
          else do
            let inner <- alter dotted change path ⟨implicit, isDotted, entries⟩
            return table.set key (.table inner.implicit inner.dotted inner.entries)
      | some (.tables items) => do
          let last <- items.getLast?
          let inner <- alter dotted change path { entries := last }
          return table.set key (.tables (items.dropLast ++ [inner.entries]))
      | some (.value _) => none

/-- Put a value under a dotted key, the last part of which is `key`. -/
def insertValue (table : Table) (path : List String) (key : String) (value : Value) :
    Option Table :=
  table.alter true (fun inner =>
    if inner.dotted = path.isEmpty || (inner.get? key).isSome then none
    else some (inner.set key (.value value))) path

mutual

def nodeValue : Node -> Value
  | .value value => value
  | .table _ _ entries => .table (entryValues entries)
  | .tables items => .array (tableValues items)

def entryValues : List (String × Node) -> List (String × Value)
  | [] => []
  | (key, node) :: rest => (key, nodeValue node) :: entryValues rest

/-- The values of the finished tables of an array. -/
def tableValues : List (List (String × Node)) -> List Value
  | [] => []
  | entries :: rest => .table (entryValues entries) :: tableValues rest

end

def values (table : Table) : List (String × Value) :=
  entryValues table.entries

end Table

end Toml
end FencedHighlight
