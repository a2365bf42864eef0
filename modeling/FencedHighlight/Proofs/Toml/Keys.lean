import Mathlib.Data.List.Nodup
import FencedHighlight.Toml.Reader

namespace FencedHighlight
namespace Toml

/-!
The keys of what is read.

No table of a document has two values under one key, at any depth.  A key is put into a table
in place of the one that is there, or else it is new, so every change of a table keeps its
keys distinct, also the changes far down a path of keys.  All tables that a reader gives are
made in this way.
-/

/-- Whether the keys in a value are distinct, at any depth. -/
inductive Value.DistinctKeys : Value -> Prop where
  | string (text : String) : DistinctKeys (.string text)
  | integer (value : Int) : DistinctKeys (.integer value)
  | float : DistinctKeys .float
  | boolean (value : Bool) : DistinctKeys (.boolean value)
  | moment (text : String) : DistinctKeys (.moment text)
  | array {items : List Value} (all : ∀ item ∈ items, DistinctKeys item) :
      DistinctKeys (.array items)
  | table {entries : List (String × Value)} (nodup : (entries.map Prod.fst).Nodup)
      (all : ∀ entry ∈ entries, DistinctKeys entry.2) : DistinctKeys (.table entries)

/-- Whether the keys under a node are distinct, at any depth. -/
inductive Node.DistinctKeys : Node -> Prop where
  | value {value : Value} (distinct : value.DistinctKeys) : DistinctKeys (.value value)
  | table {implicit dotted : Bool} {entries : List (String × Node)}
      (nodup : (entries.map Prod.fst).Nodup)
      (all : ∀ entry ∈ entries, DistinctKeys entry.2) :
      DistinctKeys (.table implicit dotted entries)
  | tables {items : List (List (String × Node))}
      (nodup : ∀ entries ∈ items, (entries.map Prod.fst).Nodup)
      (all : ∀ entries ∈ items, ∀ entry ∈ entries, DistinctKeys entry.2) :
      DistinctKeys (.tables items)

/-! ## Tables -/

namespace Table

/-- Whether the keys of a table are distinct, at any depth. -/
structure DistinctKeys (table : Table) : Prop where
  nodup : (table.entries.map Prod.fst).Nodup
  all : ∀ entry ∈ table.entries, entry.2.DistinctKeys

variable {table changed : Table} {key : String} {node : Node}

theorem distinctKeys_nil (implicit dotted : Bool) :
    DistinctKeys { implicit, dotted, entries := [] } :=
  ⟨List.nodup_nil, fun _ listed => absurd listed List.not_mem_nil⟩

theorem DistinctKeys.toNode (distinct : table.DistinctKeys) :
    Node.DistinctKeys (.table table.implicit table.dotted table.entries) :=
  .table distinct.nodup distinct.all

theorem DistinctKeys.of_get? (distinct : table.DistinctKeys)
    (found : table.get? key = some node) : node.DistinctKeys := by
  rcases List.lookup_eq_some_iff.mp found with ⟨sooner, later, split, _⟩
  refine distinct.all (key, node) ?_
  rw [split]
  exact List.mem_append_right _ List.mem_cons_self

theorem DistinctKeys.set (distinct : table.DistinctKeys) (new : node.DistinctKeys)
    (key : String) : (table.set key node).DistinctKeys := by
  unfold Table.set
  split
  · -- The node takes the place of the one under its key.
    have same : ∀ entry ∈ table.entries,
        (Prod.fst ∘ fun entry => if entry.1 = key then (key, node) else entry) entry =
          entry.1 := by
      intro entry _
      rw [Function.comp_apply]
      split
      · rename_i here
        exact here.symm
      · rfl
    refine ⟨?_, ?_⟩
    · rw [List.map_map, List.map_congr_left same]
      exact distinct.nodup
    · intro entry listed
      rcases List.mem_map.mp listed with ⟨old, known, rfl⟩
      split
      · exact new
      · exact distinct.all old known
  · rename_i absent
    have fresh : key ∉ table.entries.map Prod.fst := by
      intro listed
      rcases List.mem_map.mp listed with ⟨entry, known, rfl⟩
      have missing := List.lookup_eq_none_iff.mp (Option.not_isSome_iff_eq_none.mp absent)
      exact absurd (missing entry known) (by simp)
    refine ⟨?_, ?_⟩
    · rw [List.map_append, List.map_singleton, ← List.concat_eq_append]
      exact distinct.nodup.concat fresh
    · intro entry listed
      rcases List.mem_append.mp listed with old | last
      · exact distinct.all entry old
      · rw [List.mem_singleton.mp last]
        exact new

theorem DistinctKeys.erase (distinct : table.DistinctKeys) (key : String) :
    (table.erase key).DistinctKeys := by
  have kept : (table.erase key).entries.Sublist table.entries := List.filter_sublist
  exact ⟨distinct.nodup.sublist (kept.map Prod.fst),
    fun entry listed => distinct.all entry (kept.subset listed)⟩

/-- The tables of an array, with another one in the place of the last one or after it. -/
theorem distinctKeys_tables {items : List (List (String × Node))}
    (others : ∀ entries ∈ items, DistinctKeys { entries }) (last : changed.DistinctKeys) :
    Node.DistinctKeys (.tables (items ++ [changed.entries])) := by
  have each : ∀ entries ∈ items ++ [changed.entries], DistinctKeys { entries } := by
    intro entries listed
    rcases List.mem_append.mp listed with old | new
    · exact others entries old
    · rw [List.mem_singleton.mp new]
      exact ⟨last.nodup, last.all⟩
  exact .tables (fun entries listed => (each entries listed).nodup)
    fun entries listed => (each entries listed).all

theorem distinctKeys_of_tables {items : List (List (String × Node))}
    (distinct : Node.DistinctKeys (.tables items)) :
    ∀ entries ∈ items, DistinctKeys { entries } := by
  cases distinct with
  | tables nodup all => exact fun entries listed => ⟨nodup entries listed, all entries listed⟩

/-- A change that keeps keys distinct does so at the end of every path. -/
theorem DistinctKeys.alter {dotted : Bool} {change : Table -> Option Table}
    (keeps : ∀ {table changed : Table}, table.DistinctKeys -> change table = some changed ->
      changed.DistinctKeys) :
    (path : List String) -> {table changed : Table} -> table.DistinctKeys ->
      table.alter dotted change path = some changed -> changed.DistinctKeys
  | [], _, _, distinct, altered => keeps distinct altered
  | key :: path, table, changed, distinct, altered => by
      rw [Table.alter] at altered
      cases found : table.get? key with
      | none =>
          rw [found] at altered
          rcases Option.bind_eq_some_iff.mp altered with ⟨inner, further, same⟩
          cases same
          exact distinct.set (alter keeps path (distinctKeys_nil true dotted) further).toNode key
      | some node =>
          rw [found] at altered
          have known := distinct.of_get? found
          cases node with
          | value => cases altered
          | table implicit isDotted entries =>
              cases known with
              | table nodup all =>
                  dsimp only at altered
                  split at altered
                  · cases altered
                  · rcases Option.bind_eq_some_iff.mp altered with ⟨inner, further, same⟩
                    cases same
                    exact distinct.set (alter keeps path ⟨nodup, all⟩ further).toNode key
          | tables items =>
              -- The path goes on in the last table, which the changed one takes the place of.
              have each := distinctKeys_of_tables known
              rcases Option.bind_eq_some_iff.mp altered with ⟨last, ends, rest⟩
              rcases Option.bind_eq_some_iff.mp rest with ⟨inner, further, same⟩
              cases same
              have inside := alter keeps path (each last (List.mem_of_getLast? ends)) further
              refine distinct.set (distinctKeys_tables ?_ inside) key
              exact fun entries listed => each entries (List.dropLast_subset items listed)

theorem DistinctKeys.insertValue (distinct : table.DistinctKeys) {path : List String}
    {value : Value} (new : value.DistinctKeys)
    (inserted : table.insertValue path key value = some changed) : changed.DistinctKeys := by
  refine DistinctKeys.alter ?_ path distinct inserted
  intro inner filled known put
  split at put
  · cases put
  · cases put
    exact known.set (.value new) key

/-! ## Finished tables -/

theorem keys_entryValues : (entries : List (String × Node)) ->
    (entryValues entries).map Prod.fst = entries.map Prod.fst
  | [] => by rw [entryValues]; rfl
  | (key, _) :: rest => by
      rw [entryValues, List.map_cons, List.map_cons, keys_entryValues rest]

mutual

theorem distinctKeys_nodeValue : (node : Node) -> node.DistinctKeys ->
    (nodeValue node).DistinctKeys
  | .value _, .value distinct => by
      rw [nodeValue]
      exact distinct
  | .table _ _ entries, .table nodup all => by
      rw [nodeValue]
      refine .table ?_ (distinctKeys_entryValues entries all)
      rw [keys_entryValues]
      exact nodup
  | .tables items, .tables nodup all => by
      rw [nodeValue]
      exact .array (distinctKeys_tableValues items nodup all)

theorem distinctKeys_entryValues : (entries : List (String × Node)) ->
    (∀ entry ∈ entries, entry.2.DistinctKeys) ->
      ∀ entry ∈ entryValues entries, entry.2.DistinctKeys
  | [], _ => by
      rw [entryValues]
      exact List.forall_mem_nil _
  | (key, node) :: rest, all => by
      rw [entryValues]
      rw [List.forall_mem_cons] at all ⊢
      exact ⟨distinctKeys_nodeValue node all.1, distinctKeys_entryValues rest all.2⟩

theorem distinctKeys_tableValues : (items : List (List (String × Node))) ->
    (∀ entries ∈ items, (entries.map Prod.fst).Nodup) ->
    (∀ entries ∈ items, ∀ entry ∈ entries, entry.2.DistinctKeys) ->
      ∀ value ∈ tableValues items, value.DistinctKeys
  | [], _, _ => by
      rw [tableValues]
      exact List.forall_mem_nil _
  | entries :: rest, nodup, all => by
      rw [tableValues]
      rw [List.forall_mem_cons] at nodup all ⊢
      refine ⟨.table ?_ (distinctKeys_entryValues entries all.1),
        distinctKeys_tableValues rest nodup.2 all.2⟩
      rw [keys_entryValues]
      exact nodup.1

end

theorem DistinctKeys.values (distinct : table.DistinctKeys) :
    Value.DistinctKeys (.table table.values) :=
  distinctKeys_nodeValue (.table table.implicit table.dotted table.entries) distinct.toNode

end Table

/-! ## Values -/

theorem Scalar.distinctKeys_read? {chars : List Char} {value : Value}
    (found : read? chars = some value) : value.DistinctKeys := by
  unfold read? at found
  split at found
  · cases found
    exact .boolean true
  · split at found
    · cases found
      exact .boolean false
    · split at found
      · cases found
        exact .moment _
      · split at found
        · cases found
          exact .integer _
        · split at found
          · cases found
            exact .float
          · cases found

theorem distinctKeys_readScalar {chars rest : List Char} {value : Value}
    (read : readScalar chars = some (value, rest)) : value.DistinctKeys := by
  rcases Option.map_eq_some_iff.mp read with ⟨scalar, found, same⟩
  cases same
  exact Scalar.distinctKeys_read? found

mutual

/-- All that is read within a value has distinct keys, as each inline table is built from
an empty one. -/
theorem distinctKeys_readValue : (steps : Nat) -> {depth : Nat} -> {chars rest : List Char} ->
    {value : Value} -> readValue steps depth chars = some (value, rest) -> value.DistinctKeys
  | 0, _, _, _, _, read => by
      rw [readValue] at read
      cases read
  | steps + 1, depth, chars, rest, value, read => by
      unfold readValue at read
      split at read
      · rcases Option.map_eq_some_iff.mp read with ⟨⟨text, more⟩, _, same⟩
        cases same
        exact .string text
      · rcases Option.map_eq_some_iff.mp read with ⟨⟨text, more⟩, _, same⟩
        cases same
        exact .string text
      · split at read
        · cases read
        · rcases Option.map_eq_some_iff.mp read with ⟨⟨items, more⟩, inner, same⟩
          cases same
          exact .array (distinctKeys_readItems steps inner)
      · split at read
        · cases read
        · split at read
          · cases read
            exact .table List.nodup_nil (List.forall_mem_nil _)
          · rcases Option.map_eq_some_iff.mp read with ⟨⟨table, more⟩, inner, same⟩
            cases same
            exact (distinctKeys_readPairs steps (Table.distinctKeys_nil false false) inner).values
      · exact distinctKeys_readScalar read

theorem distinctKeys_readItems : (steps : Nat) -> {depth : Nat} -> {chars rest : List Char} ->
    {items : List Value} -> readItems steps depth chars = some (items, rest) ->
      ∀ item ∈ items, item.DistinctKeys
  | 0, _, _, _, _, read => by
      rw [readItems] at read
      cases read
  | steps + 1, depth, chars, rest, items, read => by
      unfold readItems at read
      split at read
      · cases read
        exact List.forall_mem_nil _
      · rcases Option.bind_eq_some_iff.mp read with ⟨⟨item, more⟩, first, later⟩
        have head := distinctKeys_readValue steps first
        dsimp only at later
        split at later
        · rcases Option.bind_eq_some_iff.mp later with ⟨⟨others, more⟩, further, same⟩
          cases same
          exact List.forall_mem_cons.mpr ⟨head, distinctKeys_readItems steps further⟩
        · cases later
          exact List.forall_mem_singleton.mpr head
        · cases later

theorem distinctKeys_readPairs : (steps : Nat) -> {depth : Nat} -> {chars rest : List Char} ->
    {table changed : Table} -> table.DistinctKeys ->
    readPairs steps depth table chars = some (changed, rest) -> changed.DistinctKeys
  | 0, _, _, _, _, _, _, read => by
      rw [readPairs] at read
      cases read
  | steps + 1, depth, chars, rest, table, changed, distinct, read => by
      unfold readPairs at read
      rcases Option.bind_eq_some_iff.mp read with ⟨⟨⟨path, key⟩, more⟩, _, marked⟩
      rcases Option.bind_eq_some_iff.mp marked with ⟨written, _, valued⟩
      rcases Option.bind_eq_some_iff.mp valued with ⟨⟨value, more⟩, first, put⟩
      rcases Option.bind_eq_some_iff.mp put with ⟨filled, inserted, later⟩
      have kept := distinct.insertValue (distinctKeys_readValue steps first) inserted
      split at later
      · exact distinctKeys_readPairs steps kept later
      · cases later
        exact kept
      · cases later

end

/-! ## Documents -/

namespace Document

/-- Whether the keys of what has been read are distinct, at any depth. -/
structure DistinctKeys (document : Document) : Prop where
  root : document.root.DistinctKeys
  current : document.current.DistinctKeys

variable {document changed : Document} {path : List String} {key : String}

theorem distinctKeys_empty : DistinctKeys {} :=
  ⟨Table.distinctKeys_nil false false, Table.distinctKeys_nil false false⟩

theorem DistinctKeys.settle (distinct : document.DistinctKeys) {table : Table}
    (settled : document.settle = some table) : table.DistinctKeys := by
  unfold Document.settle at settled
  split at settled
  · cases settled
    exact distinct.current
  · refine Table.DistinctKeys.alter ?_ _ distinct.root settled
    intro parent filled known put
    split at put
    · split at put
      · cases put
        exact known.set (Table.distinctKeys_tables (List.forall_mem_nil _) distinct.current) _
      · rename_i items found
        cases put
        have each := Table.distinctKeys_of_tables (known.of_get? found)
        exact known.set (Table.distinctKeys_tables each distinct.current) _
      · cases put
    · cases put
      exact known.set distinct.current.toNode _

theorem distinctKeys_tableAt? {dotted : Bool} : (path : List String) -> {table inner : Table} ->
    table.DistinctKeys -> tableAt? dotted path table = some inner -> inner.DistinctKeys
  | [], _, _, distinct, led => by
      cases led
      exact distinct
  | key :: path, table, inner, distinct, led => by
      unfold tableAt? at led
      split at led
      · cases led
        exact Table.distinctKeys_nil true dotted
      · rename_i found
        cases distinct.of_get? found with
        | table nodup all => exact distinctKeys_tableAt? path ⟨nodup, all⟩ led
      · rename_i found
        rcases Option.bind_eq_some_iff.mp led with ⟨last, ends, further⟩
        have each := Table.distinctKeys_of_tables (distinct.of_get? found)
        exact distinctKeys_tableAt? path (each last (List.mem_of_getLast? ends)) further
      · cases led

theorem DistinctKeys.beginTable (distinct : document.DistinctKeys)
    (begun : document.beginTable path key = some changed) : changed.DistinctKeys := by
  rcases Option.bind_eq_some_iff.mp begun with ⟨root, settled, rest⟩
  rcases Option.bind_eq_some_iff.mp rest with ⟨parent, led, rest⟩
  have whole := distinct.settle settled
  have known := distinctKeys_tableAt? path whole led
  -- Whatever the table begins with, the one that was there is taken out of its parent.
  have moved : ∀ {current : Table}, current.DistinctKeys ->
      ((root.alter false (fun parent => some (parent.erase key)) path).bind fun root =>
        some { root, current, place := some (path, key) : Document }) = some changed ->
      changed.DistinctKeys := by
    intro current filled erased
    rcases Option.bind_eq_some_iff.mp erased with ⟨without, altered, same⟩
    cases same
    refine ⟨Table.DistinctKeys.alter ?_ path whole altered, filled⟩
    intro inner without filled erases
    cases erases
    exact filled.erase key
  dsimp only at rest
  split at rest
  · exact moved (Table.distinctKeys_nil false false) rest
  · rename_i found
    cases known.of_get? found with
    | table nodup all => exact moved ⟨nodup, all⟩ rest
  · cases rest

theorem DistinctKeys.beginItem (distinct : document.DistinctKeys)
    (begun : document.beginItem path key = some changed) : changed.DistinctKeys := by
  rcases Option.bind_eq_some_iff.mp begun with ⟨root, settled, rest⟩
  rcases Option.bind_eq_some_iff.mp rest with ⟨prepared, altered, same⟩
  cases same
  refine ⟨?_, Table.distinctKeys_nil false false⟩
  refine Table.DistinctKeys.alter ?_ path (distinct.settle settled) altered
  intro parent filled known put
  split at put
  · cases put
    exact known.set (.tables (List.forall_mem_nil _) (List.forall_mem_nil _)) key
  · cases put
    exact known
  · cases put

theorem DistinctKeys.readLine (distinct : document.DistinctKeys) {chars rest : List Char}
    (read : document.readLine chars = some (changed, rest)) : changed.DistinctKeys := by
  unfold Document.readLine at read
  split at read
  · rcases Option.bind_eq_some_iff.mp read with ⟨⟨⟨path, key⟩, more⟩, _, closed⟩
    dsimp only at closed
    split at closed
    · rcases Option.bind_eq_some_iff.mp closed with ⟨begun, begins, same⟩
      cases same
      exact distinct.beginItem begins
    · cases closed
  · rcases Option.bind_eq_some_iff.mp read with ⟨⟨⟨path, key⟩, more⟩, _, closed⟩
    dsimp only at closed
    split at closed
    · rcases Option.bind_eq_some_iff.mp closed with ⟨begun, begins, same⟩
      cases same
      exact distinct.beginTable begins
    · cases closed
  · cases read
    exact distinct
  · split at read
    · cases read
      exact distinct
    · rcases Option.bind_eq_some_iff.mp read with ⟨⟨⟨path, key⟩, more⟩, _, marked⟩
      rcases Option.bind_eq_some_iff.mp marked with ⟨written, _, valued⟩
      rcases Option.bind_eq_some_iff.mp valued with ⟨⟨value, more⟩, first, put⟩
      rcases Option.bind_eq_some_iff.mp put with ⟨current, inserted, same⟩
      cases same
      exact ⟨distinct.root,
        distinct.current.insertValue (distinctKeys_readValue _ first) inserted⟩

theorem DistinctKeys.readLines : (steps : Nat) -> {document changed : Document} ->
    {chars : List Char} -> document.DistinctKeys ->
    readLines steps document chars = some changed -> changed.DistinctKeys
  | 0, _, _, _, _, read => by cases read
  | steps + 1, document, changed, chars, distinct, read => by
      rcases Option.bind_eq_some_iff.mp read with ⟨⟨further, rest⟩, line, later⟩
      have kept := distinct.readLine line
      dsimp only at later
      split at later
      · cases later
        exact kept
      · rcases Option.bind_eq_some_iff.mp later with ⟨rest, _, later⟩
        exact readLines steps kept later

end Document

/-- No table of a document has two values under one key. -/
theorem distinctKeys_parse {text : List Char} {entries : List (String × Value)}
    (parsed : parse text = some entries) : Value.DistinctKeys (.table entries) := by
  rcases Option.bind_eq_some_iff.mp parsed with ⟨document, read, rest⟩
  rcases Option.bind_eq_some_iff.mp rest with ⟨root, settled, same⟩
  cases same
  have distinct := Document.distinctKeys_empty.readLines _ read
  exact (distinct.settle settled).values

end Toml
end FencedHighlight
