import KeaGauge.Toml.Value
/-!
# Tables under construction

The statements of a document build one table. A table comes into being in one
of three ways: by a header or as an element of a list of tables, on the way
to a deeper header, or on the way of a dotted key. Which of them decides what
later statements may add: no statement defines anything twice, a header may
still head a table that was only passed on the way to deeper headers, and
dotted keys add to no table that has a header of its own.
-/

namespace KeaGauge.Toml

/-- How a table came into being. -/
inductive Origin where
  /-- By a header, as an element of a list of tables, or as the document. -/
  | headed
  /-- On the way to a deeper header. -/
  | passed
  /-- On the way of a dotted key. -/
  | dotted
deriving DecidableEq, Repr

/-- What a table under construction holds under a key: a finished value, a
table, or a list of tables. -/
inductive Node where
  | value (v : Value)
  | table (origin : Origin) (entries : List (String × Node))
  | tables (elements : List Node)
deriving Inhabited

/-- The entries of a table under construction. -/
abbrev Entries := List (String × Node)

namespace Entries

/-- What stands under a key. -/
def get? (entries : Entries) (key : String) : Option Node := List.lookup key entries

/-- Adds an entry behind the others. -/
def append (entries : Entries) (key : String) (node : Node) : Entries := entries ++ [(key, node)]

/-- Replaces what stands under a key. -/
def replace (entries : Entries) (key : String) (node : Node) : Entries :=
  entries.map fun e => if e.1 = key then (key, node) else e

/-- The entries without that of a key. -/
def erase (entries : Entries) (key : String) : Entries := entries.filter (·.1 ≠ key)

end Entries

/-- A change to a table, which may fail and may have a result. -/
abbrev Change (α : Type) := Origin → Entries → Option (α × Entries)

/-- Makes a change to the table that a path leads to. Missing tables on the
way are made; a list of tables leads to its last element. A path of dotted
keys leads through no table with a header of its own. -/
def within (dotted : Bool) {α : Type} (change : Change α) : (path : List String) → Change α
  | [], origin, entries => change origin entries
  | key :: path, _, entries =>
    match entries.get? key with
    | none => do
      let origin := if dotted then .dotted else .passed
      let (result, inner) ← within dotted change path origin []
      return (result, entries.append key (.table origin inner))
    | some (.table origin inner) =>
      if dotted ∧ origin = .headed then none
      else do
        let (result, inner) ← within dotted change path origin inner
        return (result, entries.replace key (.table origin inner))
    | some (.tables elements) =>
      match elements.getLast? with
      | some (.table origin inner) => do
        let (result, inner) ← within dotted change path origin inner
        return (result, entries.replace key (.tables (elements.dropLast ++ [.table origin inner])))
      | _ => none
    | some (.value _) => none

/-- Sets a key that is not set. The table must have come into being by a
dotted key exactly when one led to it. -/
def setKey (isDotted : Bool) (key : String) (v : Value) : Change Unit := fun origin entries =>
  if (origin = .dotted ↔ isDotted) ∧ (entries.get? key).isNone then
    some ((), entries.append key (.value v))
  else none

/-- The path to a table and the key of what is meant in it. -/
structure Key where
  path : List String
  last : String
deriving DecidableEq, Repr

/-- Adds a key and its value to a table that has a header. -/
def Entries.set? (entries : Entries) (key : Key) (v : Value) : Option Entries :=
  (within true (setKey (!key.path.isEmpty) key.last v) key.path .headed entries).map (·.2)

/-- Takes out the table that a header is going to head: nothing, or a table
that was only passed so far. -/
def takeOut (key : String) : Change Entries := fun _ entries =>
  match entries.get? key with
  | none => some ([], entries)
  | some (.table .passed inner) => some (inner, entries.erase key)
  | some _ => none

/-- Puts in a table that has a header. -/
def putIn (key : String) (inner : Entries) : Change Unit := fun _ entries =>
  match entries.get? key with
  | none => some ((), entries.append key (.table .headed inner))
  | some _ => none

/-- Makes sure that a list of tables stands under a key. -/
def makeList (key : String) : Change Unit := fun _ entries =>
  match entries.get? key with
  | none => some ((), entries.append key (.tables []))
  | some (.tables _) => some ((), entries)
  | some _ => none

/-- Adds an element to a list of tables. -/
def addElement (key : String) (inner : Entries) : Change Unit := fun _ entries =>
  match entries.get? key with
  | some (.tables elements) =>
    some ((), entries.replace key (.tables (elements ++ [.table .headed inner])))
  | _ => none

/-- Where the statements of a document go: into the document itself, the
table of a header, or a new element of a list of tables. -/
inductive Target where
  | document
  | table (key : Key)
  | element (key : Key)

/-- A document under construction: what is finished, and the table that the
next statements go into. -/
structure Draft where
  finished : Entries
  target : Target
  entries : Entries

namespace Draft

/-- The document without statements. -/
def empty : Draft := ⟨[], .document, []⟩

/-- The document with the table that the last statements went into. -/
def close? (d : Draft) : Option Entries :=
  match d.target with
  | .document => some d.entries
  | .table key => (within false (putIn key.last d.entries) key.path .headed d.finished).map (·.2)
  | .element key =>
    (within false (addElement key.last d.entries) key.path .headed d.finished).map (·.2)

/-- Sets a key. -/
def set? (d : Draft) (key : Key) (v : Value) : Option Draft := do
  return { d with entries := ← d.entries.set? key v }

/-- Goes on with the table of a header. -/
def openTable? (d : Draft) (key : Key) : Option Draft := do
  let (inner, finished) ← within false (takeOut key.last) key.path .headed (← d.close?)
  return ⟨finished, .table key, inner⟩

/-- Goes on with a new element of a list of tables. -/
def openElement? (d : Draft) (key : Key) : Option Draft := do
  let ((), finished) ← within false (makeList key.last) key.path .headed (← d.close?)
  return ⟨finished, .element key, []⟩

end Draft

mutual

/-- The value of a finished node. -/
def Node.finish : Node → Value
  | .value v => v
  | .table _ entries => .table (finishEntries entries)
  | .tables elements => .list (finishElements elements)
termination_by structural node => node

/-- The values of finished entries. -/
def finishEntries : List (String × Node) → List (String × Value)
  | [] => []
  | entry :: rest => finishEntry entry :: finishEntries rest
termination_by structural entries => entries

/-- The value of a finished entry. -/
def finishEntry : String × Node → String × Value
  | (key, node) => (key, node.finish)
termination_by structural entry => entry

/-- The values of finished elements. -/
def finishElements : List Node → List Value
  | [] => []
  | node :: rest => node.finish :: finishElements rest
termination_by structural elements => elements

end

end KeaGauge.Toml
