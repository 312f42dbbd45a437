import RecordSearch.Document.Basic

/-!
# Tables under construction

The lines of a TOML text build its tables bit by bit. A table remembers how it came about, because a
header may open a table only once and dotted keys may extend only what dotted keys have made; a
value, inline tables included, is closed once it is written.
-/

namespace RecordSearch.Toml

inductive Origin where
  /-- Named on the way to a table below it. -/
  | implied
  /-- Made by a dotted key. -/
  | dotted
  /-- Opened by a header of its own. -/
  | header
  deriving DecidableEq

inductive Node where
  | value (d : Document)
  | table (origin : Origin) (entries : List (Text × Node))
  /-- An array of tables; the last one is still open. -/
  | tables (closed : List (List (Text × Node))) (last : List (Text × Node))

abbrev Entries := List (Text × Node)

/-- Puts a node at a key, in place of the one that is there. -/
def put (key : Text) (node : Node) (entries : Entries) : Entries :=
  if entries.any fun entry ↦ entry.1 == key then
    entries.map fun entry ↦ if entry.1 == key then (key, node) else entry
  else entries ++ [(key, node)]

/-- Changes the table at the end of a path, making the tables on the way. A path of dotted keys may
not enter a table that has a header. -/
def updateAt (dotted : Bool) (change : Origin → Entries → Option Entries) :
    (path : List Text) → Origin → Entries → Option Entries
  | [], origin, entries => change origin entries
  | key :: path, _, entries =>
    match entries.lookup key with
    | none => do
      let origin := if dotted then Origin.dotted else .implied
      let below ← updateAt dotted change path origin []
      return put key (.table origin below) entries
    | some (.value _) => none
    | some (.tables closed last) => do
      let below ← updateAt dotted change path .header last
      return put key (.tables closed below) entries
    | some (.table origin below) =>
      if dotted && origin == .header then none
      else do
        let below ← updateAt dotted change path origin below
        return put key (.table origin below) entries

/-- Adds a value under a dotted key whose last part is `key`. -/
def addValue (path : List Text) (key : Text) (d : Document) (entries : Entries) :
    Option Entries :=
  let add : Origin → Entries → Option Entries := fun origin entries ↦
    if (origin == .dotted) == path.isEmpty || (entries.lookup key).isSome then none
    else some (put key (.value d) entries)
  updateAt true add path .header entries

def openTable (path : List Text) (key : Text) (root : Entries) : Option Entries :=
  let openHere : Origin → Entries → Option Entries := fun _ entries ↦
    match entries.lookup key with
    | none => some (put key (.table .header []) entries)
    | some (.table .implied below) => some (put key (.table .header below) entries)
    | some _ => none
  updateAt false openHere path .header root

/-- Opens the next table of an array of tables. -/
def openNext (path : List Text) (key : Text) (root : Entries) : Option Entries :=
  let openHere : Origin → Entries → Option Entries := fun _ entries ↦
    match entries.lookup key with
    | none => some (put key (.tables [] []) entries)
    | some (.tables closed last) => some (put key (.tables (closed ++ [last]) []) entries)
    | some _ => none
  updateAt false openHere path .header root

/-- Adds a value to the table at a path of headers. -/
def addValueAt (table path : List Text) (key : Text) (d : Document) (root : Entries) :
    Option Entries :=
  updateAt false (fun _ entries ↦ addValue path key d entries) table .header root

mutual

def Node.toDocument : Node → Document
  | .value d => d
  | .table _ entries => .table (documentEntries entries)
  | .tables closed last =>
    .sequence (documentTables closed ++ [.table (documentEntries last)])

def documentTables : List (List (Text × Node)) → List Document
  | [] => []
  | entries :: rest => .table (documentEntries entries) :: documentTables rest

def documentEntries : List (Text × Node) → List (Text × Document)
  | [] => []
  | (key, node) :: entries => (key, node.toDocument) :: documentEntries entries

end

end RecordSearch.Toml
