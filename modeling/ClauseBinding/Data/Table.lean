/-!
Contract: finite maps from names, kept in the order in which names were first given.

Owns: lookup and insertion.

Does not own: what the names stand for.
-/

namespace ClauseBinding

/-- A finite map from names. Operations keep names distinct. -/
abbrev Table (α : Type) := List (String × α)

namespace Table

variable {α : Type}

def find?
    (table : Table α)
    (name : String) : Option α :=
  match table with
  | [] => none
  | (key, value) :: rest => if key = name then some value else find? rest name

/-- Give a name its entry, in place of the one it had. -/
def insert
    (table : Table α)
    (name : String)
    (value : α) : Table α :=
  match table with
  | [] => [(name, value)]
  | (key, old) :: rest =>
      if key = name then (key, value) :: rest else (key, old) :: insert rest name value

def contains
    (table : Table α)
    (name : String) : Bool :=
  (find? table name).isSome

def names (table : Table α) : List String :=
  table.map Prod.fst

/-- The table of some entries; of entries with one name the last counts. -/
def ofEntries (entries : List (String × α)) : Table α :=
  entries.foldl (fun table entry => insert table entry.1 entry.2) []

end Table

end ClauseBinding
