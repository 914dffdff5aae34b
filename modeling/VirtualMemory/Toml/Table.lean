import VirtualMemory.Toml.Value

/-!
# Tables under construction

How keys and headers add to a table.  A key must be new.  A dotted key reaches only into tables
that no header and no value has introduced.  A header introduces a table that is new, or that so
far was only on the way to others; it reaches through tables of any kind but values, and through
an array of tables into the last one.
-/

namespace VirtualMemory.Toml

/-- A table under construction. -/
structure Table where
  origin : Origin
  entries : Entries

namespace Table

/-- The value of a key. -/
def find? (t : Table) (key : String) : Option Value :=
  (t.entries.find? (·.1 = key)).map Prod.snd

/-- Puts a value in the place of that of an old key, or behind all for a new key. -/
def put (t : Table) (key : String) (v : Value) : Table :=
  if t.entries.any (·.1 = key) then
    { t with entries := t.entries.map fun e => if e.1 = key then (key, v) else e }
  else { t with entries := t.entries ++ [(key, v)] }

/-- Moves a key behind all others, with another value. -/
def putLast (t : Table) (key : String) (v : Value) : Table :=
  { t with entries := t.entries.filter (·.1 ≠ key) ++ [(key, v)] }

/-- Changes the table at the end of a path of keys.  Tables missing on the path are introduced
as `created`. -/
def editAt (created : Origin) (edit : Table → Option Table) : List String → Table → Option Table
  | [], t => edit t
  | key :: path, t =>
    match t.find? key with
    | none => do
      let below ← editAt created edit path ⟨created, []⟩
      some (t.put key (.table below.origin below.entries))
    | some (.table origin entries) =>
      if origin = .inline ∨ (created = .dotted ∧ origin = .header) then none
      else do
        let below ← editAt created edit path ⟨origin, entries⟩
        some (t.put key (.table below.origin below.entries))
    | some (.tables older newest) => do
      let below ← editAt created edit path ⟨.header, newest⟩
      some (t.put key (.tables older below.entries))
    | some _ => none

/-- Adds a new key.  A table introduced by a dotted key takes keys only through a dotted key, and
every other table only `direct` keys. -/
def addNew (direct : Bool) (key : String) (v : Value) (t : Table) : Option Table :=
  if decide (t.origin = .dotted) = direct then none
  else if (t.find? key).isSome then none
  else some (t.put key v)

/-- Adds a value under a dotted key: the keys before the last point, and the last key. -/
def add (path : List String) (key : String) (v : Value) (t : Table) : Option Table :=
  editAt .dotted (addNew path.isEmpty key v) path t

/-- Introduces the table of a header. -/
def openTable (path : List String) (key : String) (t : Table) : Option Table :=
  editAt .implicit (fun t =>
    match t.find? key with
    | none => some (t.put key (.table .header []))
    | some (.table .implicit entries) => some (t.putLast key (.table .header entries))
    | some _ => none) path t

/-- Introduces one more table of a header with double brackets. -/
def openArray (path : List String) (key : String) (t : Table) : Option Table :=
  editAt .implicit (fun t =>
    match t.find? key with
    | none => some (t.put key (.tables [] []))
    | some (.tables older newest) => some (t.put key (.tables (older ++ [newest]) []))
    | some _ => none) path t

end Table

end VirtualMemory.Toml
