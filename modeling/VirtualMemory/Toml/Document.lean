import VirtualMemory.Toml.Moment
import VirtualMemory.Toml.Number
import VirtualMemory.Toml.Table

/-!
# Documents

A TOML document is a list of statements, each on lines of its own: keys with values, and headers
that say which table the keys behind them belong to.  `Document.parse` reads a document and
answers with its table.
-/

namespace VirtualMemory.Toml

namespace Reader

/-- A dotted key: the keys before the last point, and the last key. -/
abbrev Path : Type := List String × String

/-- The number of keys that a dotted key must stay below, and of values one within the other. -/
def nestingLimit : Nat := 80

/-- A character of a key without quotes. -/
def isBare (c : Char) : Bool := c.isAlphanum || c == '-' || c == '_'

/-- Reads a key without points. -/
def simpleKey : Reader String :=
  basicString <|> literalString <|> String.ofList <$> span1 isBare

/-- Reads a dotted key with the blanks around it. -/
def keyPath : Reader Path := do
  let keys ← separated (blanks *> simpleKey <* blanks) (char '.')
  match keys.getLast? with
  | some last => if keys.length < nestingLimit then pure (keys.dropLast, last) else failure
  | none => failure

/-- Reads a truth value. -/
def boolean : Reader Bool :=
  (do text "true"; pure true) <|> (do text "false"; pure false)

/-- Reads a value that holds no other. -/
def scalar : Reader Value :=
  Value.string <$> quoted <|>
    (do moment; pure Value.moment) <|>
    Value.float <$> float <|>
    Value.integer <$> integer <|>
    Value.boolean <$> boolean

/-- Reads a list of values between brackets. -/
def array (item : Reader Value) : Reader Value := do
  char '['
  gap
  let items ← optionally (separated item (gap *> char ',' *> gap))
  gap
  if items.isSome then
    discard (optionally (char ','))
    gap
  char ']'
  pure (.array (items.getD []))

/-- Reads a key with its value. -/
def pair (item : Reader Value) : Reader (Path × Value) := do
  let path ← keyPath
  char '='
  blanks
  let v ← item
  blanks
  pure (path, v)

/-- Reads a table between braces. -/
def inlineTable (item : Reader Value) : Reader Value := do
  char '{'
  let pairs ← optionally (separated (pair item) (char ','))
  blanks
  char '}'
  match (pairs.getD []).foldlM (fun t ((path, key), v) => Table.add path key v t)
      (⟨.inline, []⟩ : Table) with
  | some t => pure (.table .inline t.entries)
  | none => failure

/-- Reads a value that holds values down to a depth. -/
def value : (depth : Nat) → Reader Value
  | 0 => scalar
  | depth + 1 => scalar <|> array (value depth) <|> inlineTable (value depth)

end Reader

/-- A statement of a document. -/
inductive Statement
  /-- A key gets a value. -/
  | assign (path : Reader.Path) (v : Value)
  /-- The keys behind belong to a table. -/
  | header (path : Reader.Path)
  /-- The keys behind belong to a new table of an array. -/
  | arrayHeader (path : Reader.Path)

namespace Statement

open Reader

/-- Reads a header. -/
def readHeader : Reader Statement :=
  (do
    text "[["
    let path ← keyPath
    text "]]"
    lineEnd
    pure (arrayHeader path)) <|>
  (do
    char '['
    let path ← keyPath
    char ']'
    lineEnd
    pure (header path))

/-- Reads a key with its value. -/
def readAssign : Reader Statement := do
  let (path, v) ← pair (value (nestingLimit - 1))
  lineEnd
  pure (assign path v)

/-- Reads a line without a statement, or a statement. -/
def read? : Reader (Option Statement) := do
  blanks
  (do newline; pure none) <|> (do comment; newline <|> finish; pure none) <|>
    some <$> readHeader <|> some <$> readAssign

/-- Reads all statements. -/
def readAll : Reader (List Statement) := do
  discard (optionally (char '\uFEFF'))
  let lines ← many read?
  blanks
  finish
  pure (lines.filterMap id)

end Statement

/-- A document on the way: its table, and the keys down to the table of the last header. -/
structure Document where
  root : Table
  current : List String

namespace Document

/-- The document without statements. -/
def empty : Document := ⟨⟨.header, []⟩, []⟩

/-- Carries out a statement, if the statements before it allow it. -/
def apply (d : Document) : Statement → Option Document
  | .assign (path, key) v => do
    let root ← d.root.editAt .implicit (Table.add path key v) d.current
    some ⟨root, d.current⟩
  | .header (path, key) => do
    let root ← d.root.openTable path key
    some ⟨root, path ++ [key]⟩
  | .arrayHeader (path, key) => do
    let root ← d.root.openArray path key
    some ⟨root, path ++ [key]⟩

/-- The keys of a document with their values, in the order in which they first stand in it. -/
def parse (text : String) : Option Entries := do
  let (statements, _) ← Statement.readAll text.toList
  let d ← statements.foldlM apply empty
  some d.root.entries

end Document

end VirtualMemory.Toml
