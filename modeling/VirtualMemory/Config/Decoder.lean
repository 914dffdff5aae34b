import VirtualMemory.Config.Document
import VirtualMemory.Toml.Document

/-!
# A decoder of configurations

Reads the keys of a table in their order, each as a setting of the defaults, and refuses the first
one that is not a setting or has a value of the wrong kind.  A mode is given by its name, or as the
one key of a table that says no more.  The errors have the wording of the messages for users.
-/

namespace VirtualMemory

/-- The mode with the given name. -/
def Mode.ofName? : String → Option Mode
  | "paged" => some paged
  | "identity" => some identity
  | _ => none

namespace Config

/-- The settings in the order of the messages. -/
def Setting.all : List Setting :=
  [pageSize, maxPages, handleCapacity, initialHeapSize, mode, traceAccess, dumpTables]

/-- The setting with a key. -/
def Setting.ofName? (key : String) : Option Setting := all.find? (·.name = key)

/-- The kinds of values that settings have, modes apart. -/
inductive Kind
  /-- A word of 64 bits. -/
  | word
  /-- A count of things in memory. -/
  | count
  /-- A truth value. -/
  | flag
deriving DecidableEq

/-- The name of a kind in messages. -/
def Kind.text : Kind → String
  | word => "u64"
  | count => "usize"
  | flag => "a boolean"

/-- The reasons why a text cannot be decoded. -/
inductive DecodeError
  /-- The text is not a document. -/
  | malformed
  /-- A key is not a setting. -/
  | unknownSetting (key : String)
  /-- A value is not of the kind of its setting. -/
  | unexpected (found : Toml.Value) (expected : Kind)
  /-- A number is below zero. -/
  | negative (value : Int) (expected : Kind)
  /-- A text does not name a mode. -/
  | unknownMode (name : String)
  /-- A mode is neither given as a text nor as the one key of a table that says no more. -/
  | notAMode

/-- A list of names between backquotes. -/
def nameList (names : List String) : String :=
  ", ".intercalate (names.map fun name => "`" ++ name ++ "`")

/-- The wording of a reason, for those that have one. -/
def DecodeError.message? : DecodeError → Option String
  | malformed => none
  | unknownSetting key =>
    some (s!"unknown field `{key}`, expected one of " ++ nameList (Setting.all.map Setting.name))
  | unexpected found expected =>
    some s!"invalid type: {found.description}, expected {expected.text}"
  | negative value expected => some s!"invalid value: integer `{value}`, expected {expected.text}"
  | unknownMode name => some s!"unknown variant `{name}`, expected `paged` or `identity`"
  | notAMode => none

/-- The table of a document. -/
def readTable (text : String) : Except DecodeError Toml.Entries :=
  match Toml.Document.parse text with
  | some entries => .ok entries
  | none => .error .malformed

/-- The number that a value gives. -/
def readNumber (kind : Kind) : Toml.Value → Except DecodeError Nat
  | .integer i => if 0 ≤ i then .ok i.toNat else .error (.negative i kind)
  | v => .error (.unexpected v kind)

/-- The truth value that a value gives. -/
def readFlag : Toml.Value → Except DecodeError Bool
  | .boolean b => .ok b
  | v => .error (.unexpected v .flag)

/-- The mode with a name. -/
def readModeName (name : String) : Except DecodeError Mode :=
  match Mode.ofName? name with
  | some m => .ok m
  | none => .error (.unknownMode name)

/-- Whether a value is an empty list or an empty table. -/
def isBlank : Toml.Value → Bool
  | .array [] => true
  | .table _ [] => true
  | _ => false

/-- The mode that a value gives: by its name, or by a table whose one key is its name, with nothing
below it. -/
def readMode : Toml.Value → Except DecodeError Mode
  | .string name => readModeName name
  | .table _ [(name, v)] => do
    let m ← readModeName name
    if isBlank v then pure m else throw .notAMode
  | _ => .error .notAMode

/-- Gives a setting another value. -/
def set (c : Config) (v : Toml.Value) : Setting → Except DecodeError Config
  | .pageSize => do return { c with pageSize := ← readNumber .word v }
  | .maxPages => do return { c with maxPages := ← readNumber .word v }
  | .handleCapacity => do return { c with handleCapacity := ← readNumber .count v }
  | .initialHeapSize => do return { c with initialHeapSize := ← readNumber .word v }
  | .mode => do return { c with mode := ← readMode v }
  | .traceAccess => do return { c with traceAccess := ← readFlag v }
  | .dumpTables => do return { c with dumpTables := ← readFlag v }

/-- Gives the setting with a key another value. -/
def setKey (c : Config) (entry : String × Toml.Value) : Except DecodeError Config :=
  match Setting.ofName? entry.1 with
  | some setting => c.set entry.2 setting
  | none => .error (.unknownSetting entry.1)

/-- The decoder that reads TOML documents and starts from the defaults. -/
def decoder : Decoder DecodeError where
  table := readTable
  word := readNumber .word
  count := readNumber .count
  mode := readMode
  flag := readFlag
  config := List.foldlM setKey {}

end Config

end VirtualMemory
