import VirtualMemory.Config.Basic
import VirtualMemory.Toml.Value

/-!
# Configuration documents

A configuration is written as a TOML document whose keys are settings.  How documents and values
are decoded is left to a `Decoder`; what is decoded is checked here as a whole.
`Config.ofEntries` starts from the table of a document, `Config.ofText` from a text and
`Config.ofFile` from the bytes of a file.
-/

namespace VirtualMemory

namespace Config

/-- A setting of a configuration. -/
inductive Setting
  | pageSize
  | maxPages
  | handleCapacity
  | initialHeapSize
  | mode
  | traceAccess
  | dumpTables
deriving DecidableEq

/-- The key of a setting. -/
def Setting.name : Setting → String
  | pageSize => "page_size"
  | maxPages => "max_page_number"
  | handleCapacity => "symbol_table_size"
  | initialHeapSize => "initial_heap_size"
  | mode => "paging"
  | traceAccess => "trace_io"
  | dumpTables => "dump_page_table"

/-- How documents are decoded, and values of the types that settings have.  What cannot be decoded
is refused with an error. -/
structure Decoder (ε : Type) where
  /-- The table of a document. -/
  table : String → Except ε Toml.Entries
  /-- A word of 64 bits. -/
  word : Toml.Value → Except ε Nat
  /-- A count of things in memory. -/
  count : Toml.Value → Except ε Nat
  /-- A mode. -/
  mode : Toml.Value → Except ε Mode
  /-- A truth value. -/
  flag : Toml.Value → Except ε Bool
  /-- A configuration, from the table of a document. -/
  config : Toml.Entries → Except ε Config

/-- The reasons why a configuration cannot be loaded. -/
inductive LoadError (ε : Type)
  /-- The file does not exist. -/
  | missing
  /-- The bytes of the file are not a text. -/
  | notText
  /-- The text cannot be decoded as a configuration. -/
  | undecoded (e : ε)
  /-- The configuration as a whole misses a requirement. -/
  | invalid (missed : Constraint)

/-- The wording of a reason, where the decoder may have none for some of its errors. -/
def LoadError.message? {ε : Type} (wording? : ε → Option String) : LoadError ε → Option String
  | missing => some "failed to read config file <path>: No such file or directory (os error 2)"
  | notText => some "failed to read config file <path>: stream did not contain valid UTF-8"
  | undecoded e => wording? e
  | invalid missed => some s!"invalid config: {missed.message}"

variable {ε : Type}

/-- The configuration of a table of settings, if it can be decoded and is valid. -/
def ofEntries (d : Decoder ε) (entries : Toml.Entries) : Except (LoadError ε) Config :=
  match d.config entries with
  | .error e => .error (.undecoded e)
  | .ok c =>
    match c.validate with
    | .ok () => .ok c
    | .error missed => .error (.invalid missed)

/-- The configuration of a text. -/
def ofText (d : Decoder ε) (text : String) : Except (LoadError ε) Config :=
  match d.table text with
  | .ok entries => ofEntries d entries
  | .error e => .error (.undecoded e)

/-- The configuration of a file, given by its bytes if it exists. -/
def ofFile (d : Decoder ε) : Option ByteArray → Except (LoadError ε) Config
  | none => .error .missing
  | some bytes =>
    match String.fromUTF8? bytes with
    | some text => ofText d text
    | none => .error .notText

end Config

end VirtualMemory
