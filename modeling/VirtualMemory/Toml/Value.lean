import VirtualMemory.Binary64.Text
import VirtualMemory.Text.Quoted

/-!
# Values

The values of a TOML document.  A table remembers how it was introduced, since that decides
what may still be added to it, and an array of tables keeps its last table apart, since later
statements add to that one.
-/

namespace VirtualMemory.Toml

/-- How a table was introduced. -/
inductive Origin
  /-- As a value between braces. -/
  | inline
  /-- By a header, or as the whole document. -/
  | header
  /-- By a header of a table below it. -/
  | implicit
  /-- By a dotted key. -/
  | dotted
deriving DecidableEq

/-- A value. -/
inductive Value
  | string (text : String)
  | integer (value : Int)
  | float (value : Binary64)
  | boolean (value : Bool)
  /-- A date, a time or both; its fields are not kept. -/
  | moment
  /-- A list of values between brackets. -/
  | array (items : List Value)
  /-- A table, its keys in the order of the document. -/
  | table (origin : Origin) (entries : List (String × Value))
  /-- Tables under headers with double brackets. -/
  | tables (older : List (List (String × Value))) (newest : List (String × Value))

/-- The keys of a table with their values, in the order of the document. -/
abbrev Entries : Type := List (String × Value)

/-- What a value is, in words. -/
def Value.description : Value → String
  | string text => s!"string {Text.quote text}"
  | integer value => s!"integer `{value}`"
  | float value => s!"floating point `{value.text}`"
  | boolean value => s!"boolean `{value}`"
  | moment => "map"
  | array _ => "sequence"
  | table _ _ => "map"
  | tables _ _ => "sequence"

end VirtualMemory.Toml
