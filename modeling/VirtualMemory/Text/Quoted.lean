import VirtualMemory.Text.Glyph
import VirtualMemory.Text.Hex

/-!
# Quoted text

A text between double quotes, in which quotes, backslashes and characters without a glyph are
written as escapes.
-/

namespace VirtualMemory.Text

/-- A character as it stands between double quotes. -/
def escapeChar (c : Char) : String :=
  match c with
  | '"' => "\\\""
  | '\\' => "\\\\"
  | '\n' => "\\n"
  | '\r' => "\\r"
  | '\t' => "\\t"
  | '\x00' => "\\0"
  | c => if isGlyphless c then "\\u\x7b" ++ hexDigits 1 c.toNat ++ "\x7d" else c.toString

/-- A text between double quotes. -/
def quote (s : String) : String := "\"" ++ String.join (s.toList.map escapeChar) ++ "\""

end VirtualMemory.Text
