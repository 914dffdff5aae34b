import VirtualMemory.Toml.Reader

/-!
# Quoted strings

Strings stand between double quotes, with escapes, or between single quotes, without; either
kind may be tripled to span lines.  A line end right behind three opening quotes is dropped, and
up to two quotes may stand right before three closing ones.
-/

namespace VirtualMemory.Toml.Reader

/-- The value of a digit in base sixteen. -/
def digitValue (c : Char) : Nat :=
  if c.isDigit then c.toNat - '0'.toNat
  else if 'a' ≤ c then c.toNat - 'a'.toNat + 10
  else c.toNat - 'A'.toNat + 10

/-- A digit in base sixteen. -/
def isHexDigit (c : Char) : Bool :=
  c.isDigit || ('a' ≤ c && c ≤ 'f') || ('A' ≤ c && c ≤ 'F')

/-- The number written by digits in a base. -/
def numberOf (base : Nat) (digits : List Char) : Nat :=
  digits.foldl (fun n c => n * base + digitValue c) 0

/-- Reads the code point of a character, given by a fixed number of digits. -/
def codePoint (count : Nat) : Reader Char := do
  let code := numberOf 16 (← exactly isHexDigit count)
  if code.isValidChar then pure (Char.ofNat code) else failure

/-- Reads the part of an escape behind the backslash. -/
def escaped : Reader Char := do
  match ← one (fun _ => true) with
  | 'b' => pure '\x08'
  | 't' => pure '\t'
  | 'n' => pure '\n'
  | 'f' => pure '\x0C'
  | 'r' => pure '\r'
  | '"' => pure '"'
  | '\\' => pure '\\'
  | 'u' => codePoint 4
  | 'U' => codePoint 8
  | _ => failure

/-- Reads an escape. -/
def escape : Reader (List Char) := do
  char '\\'
  let c ← escaped
  pure [c]

/-- Reads a backslash before a line end, with all blanks and line ends around it; they mean
nothing. -/
def joinedLines : Reader (List Char) := do
  char '\\'
  blanks
  newline
  discard (many (discard (span1 isBlank) <|> newline))
  pure []

/-- A character that stands for itself between double quotes. -/
def isBasic (c : Char) : Bool := isPlain c && c ≠ '"' && c ≠ '\\'

/-- A character that stands for itself between single quotes. -/
def isLiteral (c : Char) : Bool := isPlain c && c ≠ '\''

/-- Reads one or two quotes that do not close a string over several lines. -/
def innerQuotes (quote : Char) : Reader (List Char) :=
  ensure (fun quotes => 1 ≤ quotes.length && quotes.length ≤ 2) (span (· == quote))

/-- Reads the quotes that close a string over several lines, and answers with those before the
last three. -/
def closingQuotes (quote : Char) : Reader (List Char) := do
  let quotes ← ensure (fun quotes => 3 ≤ quotes.length && quotes.length ≤ 5) (span (· == quote))
  pure (quotes.drop 3)

/-- Reads a string over several lines, given what may stand in it besides quotes. -/
def multiline (quote : Char) (part : Reader (List Char)) : Reader String := do
  discard (exactly (· == quote) 3)
  discard (optionally newline)
  let parts ← many (part <|> innerQuotes quote)
  let last ← closingQuotes quote
  pure (String.ofList (parts.flatten ++ last))

/-- Reads a line end within a string. -/
def innerNewline : Reader (List Char) := do
  newline
  pure ['\n']

/-- Reads a string between double quotes on one line. -/
def basicString : Reader String := do
  char '"'
  let parts ← many (span1 isBasic <|> escape)
  char '"'
  pure (String.ofList parts.flatten)

/-- Reads a string between single quotes on one line. -/
def literalString : Reader String := do
  char '\''
  let cs ← span isLiteral
  char '\''
  pure (String.ofList cs)

/-- Reads a string. -/
def quoted : Reader String :=
  multiline '"' (span1 isBasic <|> joinedLines <|> escape <|> innerNewline) <|> basicString <|>
    multiline '\'' (span1 isLiteral <|> innerNewline) <|> literalString

end VirtualMemory.Toml.Reader
