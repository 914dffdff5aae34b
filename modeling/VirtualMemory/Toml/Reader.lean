/-!
# Readers

A reader takes characters from the front of its input and answers with what they mean, or
declines.  `p <|> q` reads with `q` where `p` declines, `many` repeats a reader until it declines
or reads nothing, and `span` takes the longest run of characters of a kind.  The readers for
blanks, line ends and comments, which values and statements share, stand here as well.
-/

namespace VirtualMemory.Toml

/-- A reader of an `α` at the front of a list of characters. -/
abbrev Reader : Type → Type := StateT (List Char) Option

namespace Reader

variable {α : Type}

/-- Reads a character of a kind. -/
def one (p : Char → Bool) : Reader Char := fun input =>
  match input with
  | c :: rest => if p c then some (c, rest) else none
  | [] => none

/-- Reads a given character. -/
def char (c : Char) : Reader Unit := fun input =>
  match input with
  | d :: rest => if d = c then some ((), rest) else none
  | [] => none

/-- Reads the characters of a given text. -/
def text (s : String) : Reader Unit := fun input =>
  if s.toList.isPrefixOf input then some ((), input.drop s.length) else none

/-- Reads the longest run of characters of a kind, which may be empty. -/
def span (p : Char → Bool) : Reader (List Char) := fun input =>
  some (input.takeWhile p, input.dropWhile p)

/-- Reads the longest run of characters of a kind, at least one. -/
def span1 (p : Char → Bool) : Reader (List Char) := do
  let c ← one p
  let cs ← span p
  pure (c :: cs)

/-- Reads a fixed number of characters of a kind. -/
def exactly (p : Char → Bool) : (count : Nat) → Reader (List Char)
  | 0 => pure []
  | count + 1 => do
    let c ← one p
    let cs ← exactly p count
    pure (c :: cs)

/-- Reads an `α` if there is one. -/
def optionally (p : Reader α) : Reader (Option α) := (some <$> p) <|> pure none

/-- Repeats a reader on an input for as long as it reads something. -/
def repeated (p : Reader α) (input : List Char) : List α × List Char :=
  match p input with
  | none => ([], input)
  | some (a, rest) =>
    if rest.length < input.length then
      let (as, rest) := repeated p rest
      (a :: as, rest)
    else ([], input)
termination_by input.length

/-- Repeats a reader for as long as it reads something. -/
def many (p : Reader α) : Reader (List α) := fun input => some (repeated p input)

/-- Reads at least one item, with separators between the items. -/
def separated (item : Reader α) (separator : Reader Unit) : Reader (List α) := do
  let first ← item
  let others ← many (separator *> item)
  pure (first :: others)

/-- Reads the end of the input. -/
def finish : Reader Unit := fun input =>
  match input with
  | [] => some ((), [])
  | _ => none

/-- Declines an answer that is not acceptable. -/
def ensure (p : α → Bool) (x : Reader α) : Reader α := do
  let a ← x
  if p a then pure a else failure

/-! ### Blanks, line ends and comments -/

/-- A blank within a line. -/
def isBlank (c : Char) : Bool := c == ' ' || c == '\t'

/-- A character that is not an ASCII control, other than the tabulator. -/
def isPlain (c : Char) : Bool := c == '\t' || (' ' ≤ c && c ≠ '\x7F')

/-- Reads blanks. -/
def blanks : Reader Unit := discard (span isBlank)

/-- Reads a line end. -/
def newline : Reader Unit := char '\n' <|> text "\r\n"

/-- Reads a comment up to the end of its line. -/
def comment : Reader Unit := do
  char '#'
  discard (span isPlain)

/-- Reads what may stand behind a statement on its line, and the line end. -/
def lineEnd : Reader Unit := do
  blanks
  discard (optionally comment)
  newline <|> finish

/-- Reads blanks, line ends and comments. -/
def gap : Reader Unit := discard (many (discard (span1 isBlank) <|> newline <|> comment))

end Reader

end VirtualMemory.Toml
