import VirtualMemory.Toml.Quotation

/-!
# Dates and times

A date, a time of day, or a date with a time of day and perhaps an offset.  The fields are
checked, the day against the length of its month.
-/

namespace VirtualMemory.Toml.Reader

/-- Reads a number of a fixed count of digits within bounds. -/
def numeral (count low high : Nat) : Reader Nat := do
  let n := numberOf 10 (← exactly Char.isDigit count)
  if low ≤ n ∧ n ≤ high then pure n else failure

/-- The number of days in a month. -/
def daysIn (year month : Nat) : Nat :=
  if month = 2 then
    if year % 4 = 0 ∧ (year % 100 ≠ 0 ∨ year % 400 = 0) then 29 else 28
  else if month = 4 ∨ month = 6 ∨ month = 9 ∨ month = 11 then 30
  else 31

/-- Reads a date. -/
def date : Reader Unit := do
  let year ← numeral 4 0 9999
  char '-'
  let month ← numeral 2 1 12
  char '-'
  discard (numeral 2 1 (daysIn year month))

/-- Reads a time of day. -/
def time : Reader Unit := do
  discard (numeral 2 0 23)
  char ':'
  discard (numeral 2 0 59)
  char ':'
  discard (numeral 2 0 60)
  discard (optionally (char '.' *> span1 Char.isDigit))

/-- Reads an offset from the universal time. -/
def offset : Reader Unit :=
  char 'Z' <|> char 'z' <|> do
    discard (one fun c => c == '+' || c == '-')
    discard (numeral 2 0 23)
    char ':'
    discard (numeral 2 0 59)

/-- Reads a date, a time of day or both. -/
def moment : Reader Unit :=
  (do
    date
    discard (optionally do
      discard (one fun c => c == 'T' || c == 't' || c == ' ')
      time
      discard (optionally offset))) <|>
  time

end VirtualMemory.Toml.Reader
