import VirtualMemory.Binary64.Basic
import VirtualMemory.Toml.Quotation

/-!
# Numbers

Integers of 64 bits with a sign, in base ten or behind `0x`, `0o` and `0b`, and floating-point
numbers.  An underscore may stand between two digits, and a decimal integer of several digits
does not start with zero.
-/

namespace VirtualMemory.Toml.Reader

/-- Reads digits, with underscores between some of them. -/
def digits (p : Char → Bool) : Reader (List Char) := do
  let first ← one p
  let others ← many (one p <|> (char '_' *> one p))
  pure (first :: others)

/-- Reads the digits of a decimal integer. -/
def decimalDigits : Reader (List Char) :=
  (ensure (fun ds => ds.head? ≠ some '0') (digits Char.isDigit)) <|>
    (do let c ← one Char.isDigit; pure [c])

/-- Reads a sign, if there is one, and answers whether it is a minus. -/
def sign : Reader Bool := do
  match ← optionally (one fun c => c == '+' || c == '-') with
  | some c => pure (c == '-')
  | none => pure false

/-- The signed number of a magnitude. -/
def signed (negative : Bool) (n : Nat) : Int := if negative then -n else n

/-- Reads an integer in a base other than ten. -/
def basedInteger (mark : String) (base : Nat) (p : Char → Bool) : Reader Int := do
  text mark
  let ds ← digits p
  pure (numberOf base ds)

/-- Reads an integer. -/
def integer : Reader Int :=
  ensure (fun i => -(2 ^ 63) ≤ i && i < 2 ^ 63) <|
    basedInteger "0x" 16 isHexDigit <|>
    basedInteger "0o" 8 (fun c => '0' ≤ c && c ≤ '7') <|>
    basedInteger "0b" 2 (fun c => c == '0' || c == '1') <|>
    (do
      let negative ← sign
      let ds ← decimalDigits
      pure (signed negative (numberOf 10 ds)))

/-- Reads the digits behind a point. -/
def fraction : Reader (List Char) := char '.' *> digits Char.isDigit

/-- Reads a decimal exponent. -/
def exponent : Reader Int := do
  discard (one fun c => c == 'e' || c == 'E')
  let negative ← sign
  let ds ← digits Char.isDigit
  pure (signed negative (numberOf 10 ds))

/-- Reads a floating-point number with a fraction or an exponent or both.  A number too great is
declined; one too far below zero is the negative infinity. -/
def decimalFloat : Reader Binary64 := do
  let negative ← sign
  let whole ← decimalDigits
  let (places, power) ←
    (do let power ← exponent; pure ([], power)) <|>
    (do
      let places ← fraction
      let power ← optionally exponent
      pure (places, power.getD 0))
  let n := numberOf 10 (whole ++ places)
  let value := Binary64.ofDecimal negative n (power - places.length)
  if value = .infinite false then failure else pure value

/-- Reads an infinity or a value that is not a number. -/
def specialFloat : Reader Binary64 := do
  let negative ← sign
  (do text "inf"; pure (.infinite negative)) <|> (do text "nan"; pure .nan)

/-- Reads a floating-point number. -/
def float : Reader Binary64 := decimalFloat <|> specialFloat

end VirtualMemory.Toml.Reader
