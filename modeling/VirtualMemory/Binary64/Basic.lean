import VirtualMemory.Word

/-!
# Binary floating-point numbers

The values of the 64-bit binary floating-point format, as exact multiples of powers of two, and
the rounding of a decimal number to the nearest of them, a tie going to the even one.
-/

namespace VirtualMemory

/-- A 64-bit binary floating-point number. -/
inductive Binary64
  /-- Not a number. -/
  | nan
  /-- An infinity. -/
  | infinite (negative : Bool)
  /-- The number `mantissa * 2 ^ exponent`, with a sign. -/
  | finite (negative : Bool) (mantissa : Nat) (exponent : Int)
deriving DecidableEq

namespace Binary64

/-- The least exponent of a finite number. -/
def leastExponent : Int := -1074

/-- The greatest exponent of a finite number. -/
def greatestExponent : Int := 971

/-- The least mantissa of a number that is not below the normal range. -/
def leastMantissa : Nat := 2 ^ 52

/-- The number `n * base ^ e` as a numerator and a denominator. -/
def scaled (base n : Nat) (e : Int) : Nat × Nat :=
  if 0 ≤ e then (n * base ^ e.toNat, 1) else (n, base ^ (-e).toNat)

/-- The integer nearest to a quotient, the even one of two that are equally near. -/
def roundHalfEven (num den : Nat) : Nat :=
  let whole := num / den
  let rest := 2 * (num % den)
  if rest < den then whole
  else if den < rest then whole + 1
  else whole + whole % 2

/-- The binary number nearest to the quotient of two positive integers, without its sign. -/
def ofQuotient (negative : Bool) (num den : Nat) : Binary64 :=
  let low : Int := max ((num.log2 : Int) - den.log2 - 53) leastExponent
  let (n, d) := scaled 2 num (-low)
  let exponent := if 2 * leastMantissa ≤ n / (d * den) then low + 1 else low
  let (n, d) := scaled 2 num (-exponent)
  let mantissa := roundHalfEven n (d * den)
  let (mantissa, exponent) :=
    if mantissa = 2 * leastMantissa then (leastMantissa, exponent + 1) else (mantissa, exponent)
  if greatestExponent < exponent then infinite negative else finite negative mantissa exponent

/-- The binary number nearest to `n * 10 ^ e`.  Numbers far outside the range need no exact
quotient. -/
def ofDecimal (negative : Bool) (n : Nat) (e : Int) : Binary64 :=
  let magnitude := e + (Nat.toDigits 10 n).length
  if n = 0 ∨ magnitude < -400 then finite negative 0 leastExponent
  else if 400 < magnitude then infinite negative
  else
    let (num, den) := scaled 10 n e
    ofQuotient negative num den

end Binary64

end VirtualMemory
