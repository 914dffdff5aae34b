import VirtualMemory.Binary64.Basic

/-!
# Shortest decimal text

The text of a binary floating-point number: the decimal number with the fewest digits that
rounds to it, and of several the one nearest to it, a tie going up.  It is written without an
exponent and always has a point.
-/

namespace VirtualMemory.Binary64

/-- Whether `c * 10 ^ p` rounds to `mantissa * 2 ^ exponent`.  The numbers that do lie between
the midpoints to the two neighbours; the midpoints themselves belong to an even mantissa. -/
def roundsTo (mantissa : Nat) (exponent : Int) (c : Nat) (p : Int) : Bool :=
  let below :=
    if mantissa = leastMantissa ∧ leastExponent < exponent then 4 * mantissa - 1
    else 4 * mantissa - 2
  let (decimal, decimalUnit) := scaled 10 c p
  let (low, unit) := scaled 2 below (exponent - 2)
  let (high, _) := scaled 2 (4 * mantissa + 2) (exponent - 2)
  if mantissa % 2 = 0 then
    low * decimalUnit ≤ decimal * unit && decimal * unit ≤ high * decimalUnit
  else
    low * decimalUnit < decimal * unit && decimal * unit < high * decimalUnit

/-- The multiple of `10 ^ p` nearest to `mantissa * 2 ^ exponent` among its two neighbours that
round to it, if there is one. -/
def nearestMultiple? (mantissa : Nat) (exponent p : Int) : Option Nat :=
  let (value, unit) := scaled 2 mantissa exponent
  let (value, unit) :=
    if 0 ≤ p then (value, unit * 10 ^ p.toNat) else (value * 10 ^ (-p).toNat, unit)
  let c := value / unit
  let nearer := if 2 * (value % unit) < unit then c else c + 1
  let farther := if 2 * (value % unit) < unit then c + 1 else c
  if roundsTo mantissa exponent nearer p then some nearer
  else if roundsTo mantissa exponent farther p then some farther
  else none

/-- The coefficient and the decimal exponent of the shortest decimal number, searched in `steps`
steps from the exponent `p` down. -/
def shortestFrom (mantissa : Nat) (exponent : Int) : (steps : Nat) → (p : Int) → Nat × Int
  | 0, p => (0, p)
  | steps + 1, p =>
    match nearestMultiple? mantissa exponent p with
    | some c => (c, p)
    | none => shortestFrom mantissa exponent steps (p - 1)

/-- The decimal number with the fewest digits that rounds to `mantissa * 2 ^ exponent`. -/
def shortest (mantissa : Nat) (exponent : Int) : Nat × Int :=
  if mantissa = 0 then (0, 0) else shortestFrom mantissa exponent 700 309

/-- The number `c * 10 ^ p` without an exponent, with at least one digit on either side of the
point. -/
def positional (c : Nat) (p : Int) : String :=
  let digits := Nat.toDigits 10 c
  if 0 ≤ p then
    String.ofList (digits ++ List.replicate p.toNat '0') ++ ".0"
  else
    let places := (-p).toNat
    let padded := List.replicate (places + 1 - digits.length) '0' ++ digits
    String.ofList (padded.take (padded.length - places)) ++ "." ++
      String.ofList (padded.drop (padded.length - places))

/-- The text of a floating-point number. -/
def text : Binary64 → String
  | nan => "NaN"
  | infinite negative => if negative then "-inf" else "inf"
  | finite negative mantissa exponent =>
    let (c, p) := shortest mantissa exponent
    (if negative then "-" else "") ++ positional c p

end VirtualMemory.Binary64
