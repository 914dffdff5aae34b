/-!
# Machine words

Addresses, sizes, page numbers and frame numbers are natural numbers below `Word.bound`,
the number of values of a 64-bit word.  Some sums stop at the greatest word,
`Word.saturatingAdd`, and some are refused beyond it, `Word.add?`.  The other operations leave
the bits beyond the word away, `Word.wrap`, and count the places of a shift round the word.  A
build that checks them stops at such an operation and answers nothing, not even an error.
-/

namespace VirtualMemory.Word

/-- Powers of numbers mean the same in every module, whatever else it imports. -/
@[default_instance 20000]
instance (priority := 20000) instPow {α : Type} [NatPow α] : Pow α Nat := instPowNat

/-- The number of values of a 64-bit word. -/
def bound : Nat := 2 ^ 64

/-- The greatest 64-bit word. -/
def greatest : Nat := 2 ^ 64 - 1

/-- The word that the lowest 64 bits of a number make. -/
def wrap (n : Nat) : Nat := n % bound

/-- The word before another one; the greatest word comes before zero. -/
def before : Nat → Nat
  | 0 => greatest
  | n + 1 => n

/-- A word without its lowest bits, as many as the number of places modulo 64 says. -/
def shiftRight (a places : Nat) : Nat := a >>> (places % 64)

/-- The sum of two words, cut off at the greatest word. -/
def saturatingAdd (a b : Nat) : Nat := min (a + b) greatest

/-- The product of two words, cut off at the greatest word. -/
def saturatingMul (a b : Nat) : Nat := min (a * b) greatest

/-- The sum of two words, if it is a word. -/
def add? (a b : Nat) : Option Nat := if a + b < bound then some (a + b) else none

theorem wrap_of_lt {n : Nat} (h : n < bound) :
  wrap n = n
  := Nat.mod_eq_of_lt h

theorem before_of_pos {n : Nat} (h : 0 < n) :
  before n = n - 1
  := by
  obtain ⟨m, rfl⟩ := Nat.exists_eq_succ_of_ne_zero (Nat.ne_of_gt h)
  rfl

theorem shiftRight_eq_div {a places : Nat} :
  shiftRight a places = a / 2 ^ (places % 64)
  := Nat.shiftRight_eq_div_pow a _

theorem saturatingAdd_of_lt {a b : Nat} (h : a + b < bound) :
  saturatingAdd a b = a + b
  := by
  simp only [saturatingAdd, greatest, bound] at *
  omega

theorem add?_eq_some_iff {a b c : Nat} :
  add? a b = some c ↔ a + b < bound ∧ c = a + b
  := by
  unfold add?
  split
  · next h => simp [h, eq_comm]
  · next h => simp [h]

end VirtualMemory.Word
