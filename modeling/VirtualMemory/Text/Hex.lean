/-!
# Hexadecimal text

`hexDigits` writes a number in base sixteen with lower-case digits, filled with zeros to a
width; `hex` and `hexByte` put `0x` in front of it.
-/

namespace VirtualMemory.Text

/-- The base-sixteen digits of `n`, filled with zeros on the left to at least `width`. -/
def hexDigits (width n : Nat) : String :=
  let digits := Nat.toDigits 16 n
  String.ofList (List.replicate (width - digits.length) '0' ++ digits)

/-- The number `n` in base sixteen behind `0x`. -/
def hex (n : Nat) : String := "0x" ++ hexDigits 1 n

/-- A byte in base sixteen behind `0x`, always with two digits. -/
def hexByte (b : UInt8) : String := "0x" ++ hexDigits 2 b.toNat

end VirtualMemory.Text
