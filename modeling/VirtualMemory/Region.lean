import VirtualMemory.Text.Hex

/-!
# Regions

A region is a half-open range of addresses, with its length, the test whether two regions
share an address, and its written form.
-/

namespace VirtualMemory

/-- The addresses from `start` up to, and without, `stop`. -/
structure Region where
  start : Nat
  stop : Nat
deriving DecidableEq

namespace Region

/-- The region without addresses at zero. -/
def empty : Region := ⟨0, 0⟩

/-- The number of addresses in the region. -/
def length (r : Region) : Nat := r.stop - r.start

/-- A region is empty if it ends where it starts, or before. -/
def isEmpty (r : Region) : Bool := r.stop ≤ r.start

/-- The addresses of a region are those from its start that lie before its stop. -/
instance : Membership Nat Region := ⟨fun r address => r.start ≤ address ∧ address < r.stop⟩

instance (address : Nat) (r : Region) : Decidable (address ∈ r) :=
  inferInstanceAs (Decidable (r.start ≤ address ∧ address < r.stop))

/-- Two regions overlap if the later start lies before the earlier stop. -/
def overlaps (r s : Region) : Bool := max r.start s.start < min r.stop s.stop

/-- The written form of a region, both ends in base sixteen. -/
def text (r : Region) : String := s!"[{Text.hex r.start}, {Text.hex r.stop})"

theorem mem_iff {r : Region} {address : Nat} :
  address ∈ r ↔ r.start ≤ address ∧ address < r.stop
  := Iff.rfl

/-- Regions overlap exactly when they share an address. -/
theorem overlaps_iff {r s : Region} :
  r.overlaps s = true ↔ ∃ address, address ∈ r ∧ address ∈ s
  := by
  simp only [overlaps, decide_eq_true_eq, mem_iff]
  constructor
  · intro h
    exact ⟨max r.start s.start, by omega, by omega⟩
  · rintro ⟨address, h, h'⟩
    omega

end Region

end VirtualMemory
