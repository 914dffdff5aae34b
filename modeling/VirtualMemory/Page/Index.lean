import VirtualMemory.Word

/-!
# Table indices of a page

A page table has five levels of tables with 512 slots each, so a page number selects one slot at
every level by nine of its bits, most significant first.  Bits from the forty-fifth on select
nothing.
-/

namespace VirtualMemory

/-- The number of page-number bits that select a slot of one table. -/
def levelBits : Nat := 9

/-- The slot selected by a page number in the table that is `level` levels above the entries. -/
def levelIndex (level page : Nat) : Nat := (page >>> (level * levelBits)) % 2 ^ levelBits

/-- The slots selected by a page number at the five levels, from the root down. -/
structure PageIndices where
  pgd : Nat
  p4d : Nat
  pud : Nat
  pmd : Nat
  pt : Nat
deriving DecidableEq

namespace PageIndices

/-- The slots selected by a page number. -/
def ofPage (page : Nat) : PageIndices :=
  ⟨levelIndex 4 page, levelIndex 3 page, levelIndex 2 page, levelIndex 1 page,
    levelIndex 0 page⟩

/-- The slots selected by an address whose low `offsetBits` bits count bytes in a page. -/
def ofAddress (offsetBits address : Nat) : PageIndices :=
  ofPage (Word.shiftRight address offsetBits)

/-- The slots from the root down. -/
def toList (i : PageIndices) : List Nat := [i.pgd, i.p4d, i.pud, i.pmd, i.pt]

end PageIndices

theorem levelIndex_lt {level page : Nat} :
  levelIndex level page < 512
  := Nat.mod_lt _ (by decide)

end VirtualMemory
