import VirtualMemory.Word

/-!
# Page-table entries

An entry is a 64-bit word.  Its four highest bits are flags; below them a resident page has its
frame number in bits 0 to 47, and a swapped page has the number of its swap device in bits 0
to 4 and its slot in bits 5 to 50.  `Entry.state` reads a word as a page that is unmapped,
resident or swapped.
-/

namespace VirtualMemory

/-- A flag of an entry. -/
inductive Flag
  /-- The page is mapped. -/
  | present
  /-- The page is in the swap store. -/
  | swapped
  /-- A bit without meaning. -/
  | reserved
  /-- The page was written to since it became resident. -/
  | dirty
deriving DecidableEq

namespace Flag

/-- The flags from the highest bit down. -/
def all : List Flag := [present, swapped, reserved, dirty]

/-- The number of a flag's bit. -/
def bit : Flag → Nat
  | present => 63
  | swapped => 62
  | reserved => 61
  | dirty => 60

/-- The word in which only the flag's bit is set. -/
def mask (f : Flag) : BitVec 64 := 1#64 <<< f.bit

/-- The name of a flag. -/
def name : Flag → String
  | present => "PRESENT"
  | swapped => "SWAPPED"
  | reserved => "RESERVED"
  | dirty => "DIRTY"

end Flag

/-- A page-table entry. -/
structure Entry where
  bits : BitVec 64
deriving DecidableEq

namespace Entry

/-- Where the page of an entry is. -/
inductive State
  /-- Nowhere. -/
  | unmapped
  /-- In a frame of the main store. -/
  | resident (frame : Nat) (dirty : Bool)
  /-- In a slot of a swap device. -/
  | swapped (device slot : Nat)
deriving DecidableEq

/-- The entry without a set bit. -/
def empty : Entry := ⟨0#64⟩

/-- The number of bits of a frame number. -/
def frameBits : Nat := 48

/-- The number of bits of a swap device. -/
def deviceBits : Nat := 5

/-- The number of bits of a slot. -/
def slotBits : Nat := 46

/-- The entry of a page in a frame.  Frame zero and numbers that do not fit have none. -/
def resident? (frame : Nat) : Option Entry :=
  if frame = 0 ∨ 2 ^ frameBits ≤ frame then none
  else some ⟨Flag.present.mask ||| BitVec.ofNat 64 frame⟩

/-- The entry of a page in a slot of a swap device; numbers that do not fit lose their high
bits. -/
def ofSwap (device slot : Nat) : Entry :=
  ⟨Flag.present.mask ||| Flag.swapped.mask ||| BitVec.ofNat 64 (device % 2 ^ deviceBits) |||
    BitVec.ofNat 64 (slot % 2 ^ slotBits) <<< deviceBits⟩

/-- Whether a flag is set. -/
def has (e : Entry) (f : Flag) : Bool := e.bits.getLsbD f.bit

/-- The flags that are set, from the highest bit down. -/
def flags (e : Entry) : List Flag := Flag.all.filter e.has

/-- A page is present if it is mapped, be it resident or swapped. -/
def isPresent (e : Entry) : Bool := e.has .present

/-- A page is swapped if its entry is present and says so. -/
def isSwapped (e : Entry) : Bool := e.has .present && e.has .swapped

/-- A page is resident if it is present and not swapped. -/
def isResident (e : Entry) : Bool := e.isPresent && !e.isSwapped

/-- Whether the page was written to since it became resident. -/
def isDirty (e : Entry) : Bool := e.has .dirty

/-- The frame of a resident page. -/
def frame? (e : Entry) : Option Nat :=
  if e.isResident then some (e.bits.extractLsb' 0 frameBits).toNat else none

/-- The swap device of a swapped page. -/
def device? (e : Entry) : Option Nat :=
  if e.isSwapped then some (e.bits.extractLsb' 0 deviceBits).toNat else none

/-- The slot of a swapped page. -/
def slot? (e : Entry) : Option Nat :=
  if e.isSwapped then some (e.bits.extractLsb' deviceBits slotBits).toNat else none

/-- The entry with the dirty flag set. -/
def withDirty (e : Entry) : Entry := ⟨e.bits ||| Flag.dirty.mask⟩

/-- Where the page of an entry is. -/
def state (e : Entry) : State :=
  if e.isSwapped then
    .swapped (e.bits.extractLsb' 0 deviceBits).toNat (e.bits.extractLsb' deviceBits slotBits).toNat
  else if e.isPresent then .resident (e.bits.extractLsb' 0 frameBits).toNat e.isDirty
  else .unmapped

end Entry

end VirtualMemory
