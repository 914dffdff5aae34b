import VirtualMemory.Space.Basic

/-!
# Serving requests

A request is reported before it is served.  A byte at a virtual address is found in the main
store, at the same offset in the frame of its page; in paged mode the address must belong to an
area.  Writing a byte makes its page dirty.
-/

namespace VirtualMemory.Space

variable {c : Config} {ω : Type} [Backing ω]

/-- The frame of the page that holds a virtual address; the page is resident afterwards. -/
def frameAt (stores : Stores) (address : Nat) : Op (Space c × ω) Nat := do
  Op.require stores .ram
  let covered ← Op.gets fun s => (s.1.areas.covering? address).isSome
  if c.mode = .paged ∧ covered = false then
    Op.emit (.outsideAreas address)
    Op.fail .mappingFailed
  else
    onPaging (Paging.resolve stores (c.pageOf address))

/-- The address in the main store of a virtual address, taken as a word. -/
def translate (stores : Stores) (address : Nat) : Op (Space c × ω) Nat := do
  let frame ← frameAt stores address
  pure (Word.wrap (frame * c.pageSize + c.offsetOf address))

/-- Adds at least `size` bytes to the end of an area, backed by mapped pages. -/
def growArea (stores : Stores) (area size : Nat) : Op (Space c × ω) Unit := do
  Op.emit (.requested (.growArea area size))
  let _ ← onAreasAndPaging (AreaList.grow c area size (Paging.mapAddresses stores))

/-- Copies a frame of the main store to a slot of the swap store. -/
def copyToSwap (stores : Stores) (frame slot : Nat) : Op (Space c × ω) Unit := do
  Op.emit (.requested (.copyToSwap frame slot))
  Op.require stores .ram
  Op.require stores .swap
  Op.access (copyPage c.pageSize .ram frame .swap slot)

/-- Reads the byte at a virtual address. -/
def load (stores : Stores) (address : Nat) : Op (Space c × ω) UInt8 := do
  Op.emit (.requested (.load address))
  let physical ← translate stores address
  Op.access (Backing.readByte .ram physical)

/-- Writes a byte at a virtual address. -/
def store (stores : Stores) (address : Nat) (value : UInt8) : Op (Space c × ω) Unit := do
  Op.emit (.requested (.store address value))
  let physical ← translate stores address
  Op.access (Backing.writeByte .ram physical value)
  onPaging (Paging.markDirty (c.pageOf address))

/-- Serves a request. -/
def serve (stores : Stores) : Request → Op (Space c × ω) Reply
  | .growArea area size => do
    growArea stores area size
    pure .done
  | .copyToSwap frame slot => do
    copyToSwap stores frame slot
    pure .done
  | .load address => .byte <$> load stores address
  | .store address value => do
    store stores address value
    pure .done

end VirtualMemory.Space
