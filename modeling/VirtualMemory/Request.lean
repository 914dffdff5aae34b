import VirtualMemory.Text.Hex

/-!
# Requests

The requests that an address space serves below the level of handles: growing an area, copying
a frame to the swap store, and reading or writing one byte at a virtual address.
-/

namespace VirtualMemory

/-- A request to an address space. -/
inductive Request
  /-- Add at least `size` bytes to the end of an area. -/
  | growArea (area size : Nat)
  /-- Copy a frame of the main store to a slot of the swap store. -/
  | copyToSwap (frame slot : Nat)
  /-- Read the byte at a virtual address. -/
  | load (address : Nat)
  /-- Write a byte at a virtual address. -/
  | store (address : Nat) (value : UInt8)
deriving DecidableEq

/-- The written form of a request in event records. -/
def Request.text : Request → String
  | growArea area size => s!"IncreaseLimit \x7b area: {area}, size: {size} \x7d"
  | copyToSwap frame slot => s!"SwapPage \x7b src_frame: {frame}, dst_frame: {slot} \x7d"
  | load address => s!"IoRead \x7b addr: {address} \x7d"
  | store address value => s!"IoWrite \x7b addr: {address}, value: {value.toNat} \x7d"

/-- The answer to a request. -/
inductive Reply
  /-- The request is carried out. -/
  | done
  /-- The byte that was asked for. -/
  | byte (value : UInt8)
deriving DecidableEq

end VirtualMemory
