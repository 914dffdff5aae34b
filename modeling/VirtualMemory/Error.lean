import VirtualMemory.Text.Hex

/-!
# Errors

`StoreError` lists the ways in which a physical store refuses a request, and `Error` the ways
in which an operation of the memory manager fails; `message` words each of them.
-/

namespace VirtualMemory

/-- The refusals of a physical store. -/
inductive StoreError
  /-- The address, or the frame, lies beyond the store. -/
  | outOfRange (address : Nat)
  /-- No frame is free. -/
  | exhausted
deriving DecidableEq

/-- The wording of a store's refusal. -/
def StoreError.message : StoreError → String
  | outOfRange address => s!"physical address {Text.hex address} is out of range"
  | exhausted => "no free frame left"

/-- The failures of a memory operation. -/
inductive Error
  /-- The caller lacks an address space or a store that the operation needs. -/
  | invalidContext
  /-- The handle is beyond the handle table or bound to nothing. -/
  | invalidHandle (handle : Nat)
  /-- The offset is not below the length of the region. -/
  | outOfBounds (offset length : Nat)
  /-- No free region fits and the heap did not grow. -/
  | outOfSpace
  /-- The range is empty or meets another area. -/
  | overlap (start stop : Nat)
  /-- No frame could be had for the range. -/
  | mappingFailed
  /-- No page is resident, so none can be evicted. -/
  | noVictim
  /-- No area has the number, or one has it already. -/
  | invalidArea (id : Nat)
  /-- An allocation asked for no bytes. -/
  | invalidSize
  /-- The page number is not below the limit of the address space. -/
  | pageOutOfRange (page : Nat)
  /-- A physical store refused an access. -/
  | store (cause : StoreError)
deriving DecidableEq

/-- The wording of a failure. -/
def Error.message : Error → String
  | invalidContext => "caller context is missing its address space or store"
  | invalidHandle handle => s!"region handle {handle} is invalid or unmapped"
  | outOfBounds offset length => s!"offset {offset} is outside a region of {length} bytes"
  | outOfSpace => "no free region fits and heap growth was refused"
  | overlap start stop => s!"range {Text.hex start}..{Text.hex stop} overlaps another area"
  | mappingFailed => "paging engine could not map the requested range"
  | noVictim => "no resident page available for eviction"
  | invalidArea id => s!"area {id} does not exist"
  | invalidSize => "allocation size must be non-zero"
  | pageOutOfRange page => s!"page {page} exceeds the address-space capacity"
  | store cause => s!"physical store: {cause.message}"

end VirtualMemory
