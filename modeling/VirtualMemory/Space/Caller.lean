import VirtualMemory.Space.Heap

/-!
# Callers

A process reaches its address space as a caller, who brings the space itself and the stores and
may lack any of them.  An operation of a caller without the space fails before anything else;
reading and writing also fail at once without the main store.  If the configuration asks for it,
each success is reported together with the process.
-/

namespace VirtualMemory

/-- What a process brings to an operation on its address space. -/
structure Caller where
  /-- The number of the process. -/
  pid : Nat
  /-- Whether the process brings its address space. -/
  hasSpace : Bool := true
  /-- The stores that the process brings. -/
  stores : Stores := {}
deriving DecidableEq

namespace Caller

variable {c : Config} {ω σ : Type}

/-- Fails if the caller lacks the space. -/
def requireSpace (caller : Caller) : Op σ Unit :=
  if caller.hasSpace then pure () else Op.fail .invalidContext

/-- Reports an access, if the configuration asks for it. -/
def report (c : Config) (e : Event) : Op σ Unit :=
  if c.traceAccess then Op.emit e else pure ()

/-- Binds a handle to `size` bytes of the heap and answers with the address of the first. -/
def allocate [Backing ω] (caller : Caller) (handle size : Nat) : Op (Space c × ω) Nat := do
  caller.requireSpace
  let address ← Space.allocate caller.stores handle size
  report c (.allocated caller.pid address size handle)
  pure address

/-- Unbinds a handle; its region becomes free. -/
def free (caller : Caller) (handle : Nat) : Op (Space c × ω) Region := do
  caller.requireSpace
  let r ← Space.free handle
  report c (.freed caller.pid r handle)
  pure r

/-- Reads a byte of the region of a handle. -/
def read [Backing ω] (caller : Caller) (handle offset : Nat) : Op (Space c × ω) UInt8 := do
  caller.requireSpace
  Op.require caller.stores .ram
  let value ← Space.read caller.stores handle offset
  report c (.byteRead caller.pid handle offset value)
  pure value

/-- Writes a byte of the region of a handle. -/
def write [Backing ω] (caller : Caller) (handle offset : Nat) (value : UInt8) :
    Op (Space c × ω) Unit := do
  caller.requireSpace
  Op.require caller.stores .ram
  let address ← Space.write caller.stores handle offset value
  report c (.byteWritten caller.pid address handle value)

/-- Unmaps every page of the space and answers with their number. -/
def release [Backing ω] (caller : Caller) : Op (Space c × ω) Nat := do
  caller.requireSpace
  Space.releasePages caller.stores

end Caller

end VirtualMemory
