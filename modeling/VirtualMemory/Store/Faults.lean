import VirtualMemory.Store.Memory

/-!
# Injected faults

A store in memory whose answers can be spoiled on purpose: addresses that refuse to be read or
written, frame numbers handed out before the free frames, and an error in place of any frame.
`Machine` is a main store and a swap store of this kind.
-/

namespace VirtualMemory

/-- The answers of a store that are spoiled. -/
structure Faults where
  /-- Frame numbers to hand out before the free frames. -/
  pool : List Nat := []
  /-- Addresses that cannot be read. -/
  badReads : List Nat := []
  /-- Addresses that cannot be written. -/
  badWrites : List Nat := []
  /-- The address to name in refusing every request for a frame. -/
  acquireError : Option Nat := none

/-- A store in memory with faults. -/
structure FaultyMemory where
  memory : Memory
  faults : Faults

namespace FaultyMemory

/-- Runs a request on the memory behind the faults. -/
def onMemory {α : Type} (x : Access Memory α) : Access FaultyMemory α
  | ⟨memory, faults⟩ =>
    match x memory with
    | (answer, memory) => (answer, ⟨memory, faults⟩)

/-- Reads the byte at an address that is not spoiled. -/
def readByte (address : Nat) : Access FaultyMemory UInt8 := fun m =>
  if address ∈ m.faults.badReads then (.error (.outOfRange address), m)
  else onMemory (Memory.readByte address) m

/-- Writes a byte at an address that is not spoiled. -/
def writeByte (address : Nat) (value : UInt8) : Access FaultyMemory Unit := fun m =>
  if address ∈ m.faults.badWrites then (.error (.outOfRange address), m)
  else onMemory (Memory.writeByte address value) m

/-- Refuses if frames are spoiled; else takes from the pool, and from the free frames once the
pool is empty. -/
def acquireFrame : Access FaultyMemory Nat := fun m =>
  match m.faults.acquireError, m.faults.pool with
  | some address, _ => (.error (.outOfRange address), m)
  | none, frame :: rest => (.ok frame, { m with faults := { m.faults with pool := rest } })
  | none, [] => onMemory Memory.acquireFrame m

/-- Puts a frame back to the memory; the pool is not refilled. -/
def releaseFrame (frame : Nat) : FaultyMemory → FaultyMemory
  | ⟨memory, faults⟩ => ⟨memory.releaseFrame frame, faults⟩

end FaultyMemory

/-- A main store and a swap store. -/
structure Machine where
  ram : FaultyMemory
  swap : FaultyMemory

namespace Machine

/-- One of the two stores. -/
def store (m : Machine) : Device → FaultyMemory
  | .ram => m.ram
  | .swap => m.swap

/-- Runs a request on one of the two stores. -/
def on {α : Type} (x : Access FaultyMemory α) : Device → Access Machine α
  | .ram, ⟨ram, swap⟩ =>
    match x ram with
    | (answer, ram) => (answer, ⟨ram, swap⟩)
  | .swap, ⟨ram, swap⟩ =>
    match x swap with
    | (answer, swap) => (answer, ⟨ram, swap⟩)

/-- Changes one of the two stores. -/
def modify (f : FaultyMemory → FaultyMemory) : Device → Machine → Machine
  | .ram, ⟨ram, swap⟩ => ⟨f ram, swap⟩
  | .swap, ⟨ram, swap⟩ => ⟨ram, f swap⟩

instance : Backing Machine where
  readByte device address := on (FaultyMemory.readByte address) device
  writeByte device address value := on (FaultyMemory.writeByte address value) device
  acquireFrame device := on FaultyMemory.acquireFrame device
  releaseFrame device frame := modify (FaultyMemory.releaseFrame frame) device

end Machine

end VirtualMemory
