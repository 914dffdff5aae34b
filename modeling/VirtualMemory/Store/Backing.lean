import VirtualMemory.Op

/-!
# Physical stores

An address space keeps its pages in two physical stores, the main store and the swap store.
`Backing ω` says what the stores in a world `ω` can be asked for: to read and write single
bytes, to hand out a frame, and to take one back.  Nothing is assumed about the answers; a
store may refuse any access and may hand out any number.  `Stores` records which of the two a
caller brings to an operation.
-/

namespace VirtualMemory

/-- The two physical stores. -/
inductive Device
  /-- The main store, which bytes are read from and written to. -/
  | ram
  /-- The store for pages that were evicted. -/
  | swap
deriving DecidableEq

/-- What is said of all stores is decided store by store. -/
instance (p : Device → Prop) [DecidablePred p] : Decidable (∀ device, p device) :=
  decidable_of_iff (p .ram ∧ p .swap)
    ⟨fun h device => Device.casesOn device h.1 h.2, fun h => ⟨h .ram, h .swap⟩⟩

/-- A request to the stores in a world: an answer or a refusal, and the world afterwards. -/
abbrev Access (ω α : Type) : Type := ω → Except StoreError α × ω

/-- The stores in a world of type `ω`. -/
class Backing (ω : Type) where
  /-- Reads the byte at an address. -/
  readByte : Device → Nat → Access ω UInt8
  /-- Writes a byte at an address. -/
  writeByte : Device → Nat → UInt8 → Access ω Unit
  /-- Takes a frame out of the free frames. -/
  acquireFrame : Device → Access ω Nat
  /-- Puts a frame back to the free frames. -/
  releaseFrame : Device → Nat → ω → ω

/-- The stores that a caller brings to an operation. -/
structure Stores where
  ram : Bool := true
  swap : Bool := true
deriving DecidableEq

/-- Whether a caller brings the given store. -/
def Stores.has (stores : Stores) : Device → Bool
  | .ram => stores.ram
  | .swap => stores.swap

/-- By default a caller brings both stores. -/
theorem Stores.has_default {device : Device} :
  ({} : Stores).has device = true
  := by
  cases device with
  | ram => rfl
  | swap => rfl

namespace Op

variable {κ ω σ α : Type}

/-- Fails unless the caller brings the given store. -/
def require (stores : Stores) (device : Device) : Op σ Unit :=
  if stores.has device then pure () else fail .invalidContext

/-- A request to the stores as an operation; a refusal is a failure. -/
def ofAccess (x : Access ω α) : Op ω α := fun w =>
  match x w with
  | (.ok a, w) => ⟨.ok a, w, []⟩
  | (.error e, w) => ⟨.error (.store e), w, []⟩

/-- A request to the stores beside a state of one's own. -/
def access (x : Access ω α) : Op (κ × ω) α := onSecond (ofAccess x)

/-- Takes a free frame of a store. -/
def acquire [Backing ω] (device : Device) : Op (κ × ω) Nat :=
  access (Backing.acquireFrame device)

/-- Puts a frame back to a store. -/
def release [Backing ω] (device : Device) (frame : Nat) : Op (κ × ω) Unit :=
  onSecond (modify (Backing.releaseFrame device frame))

theorem run_ofAccess {x : Access ω α} {w : ω} :
  ofAccess x w = ⟨(x w).1.mapError .store, (x w).2, []⟩
  := by
  unfold ofAccess
  rcases x w with ⟨answer | answer, w'⟩
  · rfl
  · rfl

end Op

end VirtualMemory
