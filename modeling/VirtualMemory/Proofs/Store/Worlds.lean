import VirtualMemory.Store.Faults
import VirtualMemory.Proofs.Store.Backed

/-!
# Worlds backed by memories

A pair of memories is a world of its own, whose stores are reliable.  A machine whose stores
hand out free frames only is backed by its memories, however many of their addresses are
spoiled.
-/

namespace VirtualMemory

/-! ### Pairs of memories -/

namespace Memories

/-- Runs a request on the memory of a device. -/
def on {α : Type} (device : Device) (x : Access Memory α) : Access Memories α := fun m =>
  ((x (m device)).1, Function.update m device (x (m device)).2)

instance : Backing Memories where
  readByte device address := on device (Memory.readByte address)
  writeByte device address value := on device (Memory.writeByte address value)
  acquireFrame device := on device Memory.acquireFrame
  releaseFrame device frame m := Function.update m device ((m device).releaseFrame frame)

instance : Reliable Memories where
  memory := id
  readByte_ends _ _ _ := Or.inr ⟨rfl, rfl⟩
  writeByte_ends _ _ _ _ := Or.inr ⟨rfl, rfl⟩
  acquireFrame_ends _ _ := Or.inr ⟨rfl, rfl⟩
  memory_releaseFrame _ _ _ := rfl
  readByte_serves _ _ _ := ⟨rfl, rfl⟩
  writeByte_serves _ _ _ _ := ⟨rfl, rfl⟩
  acquireFrame_serves _ _ := ⟨rfl, rfl⟩

end Memories

/-! ### Machines -/

/-- A machine whose stores hand out free frames only. -/
structure HonestMachine where
  machine : Machine
  honest : ∀ device, (machine.store device).faults.pool = []

namespace Machine

variable {m : Machine} {device d : Device} {α : Type}

theorem on_fst {x : Access FaultyMemory α} :
  (on x device m).1 = (x (m.store device)).1
  := by
  cases device with
  | ram => rfl
  | swap => rfl

theorem store_on {x : Access FaultyMemory α} :
  (on x device m).2.store d = if d = device then (x (m.store device)).2 else m.store d
  := by
  cases device with
  | ram => cases d <;> rfl
  | swap => cases d <;> rfl

theorem store_modify {f : FaultyMemory → FaultyMemory} :
  (modify f device m).store d = if d = device then f (m.store device) else m.store d
  := by
  cases device with
  | ram => cases d <;> rfl
  | swap => cases d <;> rfl

end Machine

namespace HonestMachine

variable {α : Type}

/-- The memory behind each store. -/
def memory (m : HonestMachine) : Memories := fun device => (m.machine.store device).memory

/-- Whether a request leaves a store without a pool of frame numbers if it had none. -/
def IsHonest (x : Access FaultyMemory α) : Prop :=
  ∀ m, m.faults.pool = [] → (x m).2.faults.pool = []

theorem IsHonest.on {x : Access FaultyMemory α} (h : IsHonest x) (device : Device)
    (m : HonestMachine) (d : Device) :
  ((Machine.on x device m.machine).2.store d).faults.pool = []
  := by
  rw [Machine.store_on]
  split
  · apply h _ (m.honest device)
  · apply m.honest

/-- Runs a request on one of the two stores. -/
def on (x : Access FaultyMemory α) (h : IsHonest x) (device : Device) : Access HonestMachine α :=
  fun m => ((Machine.on x device m.machine).1, ⟨(Machine.on x device m.machine).2, h.on device m⟩)

theorem isHonest_readByte {address : Nat} :
  IsHonest (FaultyMemory.readByte address)
  := by
  intro m h
  rw [FaultyMemory.readByte]
  split
  · apply h
  · apply h

theorem isHonest_writeByte {address : Nat} {value : UInt8} :
  IsHonest (FaultyMemory.writeByte address value)
  := by
  intro m h
  rw [FaultyMemory.writeByte]
  split
  · apply h
  · apply h

theorem isHonest_acquireFrame :
  IsHonest FaultyMemory.acquireFrame
  := by
  intro m h
  rw [FaultyMemory.acquireFrame, h]
  split
  · apply h
  · next eq => cases eq
  · apply h

instance : Backing HonestMachine where
  readByte device address := on (FaultyMemory.readByte address) isHonest_readByte device
  writeByte device address value :=
    on (FaultyMemory.writeByte address value) isHonest_writeByte device
  acquireFrame device := on FaultyMemory.acquireFrame isHonest_acquireFrame device
  releaseFrame device frame m :=
    ⟨Machine.modify (FaultyMemory.releaseFrame frame) device m.machine, by
      intro d
      rw [Machine.store_modify]
      split
      · apply m.honest
      · apply m.honest⟩

/-- A request that a store passes on to its memory is served. -/
theorem serves_on {x : Access FaultyMemory α} {h : IsHonest x} {request : Access Memory α}
    {device : Device} {m : HonestMachine}
    (answer : (x (m.machine.store device)).1 = (request (m.memory device)).1)
    (state : (x (m.machine.store device)).2.memory = (request (m.memory device)).2) :
  Serves memory device request (on x h device) m
  := by
  constructor
  · rw [on, Machine.on_fst, answer]
  · funext d
    rw [memory, on, Machine.store_on, Function.update_apply]
    split
    · apply state
    · rfl

/-- A request that a store answers itself is refused. -/
theorem refuses_on {x : Access FaultyMemory α} {h : IsHonest x} {device : Device}
    {m : HonestMachine} {e : StoreError}
    (refused : x (m.machine.store device) = (.error e, m.machine.store device)) :
  Refuses memory (on x h device) m
  := by
  constructor
  · use e
    rw [on, Machine.on_fst, refused]
  · funext d
    rw [memory, on, Machine.store_on]
    split
    · next eq => rw [refused, eq, memory]
    · rfl

instance : MemoryBacked HonestMachine where
  memory := memory
  readByte_ends device address m := by
    by_cases bad : address ∈ (m.machine.store device).faults.badReads
    · apply Or.inl
      apply refuses_on (if_pos bad)
    · apply Or.inr
      apply serves_on
      · rw [FaultyMemory.readByte, if_neg bad]
        rfl
      · rw [FaultyMemory.readByte, if_neg bad]
        rfl
  writeByte_ends device address value m := by
    by_cases bad : address ∈ (m.machine.store device).faults.badWrites
    · apply Or.inl
      apply refuses_on (if_pos bad)
    · apply Or.inr
      apply serves_on
      · rw [FaultyMemory.writeByte, if_neg bad]
        rfl
      · rw [FaultyMemory.writeByte, if_neg bad]
        rfl
  acquireFrame_ends device m := by
    rcases spoiled : (m.machine.store device).faults.acquireError with - | address
    · apply Or.inr
      apply serves_on
      · rw [FaultyMemory.acquireFrame, spoiled, m.honest device]
        rfl
      · rw [FaultyMemory.acquireFrame, spoiled, m.honest device]
        rfl
    · apply Or.inl
      apply refuses_on
      rw [FaultyMemory.acquireFrame, spoiled]
  memory_releaseFrame device frame m := by
    funext d
    rw [Function.update_apply]
    show ((Machine.modify _ device m.machine).store d).memory = _
    rw [Machine.store_modify]
    split
    · rfl
    · rfl

end HonestMachine

end VirtualMemory
