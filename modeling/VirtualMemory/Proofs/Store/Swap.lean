import VirtualMemory.Store.Faults
import VirtualMemory.Proofs.Store.Backed

/-!
# Worlds in which the swap store is a memory

Nothing is said of the main store of such a world but that requests to it leave the swap store
alone: it may refuse any access and hand out any number.  A copy of a frame to a slot changes bytes
of the slot only, and frames of the swap memory that are taken and given back keep its free frames
different and whole.
-/

namespace VirtualMemory

open Backing

/-! ### Free frames of a memory -/

namespace Memory

variable {m m' m'' : Memory} {frame size : Nat} {touched : Nat → Prop}

/-- Only frames are free, and none twice. -/
structure PoolsFrames (m : Memory) : Prop where
  nodup : m.free.Nodup
  isFrame : ∀ frame ∈ m.free, m.IsFrame frame

theorem poolsFrames_zeroed {frameSize : Nat} :
  (zeroed size frameSize).PoolsFrames
  := by
  use List.nodup_range'
  intro frame mem
  obtain ⟨pos, lt⟩ := List.mem_range'_1.mp mem
  use pos
  have count : (zeroed size frameSize).frameCount = framesIn size frameSize := by
    rw [frameCount, Memory.size, zeroed, Array.size_replicate]
  omega

/-- A frame that is given back is free, and the others are free as before. -/
theorem IsFrame.mem_free_releaseFrame {other : Nat} (h : m.IsFrame frame) :
  other ∈ (m.releaseFrame frame).free ↔ other ∈ m.free ∨ other = frame
  := by
  rw [free_releaseFrame]
  split
  · next ignored =>
      have free : frame ∈ m.free := by
        rcases ignored with zero | beyond | free
        · exact absurd zero (Nat.ne_of_gt h.1)
        · exact absurd h.mul_lt_size (Nat.not_lt_of_le beyond)
        · apply free
      use Or.inl
      rintro (mem | rfl)
      · apply mem
      · apply free
  · rw [List.mem_append, List.mem_singleton]

@[simp]
theorem frameCount_releaseFrame :
  (m.releaseFrame frame).frameCount = m.frameCount
  := by
  rw [frameCount, Memory.size, bytes_releaseFrame, frameSize_releaseFrame, ← Memory.size,
    ← frameCount]

theorem PoolsFrames.releaseFrame (h : m.PoolsFrames) (isFrame : m.IsFrame frame) :
  (m.releaseFrame frame).PoolsFrames
  := by
  constructor
  · rw [free_releaseFrame]
    split
    · apply h.nodup
    · next kept =>
        apply h.nodup.append (List.nodup_singleton frame)
        rw [List.disjoint_singleton]
        intro free
        exact kept (Or.inr (Or.inr free))
  · intro other mem
    rw [IsFrame, frameCount_releaseFrame]
    rcases isFrame.mem_free_releaseFrame.mp mem with mem | rfl
    · apply h.isFrame other mem
    · apply isFrame

/-- The same frames, the same of them free, and the same bytes but where `touched` holds. -/
structure SameBut (touched : Nat → Prop) (m m' : Memory) : Prop where
  free : m'.free = m.free
  frameCount : m'.frameCount = m.frameCount
  byte : ∀ address, ¬ touched address → (readByte address m').1 = (readByte address m).1

theorem SameBut.refl :
  SameBut touched m m
  := ⟨rfl, rfl, fun _ _ => rfl⟩

theorem SameBut.trans (h : SameBut touched m m') (h' : SameBut touched m' m'') :
  SameBut touched m m''
  := by
  constructor
  · rw [h'.free, h.free]
  · rw [h'.frameCount, h.frameCount]
  · intro address outside
    rw [h'.byte address outside, h.byte address outside]

theorem SameBut.poolsFrames (h : SameBut touched m m') (pool : m.PoolsFrames) :
  m'.PoolsFrames
  := by
  constructor
  · rw [h.free]
    apply pool.nodup
  · intro frame mem
    rw [IsFrame, h.frameCount]
    rw [h.free] at mem
    apply pool.isFrame frame mem

/-- A write touches its address. -/
theorem sameBut_writeByte {address : Nat} {value : UInt8} (touches : touched address) :
  SameBut touched m (writeByte address value m).2
  := by
  use free_writeByte
  · rw [Memory.frameCount, Memory.size, bytes_writeByte, Array.size_setIfInBounds,
      frameSize_writeByte, ← Memory.size, ← Memory.frameCount]
  · intro other outside
    have ne : address ≠ other := by
      rintro rfl
      apply outside touches
    rw [readByte_fst, bytes_writeByte, Array.getElem?_setIfInBounds_ne ne, readByte_fst]

end Memory

/-! ### Requests -/

/-- The swap store is a memory, which requests to the main store leave alone. -/
class SwapBacked (ω : Type) extends Backing ω where
  /-- The memory that is the swap store of a world. -/
  swap : ω → Memory
  readByte_ram : ∀ address w, swap (readByte .ram address w).2 = swap w
  writeByte_ram : ∀ address value w, swap (writeByte .ram address value w).2 = swap w
  acquireFrame_ram : ∀ w, swap (acquireFrame .ram w).2 = swap w
  releaseFrame_ram : ∀ frame w, swap (releaseFrame .ram frame w) = swap w
  readByte_swap : ∀ address w,
    (readByte .swap address w).map id swap = Memory.readByte address (swap w)
  writeByte_swap : ∀ address value w,
    (writeByte .swap address value w).map id swap = Memory.writeByte address value (swap w)
  acquireFrame_swap : ∀ w, (acquireFrame .swap w).map id swap = Memory.acquireFrame (swap w)
  releaseFrame_swap : ∀ frame w, swap (releaseFrame .swap frame w) = (swap w).releaseFrame frame

open SwapBacked

variable {ω : Type} [SwapBacked ω] {w w' : ω} {device : Device} {slot frame address size : Nat}
variable {e : StoreError}

/-- Reading leaves the swap memory alone. -/
theorem swap_readByte :
  swap (readByte device address w).2 = swap w
  := by
  cases device with
  | ram => apply readByte_ram
  | swap =>
      have served := congrArg Prod.snd (readByte_swap address w)
      rw [Memory.readByte_snd] at served
      apply served

/-- Asking the main store for a frame leaves the swap memory alone. -/
theorem swap_acquireFrame_ram {answer : Except StoreError Nat}
    (acquired : acquireFrame .ram w = (answer, w')) :
  swap w' = swap w
  := by
  have same := acquireFrame_ram w
  rw [acquired] at same
  apply same

/-- A byte of the swap store is read from its memory. -/
theorem readByte_swap_fst :
  (readByte .swap address w).1 = (Memory.readByte address (swap w)).1
  := congrArg Prod.fst (readByte_swap address w)

/-- A slot that is handed out was the first free frame of the swap memory. -/
theorem swap_acquireFrame_of_ok (acquired : acquireFrame .swap w = (.ok slot, w')) :
  (swap w).free = slot :: (swap w').free ∧ (swap w').frameCount = (swap w).frameCount ∧
    ∀ address, (Memory.readByte address (swap w')).1 = (Memory.readByte address (swap w)).1
  := by
  have served := acquireFrame_swap w
  rw [acquired, Prod.map_apply, id_eq] at served
  have answer := congrArg Prod.fst served
  have state := congrArg Prod.snd served
  dsimp only at answer state
  rw [Memory.acquireFrame_fst] at answer
  rw [Memory.acquireFrame_snd] at state
  rw [state]
  split at answer
  · cases answer
  · next first rest free =>
      cases answer
      constructor
      · rw [free, List.tail_cons]
      constructor
      · rfl
      · intro address
        rw [Memory.readByte_fst, Memory.readByte_fst]

/-- If no slot is handed out the swap memory stays as it is. -/
theorem swap_acquireFrame_of_error (acquired : acquireFrame .swap w = (.error e, w')) :
  swap w' = swap w
  := by
  have served := acquireFrame_swap w
  rw [acquired, Prod.map_apply, id_eq] at served
  have answer := congrArg Prod.fst served
  have state := congrArg Prod.snd served
  dsimp only at answer state
  rw [Memory.acquireFrame_fst] at answer
  rw [Memory.acquireFrame_snd] at state
  split at answer
  · next free => rw [state, free, List.tail_nil, ← free]
  · cases answer

/-! ### Pages -/

/-- A frame of the main store is cleared without a change of the swap memory. -/
theorem swap_clearFrame_ram {answer : Except StoreError Unit}
    (cleared : clearFrame size .ram frame w = (answer, w')) :
  swap w' = swap w
  := by
  obtain rfl : (clearFrame size .ram frame w).2 = w' := congrArg Prod.snd cleared
  rw [clearFrame]
  split
  · rfl
  · apply clearBytes_closed (R := fun w w' => swap w' = swap w)
    · intro w
      rfl
    · intro w w' w'' h h'
      rw [h', h]
    · intro a value w _ _
      apply writeByte_ram

/-- A page is copied to a frame of the main store without a change of the swap memory. -/
theorem swap_copyPage_ram {source : Device} {answer : Except StoreError Unit}
    (copied : copyPage size source slot .ram frame w = (answer, w')) :
  swap w' = swap w
  := by
  obtain rfl : (copyPage size source slot .ram frame w).2 = w' := congrArg Prod.snd copied
  rw [copyPage]
  split
  · rfl
  · split
    · rfl
    · apply copyBytes_closed (R := fun w w' => swap w' = swap w)
      · intro w
        rfl
      · intro w w' w'' h h'
        rw [h', h]
      · intro a w
        apply swap_readByte
      · intro a value w _ _
        apply writeByte_ram

/-- A page that is copied to a slot touches bytes of the slot. -/
theorem sameBut_copyPage_swap {source : Device} {answer : Except StoreError Unit}
    (copied : copyPage size source frame .swap slot w = (answer, w')) :
  Memory.SameBut (fun a => slot * size ≤ a ∧ a < slot * size + size) (swap w) (swap w')
  := by
  obtain rfl : (copyPage size source frame .swap slot w).2 = w' := congrArg Prod.snd copied
  rw [copyPage]
  split
  · apply Memory.SameBut.refl
  · split
    · apply Memory.SameBut.refl
    · next base room =>
        obtain ⟨-, rfl⟩ := frameBase_eq_ok_iff.mp room
        apply copyBytes_closed (R := fun w w' => Memory.SameBut _ (swap w) (swap w'))
        · intro w
          apply Memory.SameBut.refl
        · intro w w' w'' h h'
          apply h.trans h'
        · intro a w
          rw [swap_readByte]
          apply Memory.SameBut.refl
        · intro a value w ge lt
          have served : swap (writeByte .swap a value w).2 = (Memory.writeByte a value (swap w)).2
            := congrArg Prod.snd (writeByte_swap a value w)
          rw [served]
          exact Memory.sameBut_writeByte ⟨ge, lt⟩

/-! ### A main store with faults -/

/-- A main store whose answers can be spoiled, beside a swap store in memory. -/
structure FaultyMain where
  ram : FaultyMemory
  swap : Memory

namespace FaultyMain

variable {α : Type}

/-- Runs a request on the main store. -/
def onRam (x : Access FaultyMemory α) : Access FaultyMain α := fun m =>
  ((x m.ram).1, { m with ram := (x m.ram).2 })

/-- Runs a request on the swap store. -/
def onSwap (x : Access Memory α) : Access FaultyMain α := fun m =>
  ((x m.swap).1, { m with swap := (x m.swap).2 })

instance : Backing FaultyMain where
  readByte
    | .ram, address => onRam (FaultyMemory.readByte address)
    | .swap, address => onSwap (Memory.readByte address)
  writeByte
    | .ram, address, value => onRam (FaultyMemory.writeByte address value)
    | .swap, address, value => onSwap (Memory.writeByte address value)
  acquireFrame
    | .ram => onRam FaultyMemory.acquireFrame
    | .swap => onSwap Memory.acquireFrame
  releaseFrame
    | .ram, frame, m => { m with ram := m.ram.releaseFrame frame }
    | .swap, frame, m => { m with swap := m.swap.releaseFrame frame }

instance : SwapBacked FaultyMain where
  swap := swap
  readByte_ram _ _ := rfl
  writeByte_ram _ _ _ := rfl
  acquireFrame_ram _ := rfl
  releaseFrame_ram _ _ := rfl
  readByte_swap _ _ := rfl
  writeByte_swap _ _ _ := rfl
  acquireFrame_swap _ := rfl
  releaseFrame_swap _ _ := rfl

end FaultyMain

end VirtualMemory
