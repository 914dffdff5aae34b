import VirtualMemory.Store.Memory
import VirtualMemory.Proofs.Page.Place
import Mathlib.Data.List.Nodup
import Mathlib.Tactic.Use

/-!
# The main memory and the swap memory

`Memories` is a memory for each of the two devices.  A frame is a number from one on whose page
lies wholly in its memory.  Two changes of memories matter: other free frames, `withFree`, and
other bytes, `SameBut touched`, where `touched` says at which addresses.  The bytes of different
places do not meet.
-/

namespace VirtualMemory

/-- Taking a frame drops it from the free ones. -/
theorem Memory.acquireFrame_snd {m : Memory} :
  (Memory.acquireFrame m).2 = { m with free := m.free.tail }
  := by
  obtain ⟨bytes, free, frameSize⟩ := m
  cases free <;> rfl

@[simp]
theorem Memory.frameSize_releaseFrame {m : Memory} {frame : Nat} :
  (m.releaseFrame frame).frameSize = m.frameSize
  := by
  unfold releaseFrame
  dsimp only
  split
  · rfl
  · rfl

namespace Memory

variable {m : Memory} {frame : Nat}

/-- Frames are numbered from one on and lie wholly in the memory. -/
def IsFrame (m : Memory) (frame : Nat) : Prop := 1 ≤ frame ∧ frame < m.frameCount

/-- The bytes of a frame are in the memory; a frame without bytes takes up one. -/
theorem IsFrame.whole (h : m.IsFrame frame) :
  frame * max m.frameSize 1 + max m.frameSize 1 ≤ m.size
  := by
  have le : (frame + 1) * max m.frameSize 1 ≤ m.size := by
    apply le_trans (Nat.mul_le_mul_right _ h.2)
    apply Nat.div_mul_le_self
  rw [Nat.add_mul, Nat.one_mul] at le
  apply le

theorem IsFrame.mul_lt_size (h : m.IsFrame frame) :
  frame * m.frameSize < m.size
  := by
  have whole := h.whole
  have one_le := Nat.le_max_right m.frameSize 1
  have mul_le := Nat.mul_le_mul_left frame (Nat.le_max_left m.frameSize 1)
  omega

end Memory

/-- A memory for each device. -/
abbrev Memories : Type := Device → Memory

namespace Memories

variable {m m' m'' : Memories} {device : Device} {frame size : Nat} {x y : Place}

/-- The byte at an address, zero beyond the end. -/
def byte (m : Memories) (device : Device) (address : Nat) : UInt8 :=
  (m device).bytes.getD address 0

/-- The byte of a place at an offset, for places of `size` bytes. -/
def placeByte (m : Memories) (size : Nat) (x : Place) (offset : Nat) : UInt8 :=
  m.byte x.1 (x.2 * size + offset)

/-- Frames are numbered from one on and lie wholly in their memory. -/
def IsFrame (m : Memories) (x : Place) : Prop := 1 ≤ x.2 ∧ x.2 < (m x.1).frameCount

/-- Whether an address is one of a place with `size` bytes. -/
def Covers (size : Nat) (x : Place) (device : Device) (address : Nat) : Prop :=
  device = x.1 ∧ x.2 * size ≤ address ∧ address < x.2 * size + size

/-- Different places have no address in common. -/
theorem Covers.eq {address : Nat} (hx : Covers size x device address)
    (hy : Covers size y device address) :
  x = y
  := by
  obtain ⟨rfl, hx, hx'⟩ := hx
  obtain ⟨device_eq, hy, hy'⟩ := hy
  apply Prod.ext device_eq
  have le : x.2 < y.2 + 1 := by
    apply Nat.lt_of_mul_lt_mul_right (a := size)
    rw [Nat.add_mul]
    omega
  have ge : y.2 < x.2 + 1 := by
    apply Nat.lt_of_mul_lt_mul_right (a := size)
    rw [Nat.add_mul]
    omega
  omega

/-! ### Other bytes -/

/-- The same sizes and free frames, and the same bytes but where `touched` holds. -/
structure SameBut (touched : Device → Nat → Prop) (m m' : Memories) : Prop where
  free : ∀ device, (m' device).free = (m device).free
  frameSize : ∀ device, (m' device).frameSize = (m device).frameSize
  size : ∀ device, (m' device).size = (m device).size
  byte : ∀ device address, ¬ touched device address → m'.byte device address = m.byte device address

variable {touched touched' : Device → Nat → Prop}

theorem SameBut.refl :
  SameBut touched m m
  := ⟨fun _ => rfl, fun _ => rfl, fun _ => rfl, fun _ _ _ => rfl⟩

theorem SameBut.of_eq (h : m' = m) :
  SameBut touched m m'
  := by
  rw [h]
  apply SameBut.refl

theorem SameBut.trans (h : SameBut touched m m') (h' : SameBut touched m' m'') :
  SameBut touched m m''
  := by
  constructor
  · intro d
    rw [h'.free, h.free]
  · intro d
    rw [h'.frameSize, h.frameSize]
  · intro d
    rw [h'.size, h.size]
  · intro d a outside
    rw [h'.byte d a outside, h.byte d a outside]

theorem SameBut.mono (h : SameBut touched m m')
    (sub : ∀ device address, touched device address → touched' device address) :
  SameBut touched' m m'
  := by
  use h.free, h.frameSize, h.size
  intro d a outside
  apply h.byte d a
  intro touch
  apply outside (sub d a touch)

theorem SameBut.frameCount (h : SameBut touched m m') :
  (m' device).frameCount = (m device).frameCount
  := by
  rw [Memory.frameCount, h.size, h.frameSize, ← Memory.frameCount]

/-- A place none of whose addresses is touched keeps its bytes. -/
theorem SameBut.placeByte {y : Place} {offset : Nat} (h : SameBut (Covers size y) m m')
    (ne : x ≠ y) (inside : offset < size) :
  m'.placeByte size x offset = m.placeByte size x offset
  := by
  apply h.byte
  intro touch
  apply ne
  apply Covers.eq _ touch
  use rfl, Nat.le_add_right _ _
  apply Nat.add_lt_add_left inside _

/-! ### Other free frames -/

/-- The memories with other free frames of one device. -/
def withFree (m : Memories) (device : Device) (free : List Nat) : Memories :=
  Function.update m device { m device with free := free }

theorem free_withFree {d : Device} {free : List Nat} :
  (m.withFree device free d).free = if d = device then free else (m d).free
  := by
  rw [withFree, Function.update_apply]
  split
  · rfl
  · rfl

@[simp]
theorem bytes_withFree {d : Device} {free : List Nat} :
  (m.withFree device free d).bytes = (m d).bytes
  := by
  rw [withFree, Function.update_apply]
  split
  · next h => rw [h]
  · rfl

@[simp]
theorem frameSize_withFree {d : Device} {free : List Nat} :
  (m.withFree device free d).frameSize = (m d).frameSize
  := by
  rw [withFree, Function.update_apply]
  split
  · next h => rw [h]
  · rfl

@[simp]
theorem size_withFree {d : Device} {free : List Nat} :
  (m.withFree device free d).size = (m d).size
  := by
  rw [Memory.size, bytes_withFree, Memory.size]

@[simp]
theorem frameCount_withFree {d : Device} {free : List Nat} :
  (m.withFree device free d).frameCount = (m d).frameCount
  := by
  rw [Memory.frameCount, size_withFree, frameSize_withFree, Memory.frameCount]

@[simp]
theorem byte_withFree {d : Device} {free : List Nat} {address : Nat} :
  (m.withFree device free).byte d address = m.byte d address
  := by
  rw [byte, bytes_withFree, byte]

@[simp]
theorem placeByte_withFree {free : List Nat} {offset : Nat} :
  (m.withFree device free).placeByte size x offset = m.placeByte size x offset
  := byte_withFree

@[simp]
theorem isFrame_withFree {free : List Nat} :
  (m.withFree device free).IsFrame x ↔ m.IsFrame x
  := by
  rw [IsFrame, frameCount_withFree, IsFrame]

theorem IsFrame.inside (h : m.IsFrame x) (frameSize : (m x.1).frameSize = size) :
  x.2 * size + size ≤ (m x.1).size
  := by
  have whole := Memory.IsFrame.whole h
  have le : size ≤ max size 1 := Nat.le_max_left size 1
  have mul_le := Nat.mul_le_mul_left x.2 le
  rw [frameSize] at whole
  exact le_trans (Nat.add_le_add mul_le le) whole

/-- A frame that is not free becomes the last free one. -/
theorem IsFrame.releaseFrame (h : m.IsFrame x) (used : x.2 ∉ (m x.1).free) :
  Function.update m x.1 ((m x.1).releaseFrame x.2) = m.withFree x.1 ((m x.1).free ++ [x.2])
  := by
  have kept : ¬ (x.2 = 0 ∨ (m x.1).bytes.size ≤ x.2 * (m x.1).frameSize ∨ x.2 ∈ (m x.1).free)
    := by
    rintro (zero | beyond | free)
    · have := h.1
      omega
    · have := Memory.IsFrame.mul_lt_size h
      rw [Memory.size] at this
      omega
    · apply used free
  rw [withFree]
  congr 1
  rw [Memory.releaseFrame]
  apply if_neg kept

end Memories

end VirtualMemory
