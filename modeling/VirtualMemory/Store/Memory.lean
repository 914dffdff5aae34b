import VirtualMemory.Store.Backing

/-!
# Stores in memory

A store of bytes kept in memory, cut into frames.  Frame zero is never free; the free frames are
handed out in the order of a queue.  Bytes behind the last whole frame can be read and written.
-/

namespace VirtualMemory

/-- A store of bytes with its free frames. -/
structure Memory where
  /-- The bytes, by address. -/
  bytes : Array UInt8
  /-- The free frames, first to be handed out first. -/
  free : List Nat
  /-- Bytes in a frame. -/
  frameSize : Nat

namespace Memory

/-- The number of frames of the given size in the given number of bytes. -/
def framesIn (size frameSize : Nat) : Nat := size / max frameSize 1

/-- A store of zeros in which every frame but the first is free. -/
def zeroed (size frameSize : Nat) : Memory where
  bytes := Array.replicate size 0
  free := List.range' 1 (framesIn size frameSize - 1)
  frameSize := frameSize

/-- The number of bytes. -/
def size (m : Memory) : Nat := m.bytes.size

/-- The number of whole frames, the reserved first one included. -/
def frameCount (m : Memory) : Nat := framesIn m.size m.frameSize

/-- Reads the byte at an address. -/
def readByte (address : Nat) : Access Memory UInt8 := fun m =>
  match m.bytes[address]? with
  | some byte => (.ok byte, m)
  | none => (.error (.outOfRange address), m)

/-- Writes a byte at an address. -/
def writeByte (address : Nat) (value : UInt8) : Access Memory Unit
  | ⟨bytes, free, frameSize⟩ =>
    if h : address < bytes.size then (.ok (), ⟨bytes.set address value, free, frameSize⟩)
    else (.error (.outOfRange address), ⟨bytes, free, frameSize⟩)

/-- Takes the first free frame. -/
def acquireFrame : Access Memory Nat
  | ⟨bytes, free, frameSize⟩ =>
    match free with
    | [] => (.error .exhausted, ⟨bytes, [], frameSize⟩)
    | frame :: rest => (.ok frame, ⟨bytes, rest, frameSize⟩)

/-- Puts a frame behind the free ones.  Frame zero, a frame that starts behind the last byte and
a frame that is free already are ignored. -/
def releaseFrame (frame : Nat) : Memory → Memory
  | ⟨bytes, free, frameSize⟩ =>
    if frame = 0 ∨ bytes.size ≤ frame * frameSize ∨ frame ∈ free then ⟨bytes, free, frameSize⟩
    else ⟨bytes, free ++ [frame], frameSize⟩

/-! ### What each request changes -/

variable {m : Memory} {address frame : Nat} {value : UInt8}

/-- Reading changes nothing. -/
@[simp]
theorem readByte_snd :
  (readByte address m).2 = m
  := by
  rw [readByte]
  cases m.bytes[address]? with
  | some byte => rfl
  | none => rfl

theorem readByte_fst :
  (readByte address m).1 =
    match m.bytes[address]? with
    | some byte => .ok byte
    | none => .error (.outOfRange address)
  := by
  rw [readByte]
  cases m.bytes[address]? with
  | some byte => rfl
  | none => rfl

/-- Writing an address changes its byte and no other, if the address is in the store. -/
theorem bytes_writeByte :
  (writeByte address value m).2.bytes = m.bytes.setIfInBounds address value
  := by
  unfold writeByte Array.setIfInBounds
  dsimp only
  split
  · rfl
  · rfl

@[simp]
theorem free_writeByte :
  (writeByte address value m).2.free = m.free
  := by
  unfold writeByte
  dsimp only
  split
  · rfl
  · rfl

@[simp]
theorem frameSize_writeByte :
  (writeByte address value m).2.frameSize = m.frameSize
  := by
  unfold writeByte
  dsimp only
  split
  · rfl
  · rfl

/-- The first free frame is handed out. -/
theorem acquireFrame_fst :
  (acquireFrame m).1 =
    match m.free with
    | [] => .error .exhausted
    | frame :: _ => .ok frame
  := by
  obtain ⟨bytes, free, frameSize⟩ := m
  cases free with
  | nil => rfl
  | cons frame rest => rfl

/-- Putting a frame back leaves the bytes alone. -/
@[simp]
theorem bytes_releaseFrame :
  (m.releaseFrame frame).bytes = m.bytes
  := by
  unfold releaseFrame
  dsimp only
  split
  · rfl
  · rfl

theorem free_releaseFrame :
  (m.releaseFrame frame).free =
    if frame = 0 ∨ m.bytes.size ≤ frame * m.frameSize ∨ frame ∈ m.free then m.free
    else m.free ++ [frame]
  := by
  unfold releaseFrame
  dsimp only
  split
  · rfl
  · rfl

end Memory

end VirtualMemory
