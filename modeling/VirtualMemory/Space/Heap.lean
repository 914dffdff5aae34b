import VirtualMemory.Space.Dump
import VirtualMemory.Space.Serve

/-!
# Regions of the heap

`allocate` binds a handle to bytes of the first free region of the heap that has enough, and
lets the heap grow if none has; `free` returns the region of a handle to the free ones; `read`
and `write` reach single bytes of a region.  After an allocation, a release and a write the
state is reported in writing, if the configuration asks for it.
-/

namespace VirtualMemory.Space

variable {c : Config} {ω : Type}

/-- Reports the state in writing after an operation, if the configuration asks for it. -/
def reportAfter (operation : String) : Op (Space c × ω) Unit := do
  if c.dumpTables then
    let text ← Op.gets fun s => s.1.dump
    Op.emit (.dumped operation text)

/-- Puts a region at the head of the free regions of the heap. -/
def enlistFree (r : Region) : Op (Space c × ω) Unit := do
  let _ ← area heapId
  updateAreas (·.modify heapId (·.enlistFree r))

/-- Lets the heap grow by `size` bytes and one page more, in whole pages, and answers with the
first `size` new bytes; the others become free.  The address behind the first `size` bytes is
taken as a word. -/
def growHeap [Backing ω] (stores : Stores) (size : Nat) : Op (Space c × ω) Region := do
  let old := (← area heapId).brk
  let increment := Word.saturatingAdd (c.alignUp size) c.pageSize
  Op.mapError (fun _ => .outOfSpace) <|
    Op.onFailure (growArea stores heapId increment) fun e =>
      Op.emit (.heapGrowthRefused increment e)
  let grown ← area heapId
  let taken : Region := ⟨old, Word.wrap (old + size)⟩
  updateAreas (·.modify heapId (·.enlistFree ⟨taken.stop, grown.stop⟩))
  pure taken

/-- Takes `size` bytes of the heap. -/
def takeRegion [Backing ω] (stores : Stores) (size : Nat) : Op (Space c × ω) Region := do
  let heap ← area heapId
  match heap.firstFit? size with
  | some (taken, heap) =>
    updateAreas (·.modify heapId fun _ => heap)
    pure taken
  | none => growHeap stores size

/-- Binds a handle to a region.  The region it was bound to before becomes free. -/
def bindHandle (handle : Nat) (r : Region) : Op (Space c × ω) Unit := do
  let (previous, handles) ← Op.ofExcept (← Op.gets fun s => s.1.handles.set handle r)
  setHandles handles
  match previous with
  | some previous =>
    if previous.isEmpty then pure ()
    else
      Op.emit (.rebound handle previous)
      enlistFree previous
  | none => pure ()

/-- Binds a handle to `size` bytes of the heap and answers with the address of the first. -/
def allocate [Backing ω] (stores : Stores) (handle size : Nat) : Op (Space c × ω) Nat := do
  if size = 0 then
    Op.fail .invalidSize
  else if c.handleCapacity ≤ handle then
    Op.fail (.invalidHandle handle)
  else
    let r ← takeRegion stores size
    bindHandle handle r
    reportAfter "alloc"
    pure r.start

/-- Unbinds a handle; its region becomes free. -/
def free (handle : Nat) : Op (Space c × ω) Region := do
  let (r, handles) ← Op.ofExcept (← Op.gets fun s => s.1.handles.take handle)
  let _ ← area heapId
  setHandles handles
  updateAreas (·.modify heapId (·.enlistFree r))
  reportAfter "free"
  pure r

/-- The virtual address at an offset in the region of a handle. -/
def locate (handle offset : Nat) : Op (Space c × ω) Nat := do
  let r ← Op.ofExcept (← Op.gets fun s => s.1.handles.get handle)
  if r.length ≤ offset then Op.fail (.outOfBounds offset r.length)
  else pure (r.start + offset)

/-- Reads a byte of the region of a handle. -/
def read [Backing ω] (stores : Stores) (handle offset : Nat) : Op (Space c × ω) UInt8 := do
  let address ← locate handle offset
  load stores address

/-- Writes a byte of the region of a handle and answers with its address. -/
def write [Backing ω] (stores : Stores) (handle offset : Nat) (value : UInt8) :
    Op (Space c × ω) Nat := do
  let address ← locate handle offset
  store stores address value
  reportAfter "write"
  pure address

end VirtualMemory.Space
