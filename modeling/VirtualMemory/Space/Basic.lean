import VirtualMemory.Area.List
import VirtualMemory.HandleTable
import VirtualMemory.Paging.Range

/-!
# Address spaces

An address space has areas, a table of handles bound to regions of its heap, and the state of
its pages.  The heap is the area with number zero.  Operations run on the space beside the world
that holds the physical stores, which other spaces may share.
-/

namespace VirtualMemory

/-- An address space with configuration `c`. -/
structure Space (c : Config) where
  areas : AreaList
  handles : HandleTable
  paging : Paging c

namespace Space

variable {c : Config} {ω α : Type}

/-- The number of the heap. -/
def heapId : Nat := 0

/-- A new space: its heap is one free region, no handle is bound and no page is mapped. -/
def new (c : Config) : Space c where
  areas := .single ((Area.spanning heapId 0 c.initialHeapSize).enlistFree ⟨0, c.initialHeapSize⟩)
  handles := .empty c.handleCapacity
  paging := .empty c

/-- Makes a new space and reports it. -/
def create (c : Config) : Op ω (Space c) := do
  Op.emit (.spaceCreated c)
  pure (new c)

/-- Runs an operation on the areas. -/
def onAreas (x : Op AreaList α) : Op (Space c × ω) α :=
  Op.focus (fun (⟨areas, handles, paging⟩, w) => (areas, handles, paging, w))
    (fun areas (handles, paging, w) => (⟨areas, handles, paging⟩, w)) x

/-- Runs an operation on the pages beside the stores. -/
def onPaging (x : Op (Paging c × ω) α) : Op (Space c × ω) α :=
  Op.focus (fun (⟨areas, handles, paging⟩, w) => ((paging, w), areas, handles))
    (fun (paging, w) (areas, handles) => (⟨areas, handles, paging⟩, w)) x

/-- Runs an operation on the areas beside the pages and the stores. -/
def onAreasAndPaging (x : Op (AreaList × Paging c × ω) α) : Op (Space c × ω) α :=
  Op.focus (fun (⟨areas, handles, paging⟩, w) => ((areas, paging, w), handles))
    (fun (areas, paging, w) handles => (⟨areas, handles, paging⟩, w)) x

/-- Changes the areas. -/
def updateAreas (f : AreaList → AreaList) : Op (Space c × ω) Unit := onAreas (Op.modify f)

/-- Puts another handle table in place. -/
def setHandles (t : HandleTable) : Op (Space c × ω) Unit :=
  Op.onFirst (Op.modify fun s => { s with handles := t })

/-! ### Areas and pages -/

/-- Adds an area in use from `start` to `stop`. -/
def addArea (id start stop : Nat) : Op (Space c × ω) Unit :=
  onAreas (AreaList.insert (.spanning id start stop))

/-- Fails if a range is empty or meets an area with another number. -/
def validate (id start stop : Nat) : Op (Space c × ω) Unit :=
  onAreas (AreaList.validate id ⟨start, stop⟩)

/-- The area with a number. -/
def area (id : Nat) : Op (Space c × ω) Area := onAreas (AreaList.find id)

/-- The free regions of an area, the one freed last first. -/
def freeRegions (id : Nat) : Op (Space c × ω) (List Region) := Area.free <$> area id

/-- The entry of the page that holds an address. -/
def entryAt (s : Space c) (address : Nat) : Entry := s.paging.entry (c.pageOf address)

/-- Unmaps every page and answers with their number; the areas stay. -/
def releasePages [Backing ω] (stores : Stores) : Op (Space c × ω) Nat := do
  let pages ← onPaging (Paging.releaseAll stores)
  Op.emit (.released pages)
  pure pages

end Space

end VirtualMemory
