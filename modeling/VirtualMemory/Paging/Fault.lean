import VirtualMemory.Paging.Basic

/-!
# Page faults

`resolve` finds the frame of a page and brings the page into a frame first if it has none.  The
frame is a free one, or that of the oldest resident page, which is evicted to a swap slot.  A
page that was swapped out comes back with its bytes, and a page without contents starts with
zeros.  Each step that fails gives back the frame or slot it took last.
-/

namespace VirtualMemory.Paging

variable {c : Config} {ω : Type} [Backing ω]

/-- The number of the one swap device. -/
def swapDevice : Nat := 0

/-- The frame of a page chosen for eviction; fails if it is in none. -/
def frameOf (page : Nat) : Op (Paging c × ω) Nat := do
  match (← lookEntry page).frame? with
  | some frame => pure frame
  | none => Op.fail .mappingFailed

/-- Evicts the oldest resident page to a free slot of the swap store and answers with its frame.
If the page cannot be copied it is listed again, as the most recent one. -/
def evict (stores : Stores) : Op (Paging c × ω) Nat := do
  Op.require stores .swap
  let slot ← Op.mapError (fun _ => .mappingFailed) (Op.acquire .swap)
  let victim ← Op.onFailure findVictim fun _ => Op.release .swap slot
  let frame ← Op.onFailure (frameOf victim) fun _ => Op.release .swap slot
  Op.onFailure (Op.access (copyPage c.pageSize .ram frame .swap slot)) fun _ => do
    Op.release .swap slot
    update (fun p => p.enlist victim)
  update (fun p => p.setEntry victim (.ofSwap swapDevice slot))
  Op.emit (.evicted victim frame slot)
  pure frame

/-- A frame of the main store: a free one, or else that of an evicted page. -/
def obtainFrame (stores : Stores) : Op (Paging c × ω) Nat := do
  Op.require stores .ram
  match ← Op.attempt (Op.acquire .ram) with
  | .ok frame => pure frame
  | .error (.store .exhausted) => evict stores
  | .error e => Op.fail e

/-- Brings a page without contents into a frame of zeros. -/
def mapPage (stores : Stores) (page : Nat) : Op (Paging c × ω) Nat := do
  Op.require stores .ram
  let frame ← obtainFrame stores
  match Entry.resident? frame with
  | none =>
    Op.release .ram frame
    Op.fail .mappingFailed
  | some e =>
    Op.onFailure (Op.access (clearFrame c.pageSize .ram frame)) fun _ => Op.release .ram frame
    update (fun p => p.install page e)
    pure frame

/-- Brings a page back from its swap slot into a frame.  The slot is free again as soon as the
bytes are copied. -/
def swapIn (stores : Stores) (page slot : Nat) : Op (Paging c × ω) Nat := do
  Op.require stores .ram
  Op.require stores .swap
  let frame ← obtainFrame stores
  Op.onFailure (Op.access (copyPage c.pageSize .swap slot .ram frame))
    fun _ => Op.release .ram frame
  Op.release .swap slot
  match Entry.resident? frame with
  | none => Op.fail .mappingFailed
  | some e =>
    update (fun p => p.install page e)
    Op.emit (.swappedIn page slot frame)
    pure frame

/-- The frame of a page, which is resident afterwards.  In identity mode it has the number of the
page. -/
def resolve (stores : Stores) (page : Nat) : Op (Paging c × ω) Nat := do
  checkPage c page
  match c.mode with
  | .identity => pure page
  | .paged =>
    match (← lookEntry page).state with
    | .resident frame _ => pure frame
    | .swapped _ slot => swapIn stores page slot
    | .unmapped => mapPage stores page

end VirtualMemory.Paging
