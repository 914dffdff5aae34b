import VirtualMemory.Paging.Fault

/-!
# Mapping ranges of pages

`mapRange` maps every page of a range that is not mapped yet.  If one of them cannot be mapped,
those that were mapped before it are unmapped again, first to last.  `mapAddresses` does this
for the pages that a range of addresses touches, and `releaseAll` unmaps every page.
-/

namespace VirtualMemory.Paging

variable {c : Config} {ω : Type} [Backing ω]

/-- Gives the frame or slot of an entry back to its store, if the caller brings the store. -/
def releaseEntry (stores : Stores) (e : Entry) : Op (Paging c × ω) Unit :=
  match e.state with
  | .resident frame _ => if stores.ram then Op.release .ram frame else pure ()
  | .swapped _ slot => if stores.swap then Op.release .swap slot else pure ()
  | .unmapped => pure ()

/-- Unmaps a page. -/
def unmapPage (stores : Stores) (page : Nat) : Op (Paging c × ω) Unit := do
  let e ← lookEntry page
  update (fun p => p.clearEntry page)
  releaseEntry stores e
  update (fun p => p.unlist page)

/-- Unmaps pages, first to last. -/
def unmapPages (stores : Stores) : List Nat → Op (Paging c × ω) Unit
  | [] => pure ()
  | page :: rest => do
    unmapPage stores page
    unmapPages stores rest

/-- Maps `count` pages from `page` on, where `mapped` are those mapped so far. -/
def mapFrom (stores : Stores) : (count page : Nat) → (mapped : List Nat) →
    Op (Paging c × ω) Unit
  | 0, _, _ => pure ()
  | count + 1, page, mapped => do
    if (← lookEntry page).isPresent then
      mapFrom stores count (page + 1) mapped
    else
      let _ ← Op.onFailure (mapPage stores page) fun e => do
        Op.emit (.rollingBack page e)
        unmapPages stores mapped
      mapFrom stores count (page + 1) (mapped ++ [page])

/-- Maps `count` pages from `first` on, all of them or none. -/
def mapRange (stores : Stores) (first count : Nat) : Op (Paging c × ω) Unit := do
  if count = 0 then
    pure ()
  else
    checkPage c (first + count - 1)
    match c.mode with
    | .identity => pure ()
    | .paged => mapFrom stores count first []

/-- Maps the pages that the addresses from `start` up to `stop` touch. -/
def mapAddresses (stores : Stores) (start stop : Nat) : Op (Paging c × ω) Unit :=
  if stop ≤ start then pure ()
  else mapRange stores (c.pageOf start) (c.pageOf (stop - 1) - c.pageOf start + 1)

/-- Gives back what a list of entries holds, first to last. -/
def releaseEntries (stores : Stores) : List (Nat × Entry) → Op (Paging c × ω) Unit
  | [] => pure ()
  | (_, e) :: rest => do
    releaseEntry stores e
    releaseEntries stores rest

/-- Unmaps every page and answers with their number. -/
def releaseAll (stores : Stores) : Op (Paging c × ω) Nat := do
  match c.mode with
  | .identity => pure 0
  | .paged =>
    let entries ← Op.gets fun s => s.1.table.entries
    releaseEntries stores entries
    update (fun _ => empty c)
    pure entries.length

end VirtualMemory.Paging
