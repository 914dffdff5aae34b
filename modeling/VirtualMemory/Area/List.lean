import VirtualMemory.Area.Basic
import VirtualMemory.Op
import VirtualMemory.Word

/-!
# Lists of areas

The areas of one address space, by ascending number.  A new area, and the new part of an area
that grows, must not meet another area.  `grow` has the new part backed by a mapper before the
area gets it.
-/

namespace VirtualMemory

/-- What backs the addresses from one up to another, in a state of its own. -/
abbrev Mapper (τ : Type) : Type := (start stop : Nat) → Op τ Unit

/-- The mapper that notes each range in front of what another mapper does. -/
def Mapper.recorded {τ : Type} (m : Mapper τ) : Mapper (List Region × τ) := fun start stop => do
  Op.modify fun (calls, s) => (calls ++ [⟨start, stop⟩], s)
  Op.onSecond (m start stop)

/-- The areas of an address space. -/
structure AreaList where
  /-- The areas, by ascending number. -/
  areas : List Area
deriving DecidableEq

namespace AreaList

/-- No areas. -/
def empty : AreaList := ⟨[]⟩

/-- One area. -/
def single (a : Area) : AreaList := ⟨[a]⟩

/-- The area with a number; the search ends at the first greater number. -/
def lookup? (l : AreaList) (id : Nat) : Option Area :=
  (l.areas.takeWhile (·.id ≤ id)).find? (·.id = id)

/-- The first area that holds an address. -/
def covering? (l : AreaList) (address : Nat) : Option Area :=
  l.areas.find? (fun a => address ∈ a.range)

/-- The first area with another number that meets a range. -/
def meeting? (l : AreaList) (id : Nat) (range : Region) : Option Area :=
  l.areas.find? fun a => a.id ≠ id && a.range.overlaps range

/-- Changes the area with a number. -/
def modify (l : AreaList) (id : Nat) (f : Area → Area) : AreaList :=
  ⟨l.areas.map fun a => if a.id = id then f a else a⟩

/-- Puts an area at its place by number. -/
def put (l : AreaList) (new : Area) : AreaList :=
  ⟨l.areas.takeWhile (·.id < new.id) ++ new :: l.areas.dropWhile (·.id < new.id)⟩

/-! ### Operations -/

/-- The area with a number; fails if there is none. -/
def find (id : Nat) : Op AreaList Area := do
  match ← Op.gets (lookup? · id) with
  | some a => pure a
  | none => Op.fail (.invalidArea id)

/-- Fails if a range is empty or meets an area with another number. -/
def validate (id : Nat) (range : Region) : Op AreaList Unit := do
  if range.isEmpty then
    Op.fail (.overlap range.start range.stop)
  else
    match ← Op.gets (meeting? · id range) with
    | some a =>
      Op.emit (.areaMet range a.id a.range)
      Op.fail (.overlap range.start range.stop)
    | none => pure ()

/-- Adds an area with a new number. -/
def insert (new : Area) : Op AreaList Unit := do
  match ← Op.gets (lookup? · new.id) with
  | some _ => Op.fail (.invalidArea new.id)
  | none =>
    validate new.id new.range
    Op.modify (·.put new)

/-- Adds at least `increment` bytes, in whole pages, to the end of an area, and answers with the
new part.  Without an increment nothing happens, whether the area exists or not. -/
def grow {τ : Type} (c : Config) (id increment : Nat) (mapper : Mapper τ) :
    Op (AreaList × τ) Region := do
  if increment = 0 then
    pure Region.empty
  else
    let old := (← Op.onFirst (find id)).stop
    match Word.add? old (c.alignUp increment) with
    | none => Op.fail (.overlap old Word.greatest)
    | some new =>
      Op.onFirst (validate id ⟨old, new⟩)
      Op.mapError (fun _ => .mappingFailed) <|
        Op.onFailure (Op.onSecond (mapper old new)) fun e =>
          Op.emit (.growthUnmapped ⟨old, new⟩ e)
      Op.onFirst (Op.modify (·.modify id (·.extendTo new)))
      pure ⟨old, new⟩

end AreaList

end VirtualMemory
