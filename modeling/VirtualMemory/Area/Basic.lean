import VirtualMemory.Region

/-!
# Areas

An area is a numbered range of virtual addresses with a list of the regions in it that are free.
`firstFit` takes bytes from the first free region that is long enough, and `enlistFree` puts a
region at the head of the list.
-/

namespace VirtualMemory

/-- A part of the virtual address space. -/
structure Area where
  /-- The number of the area. -/
  id : Nat
  /-- The first address. -/
  start : Nat
  /-- The address behind the last one. -/
  stop : Nat
  /-- The address up to which the area is in use. -/
  brk : Nat
  /-- The free regions, the one freed last first. -/
  free : List Region
deriving DecidableEq

/-- Takes `size` bytes from the start of the first region that has as many, and answers with them
and with the regions that are left.  A region taken as a whole disappears from the list. -/
def firstFit? (size : Nat) : List Region → Option (Region × List Region)
  | [] => none
  | r :: rest =>
    if size ≤ r.length then
      some (⟨r.start, r.start + size⟩,
        if r.length = size then rest else ⟨r.start + size, r.stop⟩ :: rest)
    else
      (firstFit? size rest).map fun (taken, left) => (taken, r :: left)

namespace Area

/-- An area in use up to its end, without free regions. -/
def spanning (id start stop : Nat) : Area := ⟨id, start, stop, stop, []⟩

/-- The addresses of the area. -/
def range (a : Area) : Region := ⟨a.start, a.stop⟩

/-- Takes `size` bytes from the first free region that has as many. -/
def firstFit? (a : Area) (size : Nat) : Option (Region × Area) :=
  (VirtualMemory.firstFit? size a.free).map fun (taken, left) => (taken, { a with free := left })

/-- Puts a region at the head of the free ones, unless it is empty. -/
def enlistFree (a : Area) (r : Region) : Area :=
  if r.isEmpty then a else { a with free := r :: a.free }

/-- The area with its end, and the part in use, moved. -/
def extendTo (a : Area) (stop : Nat) : Area := { a with stop := stop, brk := stop }

end Area

end VirtualMemory
