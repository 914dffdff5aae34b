import VirtualMemory.Error
import VirtualMemory.Region
import VirtualMemory.Slots

/-!
# Handle tables

A handle table binds numbers below its capacity to regions.  A handle bound to an empty region
counts as unbound.
-/

namespace VirtualMemory

/-- The regions bound to handles. -/
structure HandleTable where
  /-- Handles are below this number. -/
  capacity : Nat
  /-- The regions by handle. -/
  bindings : Slots Region

namespace HandleTable

/-- The table in which no handle is bound. -/
def empty (capacity : Nat) : HandleTable := ⟨capacity, .empty⟩

/-- The region bound to a handle. -/
def get (t : HandleTable) (handle : Nat) : Except Error Region :=
  match t.bindings.get? handle with
  | some r => if r.isEmpty then .error (.invalidHandle handle) else .ok r
  | none => .error (.invalidHandle handle)

/-- Binds a handle and answers with the region it was bound to before. -/
def set (t : HandleTable) (handle : Nat) (r : Region) :
    Except Error (Option Region × HandleTable) :=
  if handle < t.capacity then
    .ok (t.bindings.get? handle, { t with bindings := t.bindings.insert handle r })
  else .error (.invalidHandle handle)

/-- Unbinds a handle and answers with its region. -/
def take (t : HandleTable) (handle : Nat) : Except Error (Region × HandleTable) :=
  match t.get handle with
  | .ok r => .ok (r, { t with bindings := t.bindings.erase handle })
  | .error e => .error e

/-- The bound handles with their regions, by ascending handle. -/
def live (t : HandleTable) : List (Nat × Region) :=
  t.bindings.entries.filter fun b => !b.2.isEmpty

end HandleTable

end VirtualMemory
