import VirtualMemory.Proofs.Page.Encoding
import VirtualMemory.Store.Backing

/-!
# Places of pages

A place is a frame of the main store or a slot of the swap store.  `Entry.place?` reads from an
entry the place that holds its page, so that frames and slots are treated alike.  Encoding a
frame, or a slot that fits, and reading the place gives it back, and the dirty flag does not
matter.
-/

namespace VirtualMemory

/-- A frame of the main store or a slot of the swap store. -/
abbrev Place : Type := Device × Nat

/-- Numbers below this one can be encoded as places in a store. -/
def Device.capacity : Device → Nat
  | .ram => 2 ^ Entry.frameBits
  | .swap => 2 ^ Entry.slotBits

namespace Entry

variable {e : Entry} {frame device slot : Nat}

/-- The place of the page of an entry. -/
def place? (e : Entry) : Option Place :=
  match e.state with
  | .unmapped => none
  | .resident frame _ => some (.ram, frame)
  | .swapped _ slot => some (.swap, slot)

/-! ### Places of encoded entries -/

theorem place?_resident? (h : resident? frame = some e) :
  e.place? = some (.ram, frame)
  := by
  rw [place?, state_resident? h]

/-- A slot loses the high bits that do not fit. -/
theorem place?_ofSwap_mod :
  (ofSwap device slot).place? = some (.swap, slot % Device.capacity .swap)
  := by
  rw [place?, state_ofSwap]
  rfl

theorem place?_ofSwap (h : slot < Device.capacity .swap) :
  (ofSwap device slot).place? = some (.swap, slot)
  := by
  rw [place?_ofSwap_mod, Nat.mod_eq_of_lt h]

@[simp]
theorem place?_empty :
  empty.place? = none
  := rfl

/-- Writing to a page does not move it. -/
@[simp]
theorem place?_withDirty :
  e.withDirty.place? = e.place?
  := by
  rw [place?, place?, state_withDirty]
  cases e.state <;> rfl

/-! ### Places and flags -/

/-- A page has a place exactly if it is present. -/
theorem isSome_place? :
  e.place?.isSome = e.isPresent
  := by
  rw [place?, state, isSwapped, isPresent]
  cases e.has .present <;> cases e.has .swapped <;> rfl

theorem place?_eq_none_iff :
  e.place? = none ↔ e.isPresent = false
  := by
  rw [← isSome_place?, Option.isSome_eq_false_iff, Option.isNone_iff_eq_none]

/-- A page has a frame exactly if its place is in the main store. -/
theorem frame?_eq_some_iff :
  e.frame? = some frame ↔ e.place? = some (.ram, frame)
  := by
  rw [frame?, place?, state, isResident, isSwapped, isPresent]
  cases e.has .present <;> cases e.has .swapped <;> simp

theorem isResident_iff :
  e.isResident = true ↔ ∃ frame, e.place? = some (.ram, frame)
  := by
  rw [place?, state, isResident, isSwapped, isPresent]
  cases e.has .present <;> cases e.has .swapped <;> simp

/-- A page that is not in a frame is not resident. -/
theorem isResident_eq_false_of_place {x : Option Place} (place : e.place? = x)
    (elsewhere : ∀ frame, x ≠ some (.ram, frame)) :
  e.isResident = false
  := by
  apply Bool.eq_false_of_not_eq_true
  intro resident
  obtain ⟨frame, home⟩ := isResident_iff.mp resident
  apply elsewhere frame (place.symm.trans home)

theorem isSwapped_iff :
  e.isSwapped = true ↔ ∃ slot, e.place? = some (.swap, slot)
  := by
  rw [place?, state, isSwapped, isPresent]
  cases e.has .present <;> cases e.has .swapped <;> simp

end Entry

end VirtualMemory
