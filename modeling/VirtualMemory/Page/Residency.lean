import VirtualMemory.Error

/-!
# Resident pages

The resident pages in the order in which they became resident.  The page to evict is the one
that has been resident longest.
-/

namespace VirtualMemory

/-- The resident pages, oldest first. -/
structure Residency where
  pages : List Nat
deriving DecidableEq

namespace Residency

/-- No page is resident. -/
def empty : Residency := ⟨[]⟩

/-- Enters a page as the most recent one. -/
def enlist (r : Residency) (page : Nat) : Residency := ⟨r.pages ++ [page]⟩

/-- The oldest page and the pages behind it; fails if no page is resident. -/
def takeOldest (r : Residency) : Except Error (Nat × Residency) :=
  match r.pages with
  | [] => .error .noVictim
  | page :: rest => .ok (page, ⟨rest⟩)

/-- Strikes out the oldest entry of a page. -/
def remove (r : Residency) (page : Nat) : Residency := ⟨r.pages.erase page⟩

/-- Whether a page is listed. -/
def contains (r : Residency) (page : Nat) : Bool := r.pages.contains page

@[simp]
theorem pages_enlist {r : Residency} {page : Nat} :
  (r.enlist page).pages = r.pages ++ [page]
  := rfl

@[simp]
theorem pages_remove {r : Residency} {page : Nat} :
  (r.remove page).pages = r.pages.erase page
  := rfl

end Residency

end VirtualMemory
