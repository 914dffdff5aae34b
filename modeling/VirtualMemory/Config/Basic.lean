import VirtualMemory.Word

/-!
# Configurations

A configuration fixes the geometry of an address space: its page size, the number of its
pages, the size of the handle table and of the first heap, and whether pages are translated.
`Config.validate` says which configurations are usable.  The page of an address, its offset in
the page and the rounding of sizes to whole pages follow from the page size.
-/

namespace VirtualMemory

/-- How a page number becomes a frame number. -/
inductive Mode
  /-- Pages are mapped to frames by a page table and may be swapped out. -/
  | paged
  /-- The frame of a page has the number of the page. -/
  | identity
deriving DecidableEq

/-- The name of a mode in a configuration document. -/
def Mode.name : Mode → String
  | paged => "paged"
  | identity => "identity"

/-- The settings of an address space; each has a default. -/
structure Config where
  /-- Bytes in a page, and in a frame. -/
  pageSize : Nat := 4096
  /-- Page numbers are below this limit. -/
  maxPages : Nat := 2 ^ 20
  /-- Handles are below this limit. -/
  handleCapacity : Nat := 30
  /-- Bytes in the heap of a new address space. -/
  initialHeapSize : Nat := 4096
  /-- How pages are translated. -/
  mode : Mode := .paged
  /-- Whether each access through a caller is reported. -/
  traceAccess : Bool := false
  /-- Whether the state is written out after each change of regions or bytes. -/
  dumpTables : Bool := false
deriving DecidableEq

namespace Config

/-- A requirement on configurations. -/
inductive Constraint
  | pageSize
  | maxPages
  | handleCapacity
  | initialHeapSize
deriving DecidableEq

/-- The wording of a requirement that is not met. -/
def Constraint.message : Constraint → String
  | pageSize => "page_size must be a power of two >= 2"
  | maxPages => "max_page_number must be in 1..=2^45"
  | handleCapacity => "symbol_table_size must be non-zero"
  | initialHeapSize => "initial_heap_size exceeds the address space"

/-- The number of pages that a five-level page table can tell apart. -/
def pageLimit : Nat := 2 ^ 45

/-- The requirement of a configuration on its own setting. -/
def Meets (c : Config) : Constraint → Prop
  | .pageSize => 2 ≤ c.pageSize ∧ 2 ^ c.pageSize.log2 = c.pageSize
  | .maxPages => 1 ≤ c.maxPages ∧ c.maxPages ≤ pageLimit
  | .handleCapacity => c.handleCapacity ≠ 0
  | .initialHeapSize => c.initialHeapSize ≤ Word.saturatingMul c.maxPages c.pageSize

instance (c : Config) : (r : Constraint) → Decidable (c.Meets r)
  | .pageSize => inferInstanceAs (Decidable (2 ≤ c.pageSize ∧ 2 ^ c.pageSize.log2 = c.pageSize))
  | .maxPages => inferInstanceAs (Decidable (1 ≤ c.maxPages ∧ c.maxPages ≤ pageLimit))
  | .handleCapacity => inferInstanceAs (Decidable (c.handleCapacity ≠ 0))
  | .initialHeapSize =>
    inferInstanceAs (Decidable (c.initialHeapSize ≤ Word.saturatingMul c.maxPages c.pageSize))

/-- The requirements in the order in which they are checked. -/
def constraints : List Constraint := [.pageSize, .maxPages, .handleCapacity, .initialHeapSize]

/-- Every requirement is checked. -/
theorem mem_constraints (r : Constraint) :
  r ∈ constraints
  := by
  cases r with
  | pageSize | maxPages | handleCapacity | initialHeapSize => decide

/-- The first requirement that the configuration misses, if there is one. -/
def validate (c : Config) : Except Constraint Unit :=
  match constraints.find? (fun r => !decide (c.Meets r)) with
  | some r => .error r
  | none => .ok ()

/-- The number of address bits that count bytes within a page: the exponent of the greatest
power of two that divides the page size. -/
def offsetBits (c : Config) : Nat := (Nat.gcd c.pageSize (2 ^ 64)).log2

/-- The number of the page that holds an address. -/
def pageOf (c : Config) (address : Nat) : Nat := Word.shiftRight address c.offsetBits

/-- The position of an address in its page. -/
def offsetOf (c : Config) (address : Nat) : Nat := address &&& Word.before c.pageSize

/-- A size rounded up to whole pages, at least one.  The sum before rounding stops at the
greatest word. -/
def alignUp (c : Config) (bytes : Nat) : Nat :=
  let padded := Word.saturatingAdd bytes (Word.before c.pageSize)
  max (padded - (padded &&& Word.before c.pageSize)) c.pageSize

/-- A configuration is valid if it meets every requirement. -/
theorem validate_eq_ok_iff {c : Config} :
  c.validate = .ok () ↔ ∀ r, c.Meets r
  := by
  rw [validate]
  cases found : constraints.find? fun r => !decide (c.Meets r) with
  | some r =>
    have missed := List.find?_some found
    rw [Bool.not_eq_true', decide_eq_false_iff_not] at missed
    constructor
    · intro valid
      cases valid
    · intro meets
      exact absurd (meets r) missed
  | none =>
    constructor
    · intro valid r
      have met := List.find?_eq_none.mp found r (mem_constraints r)
      rw [Bool.not_eq_true', decide_eq_false_iff_not, Decidable.not_not] at met
      apply met
    · intro meets
      rfl

end Config

end VirtualMemory
