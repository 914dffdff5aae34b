import VirtualMemory.Proofs.Heap.Accounting
import VirtualMemory.Proofs.Space.Twins
import VirtualMemory.Proofs.System.Run

/-!
# The modes look alike

A script is a list of commands for one space; what is observed of it are the answer to each
command and the areas and handles after it.  If a script accesses bytes only at addresses of the
areas that there are at the time, copies no frames and releases no pages, then a space in paged
mode and one without translation show the same, however few frames the first one has: the stores
are reliable, the swap store of the first space has a slot for each page, and the main memory of
the second has all pages and starts with zeros.
-/

namespace VirtualMemory

open Paging MemoryBacked Command

variable {c : Config} {ω ω' : Type}

/-! ### What is observed -/

/-- What a command shows: its answer, and the areas and handles that it leaves. -/
structure Observation where
  answer : Except Error Answer
  areas : AreaList
  handles : HandleTable

/-- What the commands of a script show, one after another. -/
def observations [Backing ω] (stores : Stores) : List Command → Space c × ω → List Observation
  | [], _ => []
  | command :: rest, s =>
    let r := command.run stores s
    ⟨r.answer, r.state.1.areas, r.state.1.handles⟩ :: observations stores rest r.state

/-- Each command of a script is within the areas that there are at its time. -/
def Admissible [Backing ω] (stores : Stores) : List Command → Space c × ω → Prop
  | [], _ => True
  | command :: rest, s =>
    command.Within s.1.areas ∧ Admissible stores rest (command.run stores s).state

instance decidableAdmissible [Backing ω] (stores : Stores) :
    (script : List Command) → (s : Space c × ω) → Decidable (Admissible stores script s)
  | [], _ => inferInstanceAs (Decidable True)
  | command :: rest, s =>
    have : Decidable (Admissible stores rest (command.run stores s).state) :=
      decidableAdmissible stores rest _
    inferInstanceAs (Decidable (command.Within s.1.areas ∧ _))

/-- The memories `m` are unused and ample for a space in paged mode, and the main memory of `m'`
is large enough for the same space without translation and has only zeros. -/
structure Comparable (c : Config) (m m' : Memories) : Prop where
  suits : c.Suits c.pageSize
  bounded : c.maxPages * c.pageSize ≤ 2 ^ 63
  unused : m.Unused c.pageSize
  ample : Ample c fun device => (m device).size
  enough : c.maxPages * c.pageSize ≤ (m' .ram).size
  zeros : ∀ address, m'.byte .ram address = 0

variable [Reliable ω] [Reliable ω'] {stores stores' : Stores} {w : ω} {w' : ω'}

/-- New spaces are twins. -/
theorem Comparable.twins (h : Comparable c (memory w) (memory w')) :
  Twins (Space.new c, w) (Space.new c.flat, w')
  := by
  have unmapped (page : Nat) : (Paging.empty c).places page = none := congrFun places_empty page
  use rfl, rfl
  constructor
  · use agreement_empty
    apply h.unused.custody unmapped
  · apply h.ample
  · apply h.enough
  · intro page below offset inside
    show _ = content (Paging.empty c).places c.pageSize (memory w) page offset
    rw [content_of_none (unmapped page)]
    apply h.zeros

section Scripts

variable {s : Space c × ω} {s' : Space c.flat × ω'} {script : List Command}
variable (all : ∀ device, stores.has device = true) (brought : stores'.ram = true)
include all brought

/-- Twins show the same if the heap is accounted for. -/
theorem Twins.observations_eq (suits : c.Suits c.pageSize)
    (bounded : c.maxPages * c.pageSize ≤ 2 ^ 63) (h : Twins s s') {direct : Nat} {heap : Area}
    {others : List Area} (account : Space.Account direct [] s.1 heap others)
    (admissible : Admissible stores script s) :
  observations stores script s = observations stores' script s'
  := by
  induction script generalizing s s' direct heap others with
  | nil => rfl
  | cons command rest ih =>
      obtain ⟨within, admissible⟩ := admissible
      obtain ⟨answer, twins⟩ :=
        h.run suits.valid bounded suits.fits suits.paged all brought account.ledger within
      obtain ⟨heap', others', account'⟩ :=
        account.run suits.valid bounded h.mirrors.guarded.agreement
      simp only [observations]
      rw [answer, twins.areas, twins.handles, ih twins account' admissible]

/-- A space in paged mode and one without translation show the same. -/
theorem Comparable.observations_eq_flat (h : Comparable c (memory w) (memory w'))
    (admissible : Admissible stores script (Space.new c, w)) :
  observations stores script (Space.new c, w) = observations stores' script (Space.new c.flat, w')
  := by
  obtain ⟨heap, account⟩ := Space.account_new h.suits.valid (Or.inr (Or.inl h.suits.paged))
  apply h.twins.observations_eq all brought h.suits h.bounded account admissible

end Scripts

/-! ### One frame -/

/-- A main memory with a single frame that is not reserved, and a swap memory with a slot for each
of four pages. -/
def Memories.tight : Memories
  | .ram => .zeroed 4 2
  | .swap => .zeroed 10 2

/-- A main memory for four pages, and no swap memory. -/
def Memories.wide : Memories
  | .ram => .zeroed 8 2
  | .swap => .zeroed 0 2

/-- Commands that access bytes of two pages in turn. -/
def tightScript : List Command :=
  [.allocate 0 1, .allocate 1 3, .write 0 0 42, .write 1 2 13, .read 0 0, .serve (.load 3),
    .addArea 1 6 20, .serve (.load 9), .free 0, .read 0 0]

theorem comparable_tight :
  Comparable Config.small (memory Memories.tight) (memory Memories.wide)
  := by
  constructor
  · decide
  · decide
  · decide
  · constructor
    · decide
    · decide
    · decide
  · decide
  · intro address
    show (Array.replicate 8 0).getD address 0 = (0 : UInt8)
    rw [Array.getD_eq_getD_getElem?, Array.getElem?_replicate]
    split
    · rfl
    · rfl

/-- With a single frame, bytes of two pages are read as without translation. -/
theorem observations_eq_flat_tight :
  Comparable Config.small (memory Memories.tight) (memory Memories.wide) ∧
    Admissible {} tightScript (Space.new Config.small, Memories.tight) ∧
    (observations {} tightScript (Space.new Config.small, Memories.tight)).map (·.answer) =
      [.ok (.address 0), .ok (.address 1), .ok (.address 0), .ok (.address 3), .ok (.byte 42),
        .ok (.byte 13), .ok .done, .error (.pageOutOfRange 4), .ok (.region ⟨0, 1⟩),
        .error (.invalidHandle 0)] ∧
    observations {} tightScript (Space.new Config.small, Memories.tight) =
      observations { swap := false } tightScript (Space.new Config.small.flat, Memories.wide)
  := by
  have admissible : Admissible {} tightScript (Space.new Config.small, Memories.tight) := by
    decide +kernel
  use comparable_tight, admissible
  constructor
  · decide +kernel
  · apply comparable_tight.observations_eq_flat (fun _ => Stores.has_default) rfl admissible

end VirtualMemory
