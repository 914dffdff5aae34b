import VirtualMemory.Proofs.Page.Linked

/-!
# Laws of page tables in an arena

An arena of at most `2 ^ 32` tables maps page numbers, taken modulo `pageLimit`, to entries,
just as a page table that is a tree.  Its tables stay linked through every run of edits, and the
laws of the map follow from what setting and listing do below the root.
-/

namespace VirtualMemory

namespace Arena

/-! ### Edits -/

/-- A change of a page table. -/
inductive Edit
  /-- Set the entry of a page. -/
  | set (page : Nat) (e : Entry)
  /-- Empty the entry of a page. -/
  | clear (page : Nat)
  /-- Empty all entries. -/
  | reset

/-- Changes an arena. -/
def Edit.apply : Edit → Arena → Arena
  | set page e, a => a.set page e
  | clear page, a => (a.clear page).2
  | reset, a => a.reset

/-- The arena that the new one becomes by edits, of which the last comes first, if it never has more
than `2 ^ 32` tables. -/
inductive Built : List Edit → Arena → Prop
  | new : Built [] .new
  | edit {edits : List Edit} {a : Arena} (built : Built edits a) (edit : Edit)
      (fits : (edit.apply a).tableCount ≤ 2 ^ 32) :
    Built (edit :: edits) (edit.apply a)

variable {a : Arena} {edits : List Edit} {rank : Nat → Nat} {page other : Nat} {e : Entry}

theorem Built.tableCount_le (built : Built edits a) :
  a.tableCount ≤ 2 ^ 32
  := by
  cases built with
  | new => decide
  | edit built edit fits => apply fits

/-- In a new arena all entries are empty. -/
theorem entry_new :
  new.entry page = .empty
  := by
  apply entryFrom_fresh
  rfl

/-- A set makes at most four tables. -/
theorem tableCount_set_le :
  (a.set page e).tableCount ≤ a.tableCount + 4
  := size_setFrom_le

/-- If the tables of an arena are linked, a set changes the entries of the pages congruent to the
one that is set. -/
theorem Linked.set (h : Linked a.tables rank) (fits : (a.set page e).tableCount ≤ 2 ^ 32) :
  (∃ rank', Linked (a.set page e).tables rank') ∧ ∀ other, (a.set page e).entry other =
    if other % pageLimit = page % pageLimit then e else a.entry other
  := by
  obtain ⟨inside, root⟩ := h.root_inside
  obtain ⟨rank', sets⟩ := h.sets_setFrom inside root fits
  constructor
  · use rank'
    apply sets.linked
  · intro other
    have law := sets.entry 0 inside root other
    simp only [true_and] at law
    apply law

/-- Clearing a page answers with its entry, and empties the entries of the pages congruent to it. -/
theorem Linked.clear (h : Linked a.tables rank) (fits : a.tableCount ≤ 2 ^ 32) :
  (∃ rank', Linked (a.clear page).2.tables rank') ∧ ∀ other, (a.clear page).2.entry other =
    if other % pageLimit = page % pageLimit then .empty else a.entry other
  := by
  have fits' : (a.set page .empty).tableCount ≤ 2 ^ 32 := le_of_eq_of_le size_setFrom_empty fits
  have law := h.set fits'
  rw [Arena.clear]
  dsimp only
  split
  · next vacant =>
      constructor
      · use rank
      · intro other
        split
        · next same => exact (entryFrom_congr same).trans vacant
        · rfl
  · apply law

/-- What is left of an arena that is reset is a new one. -/
theorem Linked.reset_eq (h : Linked a.tables rank) :
  a.reset = new
  := by
  have some := h.nonempty
  rw [reset, new]
  congr 1
  apply Array.ext
  · simp only [Array.size_setIfInBounds, Array.take_eq_extract, Array.size_extract,
      List.size_toArray, List.length_singleton]
    omega
  · intro i lt lt'
    obtain rfl : i = 0 := Nat.lt_one_iff.mp lt'
    apply Array.getElem_setIfInBounds_self

/-- The entries that are listed are those that are not empty, each with its page. -/
theorem Linked.mem_entries (h : Linked a.tables rank) :
  (page, e) ∈ a.entries ↔ page < pageLimit ∧ e ≠ .empty ∧ a.entry page = e
  := by
  obtain ⟨inside, root⟩ := h.root_inside
  rw [entries, h.mem_entriesFrom inside root, Nat.div_eq_zero_iff]
  simp [entry, pageLimit, pagesBelow]

/-- The entries are listed by ascending page. -/
theorem Linked.pairwise_entries (h : Linked a.tables rank) :
  a.entries.Pairwise (·.1 < ·.1)
  := by
  obtain ⟨inside, root⟩ := h.root_inside
  apply h.pairwise_entriesFrom inside root

/-- In every arena that is built the tables are linked. -/
theorem Built.linked (built : Built edits a) :
  ∃ rank, Linked a.tables rank
  := by
  induction built with
  | new =>
      apply Exists.intro
      apply linked_new
  | @edit edits a built edit fits ih =>
      obtain ⟨rank, linked⟩ := ih
      cases edit with
      | set page e => exact (linked.set fits).1
      | clear page => exact (linked.clear built.tableCount_le).1
      | reset =>
          show ∃ rank, Linked a.reset.tables rank
          rw [linked.reset_eq]
          apply Exists.intro
          apply linked_new

/-- An arena that is built is a map from page numbers, of which the low forty-five bits count, to
entries: setting and clearing change the entries of the pages congruent to one page, clearing
answers with the entry that was there, after a reset all entries are empty, and the entries that
are not empty are listed once each by ascending page. -/
theorem Built.laws (built : Built edits a) :
  (∀ page e, (a.set page e).tableCount ≤ 2 ^ 32 → ∀ other, (a.set page e).entry other =
    if other % pageLimit = page % pageLimit then e else a.entry other) ∧
  (∀ page, (a.clear page).1 = a.entry page ∧ ∀ other, (a.clear page).2.entry other =
    if other % pageLimit = page % pageLimit then .empty else a.entry other) ∧
  (∀ page, a.reset.entry page = .empty) ∧
  a.entries.Pairwise (·.1 < ·.1) ∧
  ∀ page e, (page, e) ∈ a.entries ↔ page < pageLimit ∧ e ≠ .empty ∧ a.entry page = e
  := by
  obtain ⟨rank, linked⟩ := built.linked
  constructor
  · intro page e fits
    exact (linked.set fits).2
  constructor
  · intro page
    constructor
    · rfl
    · apply (linked.clear built.tableCount_le).2
  constructor
  · intro page
    rw [linked.reset_eq, entry_new]
  use linked.pairwise_entries
  intro page e
  apply linked.mem_entries

/-- Two pages that are far apart are set, and the first one is cleared. -/
def sparse : Arena := (((new.set 7 (.ofSwap 0 3)).set (2 ^ 40 + 5) (.ofSwap 0 9)).clear 7).2

/-- One entry is left, and a page number of more than forty-five bits meets the cleared page. -/
theorem laws_sparse :
  Built [.clear 7, .set (2 ^ 40 + 5) (.ofSwap 0 9), .set 7 (.ofSwap 0 3)] sparse ∧
    (2 ^ 40 + 5, .ofSwap 0 9) ∈ sparse.entries ∧ sparse.reset.entry 7 = .empty ∧
    (sparse.set (2 ^ 45 + 7) (.ofSwap 0 4)).tableCount ≤ 2 ^ 32 ∧
    (sparse.set (2 ^ 45 + 7) (.ofSwap 0 4)).entry 7 = .ofSwap 0 4
  := by
  have built : Built [.clear 7, .set (2 ^ 40 + 5) (.ofSwap 0 9), .set 7 (.ofSwap 0 3)] sparse := by
    apply Built.edit _ (.clear 7) (by decide +kernel)
    apply Built.edit _ (.set (2 ^ 40 + 5) (.ofSwap 0 9)) (by decide +kernel)
    apply Built.new.edit (.set 7 (.ofSwap 0 3)) (by decide +kernel)
  have far : sparse.entry (2 ^ 40 + 5) = .ofSwap 0 9 := by decide +kernel
  have fits : (sparse.set (2 ^ 45 + 7) (.ofSwap 0 4)).tableCount ≤ 2 ^ 32 := by decide +kernel
  obtain ⟨set, -, reset, -, mem_entries⟩ := built.laws
  use built
  constructor
  · exact (mem_entries _ _).mpr ⟨by decide, by decide, far⟩
  use reset 7, fits
  exact (set _ _ fits 7).trans (if_pos (by decide))

end Arena

end VirtualMemory
