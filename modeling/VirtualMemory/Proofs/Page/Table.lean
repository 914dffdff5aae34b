import VirtualMemory.Page.Table
import VirtualMemory.Proofs.Slots
import Mathlib.Data.Nat.ModEq
import Mathlib.Tactic.Use

/-!
# Page tables as maps

A page table maps page numbers, taken modulo `pageLimit`, to entries: setting the entry of a
page changes the entries of the pages congruent to it and no others.  A table that is built from
the empty one by setting entries is well formed, and then `entries` lists, by ascending page
number, exactly the pages with an entry that is not empty.
-/

namespace VirtualMemory

/-- The number of pages that the five levels tell apart. -/
def pageLimit : Nat := 2 ^ (5 * levelBits)

/-- The number of pages below a table that is `height` levels above the entries. -/
def pagesBelow (height : Nat) : Nat := 2 ^ ((height + 1) * levelBits)

theorem pagesBelow_pos {height : Nat} :
  0 < pagesBelow height
  := Nat.two_pow_pos _

theorem pagesBelow_succ {height : Nat} :
  pagesBelow (height + 1) = pagesBelow height * 2 ^ levelBits
  := by
  rw [pagesBelow, pagesBelow, ← Nat.pow_add]
  congr 1
  rw [Nat.add_mul (height + 1) 1, Nat.one_mul]

theorem levelIndex_succ {height page : Nat} :
  levelIndex (height + 1) page = page / pagesBelow height % 2 ^ levelBits
  := by
  rw [levelIndex, Nat.shiftRight_eq_div_pow, pagesBelow]

theorem levelIndex_zero {page : Nat} :
  levelIndex 0 page = page % pagesBelow 0
  := by
  simp [levelIndex, pagesBelow]

/-- Pages agree below a table exactly if they select the same slot and agree below that. -/
theorem mod_pagesBelow_succ {height a b : Nat} :
  a % pagesBelow (height + 1) = b % pagesBelow (height + 1) ↔
    levelIndex (height + 1) a = levelIndex (height + 1) b ∧
      a % pagesBelow height = b % pagesBelow height
  := by
  rw [pagesBelow_succ, Nat.mod_mul, Nat.mod_mul, levelIndex_succ, levelIndex_succ]
  have ha : a % pagesBelow height < pagesBelow height := Nat.mod_lt _ pagesBelow_pos
  have hb : b % pagesBelow height < pagesBelow height := Nat.mod_lt _ pagesBelow_pos
  constructor
  · intro h
    have low : a % pagesBelow height = b % pagesBelow height := by
      have := congrArg (· % pagesBelow height) h
      simpa using this
    constructor
    · have pos : 0 < pagesBelow height := pagesBelow_pos
      apply Nat.eq_of_mul_eq_mul_left pos
      omega
    · apply low
  · rintro ⟨high, low⟩
    rw [high, low]

/-- A number is put together from its low bits, which select a slot, and the bits above. -/
theorem eq_mul_add_iff {n above slot : Nat} (h : slot < 2 ^ levelBits) :
  n = above * 2 ^ levelBits + slot ↔ n / 2 ^ levelBits = above ∧ n % 2 ^ levelBits = slot
  := by
  constructor
  · rintro rfl
    rw [Nat.mul_comm, Nat.mul_add_mod, Nat.mod_eq_of_lt h, Nat.mul_add_div (Nat.two_pow_pos _),
      Nat.div_eq_of_lt h]
    constructor
    · rfl
    · rfl
  · rintro ⟨rfl, rfl⟩
    rw [Nat.mul_comm, Nat.div_add_mod]

/-- A page is put together from its slot in a table of entries and the bits above the table. -/
theorem page_eq_iff {page above slot : Nat} (h : slot < 2 ^ levelBits) :
  page = above * 2 ^ levelBits + slot ↔ page / pagesBelow 0 = above ∧ levelIndex 0 page = slot
  := by
  rw [levelIndex_zero, pagesBelow, Nat.zero_add, Nat.one_mul]
  apply eq_mul_add_iff h

/-- The bits above a table are put together from its slot in the table above and the bits above
that one. -/
theorem div_pagesBelow_eq_iff {height page above slot : Nat} (h : slot < 2 ^ levelBits) :
  page / pagesBelow height = above * 2 ^ levelBits + slot ↔
    page / pagesBelow (height + 1) = above ∧ levelIndex (height + 1) page = slot
  := by
  rw [levelIndex_succ, pagesBelow_succ, ← Nat.div_div_eq_div_mul]
  apply eq_mul_add_iff h

namespace Subtable

/-! ### Setting and reading -/

theorem entry_empty {height page : Nat} :
  (empty height).entry height page = .empty
  := by
  cases height with
  | zero => rfl
  | succ height => rfl

/-- Pages that select the same slots have the same entry. -/
theorem entry_congr {height : Nat} {t : Subtable height} {page other : Nat}
    (same : page % pagesBelow height = other % pagesBelow height) :
  t.entry height page = t.entry height other
  := by
  induction height with
  | zero =>
      rw [← levelIndex_zero, ← levelIndex_zero] at same
      rw [entry, entry, same]
  | succ height ih =>
      obtain ⟨slot, same⟩ := mod_pagesBelow_succ.mp same
      rw [entry, entry, slot]
      cases Slots.get? (α := Subtable height) t (levelIndex (height + 1) other) with
      | none => rfl
      | some below => apply ih same

/-- Setting the entry of a page sets it for the pages that agree with it. -/
theorem entry_set {height : Nat} {t : Subtable height} {page other : Nat} {e : Entry} :
  (t.set height page e).entry height other =
    if other % pagesBelow height = page % pagesBelow height then e else t.entry height other
  := by
  induction height with
  | zero =>
      rw [← levelIndex_zero, ← levelIndex_zero]
      simp only [set, entry]
      by_cases he : e = .empty
      · rw [if_pos he, Slots.get?_erase]
        by_cases same : levelIndex 0 other = levelIndex 0 page
        · simp [same, he]
        · simp [same]
      · rw [if_neg he, Slots.get?_insert]
        by_cases same : levelIndex 0 other = levelIndex 0 page
        · simp [same]
        · simp [same]
  | succ height ih =>
      simp only [set, entry, mod_pagesBelow_succ]
      cases hslot : Slots.get? (α := Subtable height) t (levelIndex (height + 1) page) with
      | some below =>
          simp only [Slots.get?_insert]
          by_cases same : levelIndex (height + 1) other = levelIndex (height + 1) page
          · simp only [same, if_true, ih, true_and, hslot]
          · simp only [same, if_false, false_and]
      | none =>
          by_cases he : e = .empty
          · simp only [he, if_true]
            by_cases same : levelIndex (height + 1) other = levelIndex (height + 1) page
            · simp only [same, hslot, true_and, ite_self]
            · simp only [same, if_false, false_and]
          · simp only [he, if_false, Slots.get?_insert]
            by_cases same : levelIndex (height + 1) other = levelIndex (height + 1) page
            · simp only [same, if_true, ih, true_and, hslot, entry_empty]
            · simp only [same, if_false, false_and]

/-! ### Well-formed tables -/

/-- Slots are sorted and numbered below the size of a table, no entry is stored that is empty,
and the tables below are of the same kind. -/
def WellFormed : (height : Nat) → Subtable height → Prop
  | 0, t => Slots.Sorted (α := Entry) t ∧
      ∀ e ∈ Slots.entries (α := Entry) t, e.1 < 2 ^ levelBits ∧ e.2 ≠ .empty
  | height + 1, t => Slots.Sorted (α := Subtable height) t ∧
      ∀ e ∈ Slots.entries (α := Subtable height) t, e.1 < 2 ^ levelBits ∧ WellFormed height e.2

theorem wellFormed_empty {height : Nat} :
  (empty height).WellFormed height
  := by
  cases height with
  | zero =>
      use Slots.sorted_empty
      intro e he
      cases he
  | succ height =>
      use Slots.sorted_empty
      intro e he
      cases he

theorem WellFormed.set {height : Nat} {t : Subtable height} (h : t.WellFormed height)
    {page : Nat} {e : Entry} :
  (t.set height page e).WellFormed height
  := by
  induction height with
  | zero =>
      obtain ⟨sorted, stored⟩ := h
      rw [Subtable.set]
      split
      · use Slots.Sorted.erase sorted
        apply Slots.forall_mem_erase stored
      · next he =>
          use Slots.Sorted.insert sorted
          apply Slots.forall_mem_insert _ stored
          use levelIndex_lt, he
  | succ height ih =>
      obtain ⟨sorted, stored⟩ := h
      simp only [Subtable.set]
      split
      · next below found =>
          have hbelow := stored _ ((Slots.Sorted.mem_iff sorted).mpr found)
          use Slots.Sorted.insert sorted
          apply Slots.forall_mem_insert _ stored
          use levelIndex_lt
          apply ih hbelow.2
      · split
        · use sorted, stored
        · use Slots.Sorted.insert sorted
          apply Slots.forall_mem_insert _ stored
          use levelIndex_lt
          apply ih wellFormed_empty

/-! ### Listing the entries -/

/-- The entries that are listed are those that are not empty, each with its page. -/
theorem WellFormed.mem_entries {height : Nat} {t : Subtable height} (h : t.WellFormed height)
    {above page : Nat} {e : Entry} :
  (page, e) ∈ t.entries height above ↔
    page / pagesBelow height = above ∧ e ≠ .empty ∧ t.entry height page = e
  := by
  induction height generalizing above page with
  | zero =>
      obtain ⟨sorted, stored⟩ := h
      simp only [entries, entry, List.mem_map]
      constructor
      · rintro ⟨⟨slot, e'⟩, mem, eq⟩
        obtain ⟨page_eq, rfl⟩ := Prod.mk.inj eq
        obtain ⟨inside, some⟩ := stored _ mem
        obtain ⟨rfl, rfl⟩ := (page_eq_iff inside).mp page_eq.symm
        rw [(Slots.Sorted.mem_iff sorted).mp mem]
        use rfl, some
        rfl
      · rintro ⟨above_eq, some, entry_eq⟩
        rcases found : Slots.get? (α := Entry) t (levelIndex 0 page) with - | e'
        · rw [found] at entry_eq
          exact absurd entry_eq.symm some
        · rw [found] at entry_eq
          obtain rfl : e' = e := entry_eq
          use (levelIndex 0 page, e'), (Slots.Sorted.mem_iff sorted).mpr found
          rw [← (page_eq_iff levelIndex_lt).mpr ⟨above_eq, rfl⟩]
  | succ height ih =>
      obtain ⟨sorted, stored⟩ := h
      simp only [entries, entry, List.mem_flatMap]
      constructor
      · rintro ⟨⟨slot, below⟩, mem, listed⟩
        obtain ⟨inside, wellFormed⟩ := stored _ mem
        obtain ⟨div_eq, some, entry_eq⟩ := (ih wellFormed).mp listed
        obtain ⟨above_eq, rfl⟩ := (div_pagesBelow_eq_iff inside).mp div_eq
        rw [(Slots.Sorted.mem_iff sorted).mp mem]
        use above_eq, some, entry_eq
      · rintro ⟨above_eq, some, entry_eq⟩
        rcases found : Slots.get? (α := Subtable height) t (levelIndex (height + 1) page) with - |
          below
        · rw [found] at entry_eq
          exact absurd entry_eq.symm some
        · rw [found] at entry_eq
          have mem := (Slots.Sorted.mem_iff sorted).mpr found
          use (levelIndex (height + 1) page, below), mem
          apply (ih (stored _ mem).2).mpr
          use (div_pagesBelow_eq_iff levelIndex_lt).mpr ⟨above_eq, rfl⟩, some, entry_eq

/-- The entries are listed by ascending page. -/
theorem WellFormed.pairwise_entries {height : Nat} {t : Subtable height} (h : t.WellFormed height)
    {above : Nat} :
  (t.entries height above).Pairwise (·.1 < ·.1)
  := by
  induction height generalizing above with
  | zero =>
      obtain ⟨sorted, stored⟩ := h
      rw [entries, List.pairwise_map]
      apply sorted.imp
      intro a b hab
      show above * 2 ^ levelBits + a.1 < above * 2 ^ levelBits + b.1
      omega
  | succ height ih =>
      obtain ⟨sorted, stored⟩ := h
      rw [entries, List.pairwise_flatMap]
      constructor
      · intro e he
        apply ih (stored e he).2
      · apply List.Pairwise.imp_of_mem _ sorted
        intro a b ha hb hab x hx y hy
        have hx' := ((stored a ha).2.mem_entries.mp hx).1
        have hy' := ((stored b hb).2.mem_entries.mp hy).1
        apply Nat.lt_of_div_lt_div (c := pagesBelow height)
        rw [hx', hy']
        omega

end Subtable

namespace PageTable

variable {t : PageTable} {page other : Nat} {e : Entry}

/-- Pages beyond the limit have the entries of the pages congruent to them. -/
theorem entry_mod :
  t.entry (page % pageLimit) = t.entry page
  := Subtable.entry_congr (Nat.mod_mod _ _)

/-- Setting the entry of a page sets it for the pages congruent to it. -/
theorem entry_set :
  (t.set page e).entry other =
    if other % pageLimit = page % pageLimit then e else t.entry other
  := Subtable.entry_set

theorem entry_clear :
  (t.clear page).entry other =
    if other % pageLimit = page % pageLimit then .empty else t.entry other
  := entry_set

@[simp]
theorem entry_empty :
  empty.entry page = .empty
  := rfl

/-- Slots are sorted and no entry is stored that is empty. -/
def WellFormed (t : PageTable) : Prop := t.root.WellFormed 4

theorem wellFormed_empty :
  empty.WellFormed
  := Subtable.wellFormed_empty

theorem WellFormed.set (h : t.WellFormed) :
  (t.set page e).WellFormed
  := Subtable.WellFormed.set h

theorem WellFormed.clear (h : t.WellFormed) :
  (t.clear page).WellFormed
  := h.set

/-- The entries that are listed are those that are not empty, each with its page. -/
theorem WellFormed.mem_entries (h : t.WellFormed) :
  (page, e) ∈ t.entries ↔ page < pageLimit ∧ e ≠ .empty ∧ t.entry page = e
  := by
  rw [entries, Subtable.WellFormed.mem_entries h, Nat.div_eq_zero_iff]
  simp [entry, pageLimit, pagesBelow]

/-- The entries are listed by ascending page. -/
theorem WellFormed.pairwise_entries (h : t.WellFormed) :
  t.entries.Pairwise (·.1 < ·.1)
  := Subtable.WellFormed.pairwise_entries h

end PageTable

end VirtualMemory
