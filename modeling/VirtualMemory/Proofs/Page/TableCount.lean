import VirtualMemory.Proofs.Page.Arena
import Mathlib.Algebra.BigOperators.Group.Finset.Basic
import Mathlib.Algebra.Order.BigOperators.Group.Finset
import Mathlib.Order.Interval.Finset.Nat

/-!
# The number of tables in an arena

A page table makes a table when an entry below it is first set, and never makes it again.  So the
tables below the root stand for the beginnings that the slots of the pages set so far have, one to
four slots long.  `depth` counts the tables that are there on the way to a page.  Setting an entry
makes the others, and of the way to another page it makes those that the two ways have in common.
-/

namespace VirtualMemory

/-- How many slots two pages have in common, from a table `height` levels above the entries down,
not counting those in leaves. -/
def commonSlots : (height a b : Nat) → Nat
  | 0, _, _ => 0
  | height + 1, a, b =>
    if slotAt (height + 1) a = slotAt (height + 1) b then commonSlots height a b + 1 else 0

/-- The slots of a page in directories, from a table `height` levels above the entries down. -/
def directorySlots : (height page : Nat) → List Nat
  | 0, _ => []
  | height + 1, page => levelIndex (height + 1) page :: directorySlots height page

/-- The beginnings, `n` slots long, that the slots of some pages have. -/
def beginnings (n : Nat) (pages : List Nat) : Finset (List Nat) :=
  (pages.map fun page => (PageIndices.ofPage page).toList.take n).toFinset

section Slots

variable {height n a b page : Nat} {pages : List Nat}

/-- Two pages have `n` slots in common if their first `n` slots are the same. -/
theorem le_commonSlots_iff (le : n ≤ height) :
  n ≤ commonSlots height a b ↔ (directorySlots height a).take n = (directorySlots height b).take n
  := by
  induction height generalizing n with
  | zero =>
      obtain rfl := Nat.le_zero.mp le
      simp [commonSlots]
  | succ height ih =>
      cases n with
      | zero => simp
      | succ n =>
          rw [commonSlots, directorySlots, directorySlots, List.take_succ_cons, List.take_succ_cons,
            List.cons.injEq, ← ih (Nat.le_of_succ_le_succ le), ← slotAt_eq_iff]
          split
          · next same => simp [same]
          · next other => simp [other]

/-- The last slot of a page is not one in a directory. -/
theorem take_toList_ofPage (le : n ≤ 4) :
  (PageIndices.ofPage page).toList.take n = (directorySlots 4 page).take n
  := by
  have eq : (PageIndices.ofPage page).toList = directorySlots 4 page ++ [levelIndex 0 page] := rfl
  rw [eq, List.take_append_of_le_length]
  apply le

theorem mem_beginnings {l : List Nat} :
  l ∈ beginnings n pages ↔ ∃ p ∈ pages, (PageIndices.ofPage p).toList.take n = l
  := by
  rw [beginnings, List.mem_toFinset, List.mem_map]

theorem beginnings_cons :
  beginnings n (page :: pages) =
    insert ((PageIndices.ofPage page).toList.take n) (beginnings n pages)
  := by
  rw [beginnings, List.map_cons, List.toFinset_cons, beginnings]

end Slots

namespace Arena

/-- The pages for which an entry was set that is not empty, since the last reset if there was one.
The last edit comes first. -/
def pagesSet : List Edit → List Nat
  | [] => []
  | .set page e :: edits => if e = .empty then pagesSet edits else page :: pagesSet edits
  | .clear _ :: edits => pagesSet edits
  | .reset :: _ => []

variable {tables tables' : Array Table} {rank : Nat → Nat} {id id' next : UInt32}
variable {slots : Vector (Option UInt32) 512} {slot : Fin 512}
variable {page other height i n : Nat} {e : Entry} {a : Arena} {edits : List Edit}
variable {pages : List Nat}

/-! ### Tables on the way to a page -/

/-- The number of tables that are there on the way to a page, below the table with a number. -/
def depth (tables : Array Table) (page : Nat) : (height : Nat) → (id : UInt32) → Nat
  | 0, _ => 0
  | height + 1, id =>
    match tables[id.toNat]? with
    | some (.directory slots) =>
      match slots.get (slotAt (height + 1) page) with
      | some next => depth tables page height next + 1
      | none => 0
    | _ => 0

/-- The tables on the way to a page start with the one whose number is in its slot. -/
theorem depth_of_some (at_id : tables[id.toNat]? = some (.directory slots))
    (found : slots.get (slotAt (height + 1) page) = some next) :
  depth tables page (height + 1) id = depth tables page height next + 1
  := by
  simp only [depth, at_id, found]

/-- There are no tables on the way to a page if there is no number in its slot. -/
theorem depth_of_none (at_id : tables[id.toNat]? = some (.directory slots))
    (found : slots.get (slotAt (height + 1) page) = none) :
  depth tables page (height + 1) id = 0
  := by
  simp only [depth, at_id, found]

theorem depth_le :
  depth tables page height id ≤ height
  := by
  induction height generalizing id with
  | zero => apply Nat.le_refl
  | succ height ih =>
      rw [depth]
      split
      · split
        · apply Nat.succ_le_succ ih
        · apply Nat.zero_le
      · apply Nat.zero_le

/-- There is no table below one that was just made. -/
theorem depth_fresh (at_id : tables[id.toNat]? = some (.fresh height)) :
  depth tables page height id = 0
  := by
  cases height with
  | zero => rfl
  | succ height => apply depth_of_none at_id get_replicate

/-- The tables on the way to a page are found in the directories that are not above it. -/
theorem Linked.depth_congr (h : Linked tables rank) (inside : id.toNat < tables.size)
    (rank_eq : rank id.toNat = height)
    (kept : ∀ i < tables.size, rank i ≤ height → ∀ slots, tables[i]? = some (.directory slots) →
      tables'[i]? = some (.directory slots)) :
  depth tables' other height id = depth tables other height id
  := by
  induction height generalizing id with
  | zero => rfl
  | succ height ih =>
      obtain ⟨slots, at_id⟩ := h.exists_directory inside rank_eq
      have at_id' := kept _ inside (Nat.le_of_eq rank_eq) slots at_id
      rcases found : slots.get (slotAt (height + 1) other) with - | next
      · rw [depth_of_none at_id found, depth_of_none at_id' found]
      · obtain ⟨lt, eq⟩ := h.child _ _ next ⟨slots, at_id, found⟩
        rw [rank_eq] at eq
        rw [depth_of_some at_id found, depth_of_some at_id' found, ih lt (Nat.succ.inj eq).symm]
        intro i lt le
        apply kept i lt (Nat.le_succ_of_le le)

/-- No table is made if all tables on the way are there. -/
theorem size_setFrom_of_depth (all : depth tables page height id = height) :
  (setFrom page e height id tables).size = tables.size
  := by
  induction height generalizing id with
  | zero => apply size_putEntry
  | succ height ih =>
      rw [depth] at all
      split at all
      · next slots at_id =>
          split at all
          · next next found =>
              rw [setFrom]
              simp only [at_id, found]
              apply ih (Nat.succ.inj all)
          · cases all
      · cases all

/-! ### Setting an entry -/

/-- The tables that are missing on the way to a page are made: there are as many more of them, and
the way to another page has those that both ways have in common.  This is so below the table with
number `id`, and nothing is made below others of its rank. -/
structure Deepens (page height : Nat) (id : UInt32) (tables : Array Table) (rank : Nat → Nat)
    (tables' : Array Table) : Prop where
  size : tables'.size + depth tables page height id = tables.size + height
  depth : ∀ id' : UInt32, id'.toNat < tables.size → rank id'.toNat = height → ∀ other,
    depth tables' other height id' =
      if id' = id then max (depth tables other height id') (commonSlots height other page)
      else depth tables other height id'

/-- What is made below the table in a slot is made below the one that has the slot.  A slot is the
one on the way to the page if it leads to the same table. -/
theorem Linked.deepens_of_below (h : Linked tables rank) (rank_eq : rank id.toNat = height + 1)
    (at_id : tables[id.toNat]? = some (.directory slots))
    (found : slots.get (slotAt (height + 1) page) = some next)
    (kept : ∀ i < tables.size, height < rank i → tables'[i]? = tables[i]?)
    (below : Deepens page height next tables rank tables') :
  Deepens page (height + 1) id tables rank tables'
  := by
  constructor
  · have size := below.size
    rw [depth_of_some at_id found]
    omega
  · intro id' inside' rank_eq' other
    obtain ⟨slots', at_id'⟩ := h.exists_directory inside' rank_eq'
    have higher : height < rank id'.toNat := by omega
    have at_id'' := (kept _ inside' higher).trans at_id'
    rw [commonSlots]
    rcases found' : slots'.get (slotAt (height + 1) other) with - | next'
    · rw [depth_of_none at_id' found', depth_of_none at_id'' found']
      split
      · next same =>
          subst same
          rw [at_id] at at_id'
          cases at_id'
          rw [if_neg, max_self]
          intro eq
          rw [eq, found] at found'
          cases found'
      · rfl
    · obtain ⟨lt, eq⟩ := h.child _ _ next' ⟨slots', at_id', found'⟩
      rw [rank_eq'] at eq
      rw [depth_of_some at_id' found', depth_of_some at_id'' found',
        below.depth next' lt (Nat.succ.inj eq).symm]
      have same_iff : next' = next ↔
          id' = id ∧ slotAt (height + 1) other = slotAt (height + 1) page := by
        constructor
        · rintro rfl
          obtain ⟨same, same_slot⟩ := h.unique _ _ _ _ next' ⟨slots', at_id', found'⟩
            ⟨slots, at_id, found⟩
          use UInt32.toNat_inj.mp same, same_slot
        · rintro ⟨rfl, same_slot⟩
          rw [at_id] at at_id'
          cases at_id'
          rw [same_slot, found] at found'
          exact (Option.some.inj found').symm
      by_cases same : id' = id
      · by_cases same_slot : slotAt (height + 1) other = slotAt (height + 1) page
        · rw [if_pos (same_iff.mpr ⟨same, same_slot⟩), if_pos same, if_pos same_slot]
          omega
        · have ne : next' ≠ next := fun eq => same_slot (same_iff.mp eq).2
          rw [if_neg ne, if_pos same, if_neg same_slot]
          omega
      · have ne : next' ≠ next := fun eq => same (same_iff.mp eq).1
        rw [if_neg ne, if_neg same]

/-- The table that is made is on the way to the pages that have its slot. -/
theorem Linked.depth_link (h : Linked tables rank) (word : tables.size < 2 ^ 32)
    (higher : rank id.toNat = height + 1) (at_id : tables[id.toNat]? = some (.directory slots))
    (inside' : id'.toNat < tables.size) (rank_eq' : rank id'.toNat = height + 1) :
  depth (link tables height id slots slot) other (height + 1) id' =
    if id' = id ∧ slotAt (height + 1) other = slot then 1 else depth tables other (height + 1) id'
  := by
  have inside : id.toNat < tables.size := (Array.getElem?_eq_some_iff.mp at_id).choose
  have number : tables.size.toUInt32.toNat = tables.size := UInt32.toNat_ofNat_of_lt' word
  have kept (i : Nat) (lt : i < tables.size) (ne : i ≠ id.toNat) :
      (link tables height id slots slot)[i]? = tables[i]?
    := by
    rw [getElem?_link inside, if_neg ne, if_neg (Nat.ne_of_lt lt)]
  have below (slot' : Fin 512) (next : UInt32) (links : Links tables id'.toNat slot' next) :
      depth (link tables height id slots slot) other height next = depth tables other height next
    := by
    obtain ⟨lt, eq⟩ := h.child _ _ next links
    rw [rank_eq'] at eq
    apply h.depth_congr lt (Nat.succ.inj eq).symm
    intro i lt' le slots' found
    rw [kept i lt' _, found]
    rintro rfl
    omega
  obtain ⟨slots', at_id'⟩ := h.exists_directory inside' rank_eq'
  by_cases same : id' = id
  · subst same
    rw [at_id] at at_id'
    cases at_id'
    have at_id' : (link tables height id' slots slot)[id'.toNat]? =
        some (.directory (slots.set slot (some tables.size.toUInt32)))
      := by
      rw [getElem?_link inside, if_pos rfl]
    by_cases same_slot : slotAt (height + 1) other = slot
    · have found : (slots.set slot (some tables.size.toUInt32)).get (slotAt (height + 1) other) =
          some tables.size.toUInt32
        := by
        rw [get_set, if_pos same_slot]
      rw [if_pos ⟨rfl, same_slot⟩, depth_of_some at_id' found, depth_fresh]
      rw [number, getElem?_link inside, if_neg (Nat.ne_of_gt inside), if_pos rfl]
    · have get_eq : (slots.set slot (some tables.size.toUInt32)).get (slotAt (height + 1) other) =
          slots.get (slotAt (height + 1) other)
        := by
        rw [get_set, if_neg same_slot]
      rw [if_neg (same_slot ·.2)]
      rcases found : slots.get (slotAt (height + 1) other) with - | next
      · rw [depth_of_none at_id found, depth_of_none at_id' (get_eq.trans found)]
      · rw [depth_of_some at_id found, depth_of_some at_id' (get_eq.trans found),
          below _ next ⟨slots, at_id, found⟩]
  · have at_id'' := (kept _ inside' (mt UInt32.toNat_inj.mp same)).trans at_id'
    rw [if_neg (same ·.1)]
    rcases found : slots'.get (slotAt (height + 1) other) with - | next
    · rw [depth_of_none at_id' found, depth_of_none at_id'' found]
    · rw [depth_of_some at_id' found, depth_of_some at_id'' found,
        below _ next ⟨slots', at_id', found⟩]

/-- What is made below the table in a slot that was vacant, and that table itself, are made below
the one that has the slot. -/
theorem Linked.deepens_of_link (h : Linked tables rank) (word : tables.size < 2 ^ 32)
    (higher : rank id.toNat = height + 1) (at_id : tables[id.toNat]? = some (.directory slots))
    (vacant : slots.get (slotAt (height + 1) page) = none)
    (made : Deepens page (height + 1) id
      (link tables height id slots (slotAt (height + 1) page))
      (Function.update rank tables.size height) tables') :
  Deepens page (height + 1) id tables rank tables'
  := by
  have inside : id.toNat < tables.size := (Array.getElem?_eq_some_iff.mp at_id).choose
  constructor
  · have size := made.size
    rw [size_link, h.depth_link word higher at_id inside higher, if_pos ⟨rfl, rfl⟩] at size
    rw [depth_of_none at_id vacant]
    omega
  · intro id' inside' rank_eq' other
    have inside'' : id'.toNat < (link tables height id slots (slotAt (height + 1) page)).size := by
      rw [size_link]
      apply Nat.lt_succ_of_lt inside'
    have rank_eq'' : Function.update rank tables.size height id'.toNat = height + 1 := by
      rw [Function.update_of_ne (Nat.ne_of_lt inside'), rank_eq']
    rw [made.depth id' inside'' rank_eq'' other,
      h.depth_link word higher at_id inside' rank_eq', commonSlots]
    by_cases same : id' = id
    · by_cases same_slot : slotAt (height + 1) other = slotAt (height + 1) page
      · subst same
        have none : depth tables other (height + 1) id' = 0 := by
          apply depth_of_none at_id
          rw [same_slot, vacant]
        rw [if_pos rfl, if_pos ⟨rfl, same_slot⟩, if_pos same_slot, if_pos rfl, none]
        omega
      · simp only [same_slot, and_false, if_false]
    · simp only [same, false_and, if_false]

/-- Setting an entry that is not empty makes the tables that are missing, as long as their numbers
are words. -/
theorem Linked.deepens_setFrom (h : Linked tables rank) (inside : id.toNat < tables.size)
    (rank_eq : rank id.toNat = height) (some : e ≠ .empty)
    (fits : (setFrom page e height id tables).size ≤ 2 ^ 32) :
  Deepens page height id tables rank (setFrom page e height id tables)
  := by
  induction height generalizing id tables rank with
  | zero =>
      constructor
      · rw [setFrom, size_putEntry]
        rfl
      · intro id' inside' rank_eq' other
        simp only [depth, commonSlots, max_self, ite_self]
  | succ height ih =>
      obtain ⟨slots, at_id⟩ := h.exists_directory inside rank_eq
      simp only [setFrom, at_id] at fits ⊢
      rcases found : slots.get (slotAt (height + 1) page) with - | next
      · simp only [found, if_neg some] at fits ⊢
        have word : tables.size < 2 ^ 32 := by
          have le := size_le_setFrom.trans fits
          rw [size_link] at le
          apply Nat.lt_of_succ_le le
        have number : tables.size.toUInt32.toNat = tables.size := UInt32.toNat_ofNat_of_lt' word
        have linked := h.linked_link word rank_eq at_id found
        have inside' : tables.size.toUInt32.toNat <
            (link tables height id slots (slotAt (height + 1) page)).size
          := by
          rw [number, size_link]
          apply Nat.lt_succ_self
        have rank_eq' : Function.update rank tables.size height tables.size.toUInt32.toNat = height
          := by
          rw [number, Function.update_self]
        obtain ⟨rank', sets⟩ := linked.sets_setFrom inside' rank_eq' fits
        have at_id' : (link tables height id slots (slotAt (height + 1) page))[id.toNat]? =
            .some (.directory (slots.set (slotAt (height + 1) page) (.some tables.size.toUInt32)))
          := by
          rw [getElem?_link (Array.getElem?_eq_some_iff.mp at_id).choose, if_pos rfl]
        apply h.deepens_of_link word rank_eq at_id found
        apply linked.deepens_of_below _ at_id' _ sets.kept (ih linked inside' rank_eq' fits)
        · rw [Function.update_of_ne (Nat.ne_of_lt inside), rank_eq]
        · rw [get_set, if_pos rfl]
      · simp only [found] at fits ⊢
        obtain ⟨lt, eq⟩ := h.child _ _ next ⟨slots, at_id, found⟩
        rw [rank_eq] at eq
        obtain ⟨rank', sets⟩ := h.sets_setFrom lt (Nat.succ.inj eq).symm fits
        apply h.deepens_of_below rank_eq at_id found sets.kept
        apply ih h lt (Nat.succ.inj eq).symm fits

/-- Emptying an entry changes no directory. -/
theorem directory_setFrom_empty (found : tables[i]? = some (.directory slots)) :
  (setFrom page .empty height id tables)[i]? = some (.directory slots)
  := by
  induction height generalizing id with
  | zero =>
      rw [setFrom, putEntry]
      split
      · next entries at_id =>
          rw [Array.getElem?_setIfInBounds_ne, found]
          intro eq
          rw [eq, found] at at_id
          cases at_id
      · apply found
  | succ height ih =>
      rw [setFrom]
      split
      · split
        · apply ih
        · rw [if_pos rfl]
          apply found
      · apply found

/-! ### Arenas that are built -/

/-- The number of tables on the way to a page that are there, the root not counted. -/
def madeFor (a : Arena) (page : Nat) : Nat := depth a.tables page 4 0

/-- Setting an entry makes the tables that are missing on the way to its page. -/
theorem Linked.madeFor_set (h : Linked a.tables rank) (some : e ≠ .empty)
    (fits : (a.set page e).tableCount ≤ 2 ^ 32) :
  (a.set page e).tableCount + a.madeFor page = a.tableCount + 4 ∧
    ∀ other, (a.set page e).madeFor other = max (a.madeFor other) (commonSlots 4 other page)
  := by
  obtain ⟨inside, root⟩ := h.root_inside
  have deepens := h.deepens_setFrom inside root some fits
  use deepens.size
  intro other
  have law := deepens.depth 0 inside root other
  rw [if_pos rfl] at law
  apply law

/-- Emptying an entry makes no table. -/
theorem Linked.madeFor_set_empty (h : Linked a.tables rank) :
  (a.set page .empty).tableCount = a.tableCount ∧
    ∀ other, (a.set page .empty).madeFor other = a.madeFor other
  := by
  obtain ⟨inside, root⟩ := h.root_inside
  use size_setFrom_empty
  intro other
  apply h.depth_congr inside root
  intro i lt le slots found
  apply directory_setFrom_empty found

theorem Linked.madeFor_clear (h : Linked a.tables rank) :
  (a.clear page).2.tableCount = a.tableCount ∧
    ∀ other, (a.clear page).2.madeFor other = a.madeFor other
  := by
  rw [Arena.clear]
  dsimp only
  split
  · constructor
    · rfl
    · intro _
      rfl
  · apply h.madeFor_set_empty

theorem madeFor_new :
  new.madeFor page = 0
  := depth_fresh rfl

/-- The tables on the way to a page are those for its beginnings that some page set so far has. -/
theorem Built.le_madeFor_iff (built : Built edits a) (ge : 1 ≤ n) (le : n ≤ 4) :
  n ≤ a.madeFor page ↔
    (PageIndices.ofPage page).toList.take n ∈ beginnings n (pagesSet edits)
  := by
  induction built generalizing page with
  | new =>
      rw [madeFor_new, pagesSet, mem_beginnings]
      constructor
      · omega
      · rintro ⟨p, mem, -⟩
        cases mem
  | @edit edits a built edit fits ih =>
      obtain ⟨rank, linked⟩ := built.linked
      cases edit with
      | set page' e =>
          show n ≤ (a.set page' e).madeFor page ↔ _
          rw [pagesSet]
          split
          · next empty => rw [empty, linked.madeFor_set_empty.2, ih]
          · next some =>
              rw [(linked.madeFor_set some fits).2, le_max_iff, ih, le_commonSlots_iff le,
                ← take_toList_ofPage le, ← take_toList_ofPage le, beginnings_cons,
                Finset.mem_insert, or_comm]
      | clear page' =>
          show n ≤ (a.clear page').2.madeFor page ↔ _
          rw [linked.madeFor_clear.2, ih, pagesSet]
      | reset =>
          show n ≤ a.reset.madeFor page ↔ _
          rw [linked.reset_eq, madeFor_new, pagesSet, mem_beginnings]
          constructor
          · omega
          · rintro ⟨p, mem, -⟩
            cases mem

/-- Of the beginnings of a page those are new that no other page has. -/
theorem sum_card_beginnings_cons {made : Nat} (made_le : made ≤ 4)
    (known : ∀ n, 1 ≤ n → n ≤ 4 →
      (n ≤ made ↔ (PageIndices.ofPage page).toList.take n ∈ beginnings n pages)) :
  ∑ n ∈ Finset.Icc 1 4, (beginnings n (page :: pages)).card + made =
    ∑ n ∈ Finset.Icc 1 4, (beginnings n pages).card + 4
  := by
  have grown (n : Nat) (mem : n ∈ Finset.Icc 1 4) :
      (beginnings n (page :: pages)).card =
        (beginnings n pages).card + if n ≤ made then 0 else 1
    := by
    obtain ⟨ge, le⟩ := Finset.mem_Icc.mp mem
    rw [beginnings_cons, Finset.card_insert_eq_ite]
    simp only [known n ge le]
    split
    · rfl
    · rfl
  have missing : ∀ made ≤ 4, ∑ n ∈ Finset.Icc 1 4, (if n ≤ made then 0 else 1) + made = 4 := by
    decide
  have missing := missing made made_le
  rw [Finset.sum_congr rfl grown, Finset.sum_add_distrib]
  omega

/-- Besides the root there is a table for each beginning of the pages that were set. -/
theorem Built.tableCount_eq_sum (built : Built edits a) :
  a.tableCount = 1 + ∑ n ∈ Finset.Icc 1 4, (beginnings n (pagesSet edits)).card
  := by
  induction built with
  | new => rfl
  | @edit edits a built edit fits ih =>
      obtain ⟨rank, linked⟩ := built.linked
      cases edit with
      | set page e =>
          show (a.set page e).tableCount = _
          rw [pagesSet]
          split
          · next empty => rw [empty, linked.madeFor_set_empty.1, ih]
          · next some =>
              have made := (linked.madeFor_set some fits).1
              have made_le : a.madeFor page ≤ 4 := depth_le
              have sum := sum_card_beginnings_cons made_le fun n ge le => built.le_madeFor_iff ge le
              omega
      | clear page =>
          show (a.clear page).2.tableCount = _
          rw [linked.madeFor_clear.1, ih, pagesSet]
      | reset =>
          show a.reset.tableCount = _
          rw [linked.reset_eq, pagesSet]
          rfl

/-- A page that was set has all its tables. -/
theorem Built.madeFor_of_mem (built : Built edits a) (mem : page ∈ pagesSet edits) :
  a.madeFor page = 4
  := by
  apply Nat.le_antisymm depth_le
  apply (built.le_madeFor_iff (by decide) (Nat.le_refl 4)).mpr
  apply mem_beginnings.mpr
  use page, mem

/-- Setting pages that were set before makes no table, whatever their order and their entries. -/
theorem Built.tableCount_setAgain (built : Built edits a) {again : List (Nat × Entry)}
    (known : ∀ b ∈ again, b.1 ∈ pagesSet edits) :
  (again.foldl (fun a b => a.set b.1 b.2) a).tableCount = a.tableCount
  := by
  induction again generalizing a edits with
  | nil => rfl
  | cons b again ih =>
      have kept : (a.set b.1 b.2).tableCount = a.tableCount := by
        apply size_setFrom_of_depth
        apply built.madeFor_of_mem
        apply known b List.mem_cons_self
      have built' : Built (.set b.1 b.2 :: edits) (a.set b.1 b.2) :=
        built.edit (.set b.1 b.2) (kept.trans_le built.tableCount_le)
      rw [List.foldl_cons, ih built', kept]
      intro b' mem
      rw [pagesSet]
      have known' := known b' (List.mem_cons_of_mem _ mem)
      split
      · apply known'
      · apply List.mem_cons_of_mem _ known'

/-- An arena that is built has, besides the root, a table for each beginning of one to four slots
that is one of a page set so far.  Emptying an entry makes no table, and neither does setting
pages that were set before. -/
theorem Built.tableCount_laws (built : Built edits a) :
  a.tableCount = 1 + ∑ n ∈ Finset.Icc 1 4, (beginnings n (pagesSet edits)).card ∧
  (∀ page, (a.clear page).2.tableCount = a.tableCount ∧
    (a.set page .empty).tableCount = a.tableCount) ∧
  ∀ again : List (Nat × Entry), (∀ b ∈ again, b.1 ∈ pagesSet edits) →
    (again.foldl (fun a b => a.set b.1 b.2) a).tableCount = a.tableCount
  := by
  obtain ⟨rank, linked⟩ := built.linked
  use built.tableCount_eq_sum
  constructor
  · intro page
    use linked.madeFor_clear.1
    apply linked.madeFor_set_empty.1
  · intro again known
    apply built.tableCount_setAgain known

/-- What is done to a new page table, the last edit first.  After the reset two pages are set that
differ in the slot of the lowest directory; a third page is emptied, which no table is there for. -/
def neighbourly : List Edit :=
  [.clear 7, .set (2 ^ 40) .empty, .set (2 ^ 9 + 7) (.ofSwap 0 9), .set 7 (.ofSwap 0 3), .reset,
    .set (2 ^ 30) (.ofSwap 0 1)]

/-- The page table to which `neighbourly` leads. -/
def neighbours : Arena := neighbourly.foldr Edit.apply new

/-- The two pages have three tables in common besides the root, and there is one leaf for each. -/
theorem tableCount_laws_neighbours :
  Built neighbourly neighbours ∧ pagesSet neighbourly = [2 ^ 9 + 7, 7] ∧
    neighbours.tableCount = 6 ∧
    ((neighbours.set 7 (.ofSwap 0 5)).set (2 ^ 9 + 7) .empty).tableCount = 6
  := by
  have built : Built neighbourly neighbours := by
    apply Built.edit _ (.clear 7) (by decide +kernel)
    apply Built.edit _ (.set (2 ^ 40) .empty) (by decide +kernel)
    apply Built.edit _ (.set (2 ^ 9 + 7) (.ofSwap 0 9)) (by decide +kernel)
    apply Built.edit _ (.set 7 (.ofSwap 0 3)) (by decide +kernel)
    apply Built.edit _ .reset (by decide +kernel)
    apply Built.new.edit (.set (2 ^ 30) (.ofSwap 0 1)) (by decide +kernel)
  have set : pagesSet neighbourly = [2 ^ 9 + 7, 7] := by decide +kernel
  obtain ⟨count, -, again⟩ := built.tableCount_laws
  have six : neighbours.tableCount = 6 := by
    rw [count, set]
    decide
  use built, set, six
  rw [← six]
  apply again [(7, .ofSwap 0 5), (2 ^ 9 + 7, .empty)]
  rw [set]
  decide

end Arena

end VirtualMemory
