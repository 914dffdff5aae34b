import VirtualMemory.Proofs.Page.TableCount
import Mathlib.Algebra.Group.Action.Defs

/-!
# Trees and arenas

A page table that is a tree and one that is an arena, built by the same edits, have the same
entries, list the same entries and have the same number of tables, as long as the tables of the
arena can be numbered.  They can while the tree stays below `2 ^ 32` tables, and it does so if only
pages below `2 ^ 40` are set: such pages select one of sixteen slots of the root.
-/

namespace VirtualMemory

open Arena

namespace Subtable

variable {height page other : Nat} {t : Subtable height} {e : Entry}

/-! ### Tables on the way to a page -/

/-- The number of tables that are there on the way to a page, below a table. -/
def depth : (height : Nat) → Subtable height → (page : Nat) → Nat
  | 0, _, _ => 0
  | height + 1, t, page =>
    match Slots.get? (α := Subtable height) t (levelIndex (height + 1) page) with
    | some below => depth height below page + 1
    | none => 0

theorem depth_le :
  t.depth height page ≤ height
  := by
  induction height with
  | zero => apply Nat.le_refl
  | succ height ih =>
      rw [depth]
      split
      · apply Nat.succ_le_succ ih
      · apply Nat.zero_le

theorem depth_empty :
  (empty height).depth height page = 0
  := by
  cases height with
  | zero => rfl
  | succ height => rfl

theorem tableCount_empty :
  (empty height).tableCount height = 1
  := by
  cases height with
  | zero => rfl
  | succ height => rfl

/-- The tables on the way to a page are those that were there, and those on the way to the page
that is set. -/
theorem depth_set (some : e ≠ .empty) :
  (t.set height page e).depth height other =
    max (t.depth height other) (commonSlots height other page)
  := by
  induction height with
  | zero => rfl
  | succ height ih =>
      simp only [set, depth, commonSlots, slotAt_eq_iff]
      cases found : Slots.get? (α := Subtable height) t (levelIndex (height + 1) page) with
      | some below =>
          simp only [Slots.get?_insert]
          by_cases same : levelIndex (height + 1) other = levelIndex (height + 1) page
          · simp only [same, if_true, found, ih, Nat.add_max_add_right]
          · simp only [same, if_false, Nat.max_zero]
      | none =>
          simp only [if_neg some, Slots.get?_insert]
          by_cases same : levelIndex (height + 1) other = levelIndex (height + 1) page
          · simp only [same, if_true, found, ih, depth_empty, Nat.zero_max]
          · simp only [same, if_false, Nat.max_zero]

theorem depth_set_empty :
  (t.set height page .empty).depth height other = t.depth height other
  := by
  induction height with
  | zero => rfl
  | succ height ih =>
      simp only [set, depth]
      cases found : Slots.get? (α := Subtable height) t (levelIndex (height + 1) page) with
      | some below =>
          simp only [Slots.get?_insert]
          by_cases same : levelIndex (height + 1) other = levelIndex (height + 1) page
          · simp only [same, if_true, found, ih]
          · simp only [same, if_false]
      | none => simp only [if_true]

/-! ### Counting tables -/

/-- The tables below a table are counted slot by slot. -/
theorem tableCount_succ {t : Subtable (height + 1)} :
  tableCount (height + 1) t =
    1 + ((Slots.entries (α := Subtable height) t).map fun e => tableCount height e.2).sum
  := rfl

/-- The number of tables below a table that has another one in a slot. -/
theorem tableCount_insert {t : Subtable (height + 1)} {below : Subtable height} {slot : Nat}
    (sorted : Slots.Sorted (α := Subtable height) t) :
  tableCount (height + 1) (Slots.insert (α := Subtable height) t slot below) =
    tableCount height below + tableCount (height + 1) (Slots.erase (α := Subtable height) t slot)
  := by
  have perm := (Slots.Sorted.insert_perm sorted (i := slot) (a := below)).map
    fun e => tableCount height e.2
  have sum := perm.sum_eq
  rw [List.map_cons, List.sum_cons] at sum
  rw [tableCount_succ, tableCount_succ, sum]
  apply Nat.add_left_comm

/-- The number of tables below a table, one of which is in a slot. -/
theorem tableCount_of_get? {t : Subtable (height + 1)} {below : Subtable height} {slot : Nat}
    (sorted : Slots.Sorted (α := Subtable height) t)
    (found : Slots.get? (α := Subtable height) t slot = some below) :
  tableCount (height + 1) t =
    tableCount height below + tableCount (height + 1) (Slots.erase (α := Subtable height) t slot)
  := by
  have perm := (Slots.Sorted.entries_perm sorted found).map fun e => tableCount height e.2
  have sum := perm.sum_eq
  rw [List.map_cons, List.sum_cons] at sum
  rw [tableCount_succ, tableCount_succ, sum]
  apply Nat.add_left_comm

/-- Setting an entry makes the tables that are missing on the way to its page. -/
theorem WellFormed.tableCount_set (h : t.WellFormed height) (some : e ≠ .empty) :
  (t.set height page e).tableCount height + t.depth height page = t.tableCount height + height
  := by
  induction height with
  | zero => rfl
  | succ height ih =>
      obtain ⟨sorted, stored⟩ := h
      simp only [Subtable.set, depth]
      cases found : Slots.get? (α := Subtable height) t (levelIndex (height + 1) page) with
      | some below =>
          have wellFormed : below.WellFormed height :=
            (stored _ ((Slots.Sorted.mem_iff sorted).mpr found)).2
          have law := ih wellFormed
          rw [tableCount_of_get? sorted found]
          simp only [tableCount_insert sorted]
          omega
      | none =>
          have fresh : (empty height).WellFormed height := wellFormed_empty
          have law := ih fresh
          rw [depth_empty, tableCount_empty] at law
          have kept : tableCount (height + 1) (Slots.erase (α := Subtable height) t
              (levelIndex (height + 1) page)) = tableCount (height + 1) t
            := by rw [tableCount_succ, tableCount_succ, Slots.erase_entries_of_none found]
          simp only [if_neg some, tableCount_insert sorted, kept]
          omega

/-- Emptying an entry makes no table. -/
theorem WellFormed.tableCount_set_empty (h : t.WellFormed height) :
  (t.set height page .empty).tableCount height = t.tableCount height
  := by
  induction height with
  | zero => rfl
  | succ height ih =>
      obtain ⟨sorted, stored⟩ := h
      simp only [Subtable.set]
      cases found : Slots.get? (α := Subtable height) t (levelIndex (height + 1) page) with
      | some below =>
          have wellFormed : below.WellFormed height :=
            (stored _ ((Slots.Sorted.mem_iff sorted).mpr found)).2
          rw [tableCount_of_get? sorted found]
          simp only [tableCount_insert sorted, ih wellFormed]
      | none => simp only [if_true]

/-- Setting an entry fills the slot of its page and no other, and emptying one fills none. -/
theorem WellFormed.slots_lt_set {t : Subtable (height + 1)} {slots : Nat}
    (h : t.WellFormed (height + 1))
    (few : ∀ e ∈ Slots.entries (α := Subtable height) t, e.1 < slots)
    (lt : e ≠ .empty → levelIndex (height + 1) page < slots) :
  ∀ e' ∈ Slots.entries (α := Subtable height) (t.set (height + 1) page e), e'.1 < slots
  := by
  simp only [Subtable.set]
  cases found : Slots.get? (α := Subtable height) t (levelIndex (height + 1) page) with
  | some below =>
      apply Slots.forall_mem_insert _ few
      apply few _ ((Slots.Sorted.mem_iff h.1).mpr found)
  | none =>
      dsimp only
      split
      · apply few
      · next some => apply Slots.forall_mem_insert (lt some) few

/-- The number of tables if every slot down to the entries has one. -/
def fullCount : (height : Nat) → Nat
  | 0 => 1
  | height + 1 => 1 + 2 ^ levelBits * fullCount height

/-- The number of tables below a table of which some slots are filled. -/
theorem WellFormed.tableCount_le_of_slots {t : Subtable (height + 1)} {slots : Nat}
    (h : t.WellFormed (height + 1))
    (few : ∀ e ∈ Slots.entries (α := Subtable height) t, e.1 < slots)
    (below : ∀ e ∈ Slots.entries (α := Subtable height) t,
      tableCount height e.2 ≤ fullCount height) :
  t.tableCount (height + 1) ≤ 1 + slots * fullCount height
  := by
  have sum := List.sum_le_card_nsmul
    ((Slots.entries (α := Subtable height) t).map fun e => tableCount height e.2)
    (fullCount height)
    (by
      intro n listed
      obtain ⟨e, mem, rfl⟩ := List.mem_map.mp listed
      apply below e mem)
  rw [List.length_map, smul_eq_mul] at sum
  have length := Slots.Sorted.length_le h.1 few
  rw [tableCount_succ]
  apply Nat.add_le_add_left
  apply sum.trans
  apply Nat.mul_le_mul_right _ length

theorem WellFormed.tableCount_le (h : t.WellFormed height) :
  t.tableCount height ≤ fullCount height
  := by
  induction height with
  | zero => apply Nat.le_refl
  | succ height ih =>
      apply h.tableCount_le_of_slots
      · intro e mem
        apply (h.2 e mem).1
      · intro e mem
        apply ih (h.2 e mem).2

end Subtable

namespace PageTable

variable {t : PageTable} {page other : Nat} {e : Entry}

/-- The number of tables on the way to a page that are there, the root not counted. -/
def madeFor (t : PageTable) (page : Nat) : Nat := t.root.depth 4 page

theorem madeFor_set (some : e ≠ .empty) :
  (t.set page e).madeFor other = max (t.madeFor other) (commonSlots 4 other page)
  := Subtable.depth_set some

theorem madeFor_clear :
  (t.clear page).madeFor other = t.madeFor other
  := Subtable.depth_set_empty

theorem WellFormed.tableCount_set (h : t.WellFormed) (some : e ≠ .empty) :
  (t.set page e).tableCount + t.madeFor page = t.tableCount + 4
  := Subtable.WellFormed.tableCount_set h some

theorem WellFormed.tableCount_clear (h : t.WellFormed) :
  (t.clear page).tableCount = t.tableCount
  := Subtable.WellFormed.tableCount_set_empty h

end PageTable

namespace Arena

variable {a : Arena} {edits : List Edit} {edit : Edit} {page : Nat}

/-! ### Trees and arenas with the same edits -/

/-- Changes a page table that is a tree. -/
def Edit.applyTree : Edit → PageTable → PageTable
  | set page e, t => t.set page e
  | clear page, t => t.clear page
  | reset, _ => .empty

/-- The tree that the empty one becomes by edits, of which the last comes first. -/
def treeOf : List Edit → PageTable
  | [] => .empty
  | edit :: edits => edit.applyTree (treeOf edits)

theorem wellFormed_treeOf :
  (treeOf edits).WellFormed
  := by
  induction edits with
  | nil => apply PageTable.wellFormed_empty
  | cons edit edits ih =>
      cases edit with
      | set page e => apply ih.set
      | clear page => apply ih.clear
      | reset => apply PageTable.wellFormed_empty

/-- An arena and a tree that are built by the same edits have the same entries. -/
theorem Built.entry_eq (built : Built edits a) :
  a.entry page = (treeOf edits).entry page
  := by
  induction built generalizing page with
  | new => apply entry_new
  | @edit edits a built edit fits ih =>
      obtain ⟨rank, linked⟩ := built.linked
      cases edit with
      | set page' e =>
          apply ((linked.set fits).2 page).trans
          rw [treeOf, Edit.applyTree, PageTable.entry_set, ih]
      | clear page' =>
          apply ((linked.clear built.tableCount_le).2 page).trans
          rw [treeOf, Edit.applyTree, PageTable.entry_clear, ih]
      | reset =>
          show a.reset.entry page = _
          rw [linked.reset_eq]
          apply entry_new

/-- An arena and a tree that are built by the same edits list the same entries. -/
theorem Built.entries_eq (built : Built edits a) :
  a.entries = (treeOf edits).entries
  := by
  obtain ⟨rank, linked⟩ := built.linked
  have sorted := linked.pairwise_entries
  have wellFormed : (treeOf edits).WellFormed := wellFormed_treeOf
  have sorted' := wellFormed.pairwise_entries
  have nodup (l : List (Nat × Entry)) (sorted : l.Pairwise (·.1 < ·.1)) : l.Nodup := by
    apply sorted.imp
    rintro b b' lt rfl
    apply Nat.lt_irrefl _ lt
  apply List.Perm.eq_of_pairwise _ sorted sorted'
  · apply (List.perm_ext_iff_of_nodup (nodup _ sorted) (nodup _ sorted')).mpr
    rintro ⟨page, e⟩
    rw [linked.mem_entries, wellFormed.mem_entries, built.entry_eq]
  · intro b b' mem mem' lt lt'
    apply absurd lt (Nat.lt_asymm lt')

/-- An arena and a tree that are built by the same edits have made the same tables. -/
theorem Built.tables_eq (built : Built edits a) :
  a.tableCount = (treeOf edits).tableCount ∧
    ∀ page, a.madeFor page = (treeOf edits).madeFor page
  := by
  induction built with
  | new =>
      constructor
      · rfl
      · intro page
        apply madeFor_new
  | @edit edits a built edit fits ih =>
      obtain ⟨rank, linked⟩ := built.linked
      have wellFormed : (treeOf edits).WellFormed := wellFormed_treeOf
      obtain ⟨count, made⟩ := ih
      have cleared (page : Nat) :
          a.tableCount = ((treeOf edits).clear page).tableCount ∧
            ∀ other, a.madeFor other = ((treeOf edits).clear page).madeFor other
        := by
        constructor
        · rw [wellFormed.tableCount_clear, count]
        · intro other
          rw [PageTable.madeFor_clear, made]
      cases edit with
      | set page e =>
          show (a.set page e).tableCount = _ ∧ ∀ other, (a.set page e).madeFor other = _
          by_cases empty : e = .empty
          · rw [empty, linked.madeFor_set_empty.1]
            simp only [linked.madeFor_set_empty.2]
            apply cleared
          · obtain ⟨count', made'⟩ := linked.madeFor_set empty fits
            have law : ((treeOf edits).set page e).tableCount + (treeOf edits).madeFor page =
                (treeOf edits).tableCount + 4
              := wellFormed.tableCount_set empty
            constructor
            · rw [made, count] at count'
              apply Nat.add_right_cancel (count'.trans law.symm)
            · intro other
              rw [made', made]
              apply (PageTable.madeFor_set empty).symm
      | clear page =>
          show (a.clear page).2.tableCount = _ ∧ ∀ other, (a.clear page).2.madeFor other = _
          rw [linked.madeFor_clear.1]
          simp only [linked.madeFor_clear.2]
          apply cleared
      | reset =>
          show a.reset.tableCount = _ ∧ ∀ other, a.reset.madeFor other = _
          rw [linked.reset_eq]
          constructor
          · rfl
          · intro page
            apply madeFor_new

/-! ### Numbers for all tables -/

/-- An edit sets the entry of a page below a limit, or empties one. -/
def Edit.Below (limit : Nat) : Edit → Prop
  | set page _ => page < limit
  | clear _ => True
  | reset => False

variable {limit : Nat}

/-- Without a reset no table is given up. -/
theorem tableCount_le_applyTree (below : edit.Below limit) :
  (treeOf edits).tableCount ≤ (treeOf (edit :: edits)).tableCount
  := by
  have wellFormed : (treeOf edits).WellFormed := wellFormed_treeOf
  cases edit with
  | set page e =>
      show _ ≤ ((treeOf edits).set page e).tableCount
      by_cases empty : e = .empty
      · rw [empty]
        apply wellFormed.tableCount_clear.ge
      · have law : ((treeOf edits).set page e).tableCount + (treeOf edits).madeFor page =
            (treeOf edits).tableCount + 4
          := wellFormed.tableCount_set empty
        have made : (treeOf edits).madeFor page ≤ 4 := Subtable.depth_le
        omega
  | clear page => apply wellFormed.tableCount_clear.ge
  | reset => cases below

/-- An edit makes at most four tables. -/
theorem Built.tableCount_apply_le (built : Built edits a) :
  (edit.apply a).tableCount ≤ a.tableCount + 4
  := by
  obtain ⟨rank, linked⟩ := built.linked
  cases edit with
  | set page e => apply tableCount_set_le
  | clear page =>
      show (a.clear page).2.tableCount ≤ _
      rw [linked.madeFor_clear.1]
      apply Nat.le_add_right
  | reset =>
      show a.reset.tableCount ≤ _
      rw [linked.reset_eq]
      apply Nat.le_add_left

/-- As long as the tree has less than `2 ^ 32` tables, and four to spare, an arena is built by its
edits. -/
theorem exists_built (below : ∀ edit ∈ edits, edit.Below limit)
    (few : (treeOf edits).tableCount + 4 ≤ 2 ^ 32) :
  ∃ a, Built edits a
  := by
  induction edits with
  | nil => use new, Built.new
  | cons edit edits ih =>
      have le : (treeOf edits).tableCount ≤ (treeOf (edit :: edits)).tableCount
        := tableCount_le_applyTree (below edit List.mem_cons_self)
      obtain ⟨a, built⟩ : ∃ a, Built edits a := by
        apply ih
        · intro edit mem
          apply below edit (List.mem_cons_of_mem _ mem)
        · omega
      use edit.apply a
      apply built.edit
      apply built.tableCount_apply_le.trans
      rw [built.tables_eq.1]
      omega

/-- Pages below `2 ^ 40` select one of sixteen slots of the root. -/
theorem slot_lt_of_below (below : ∀ edit ∈ edits, edit.Below (2 ^ 40)) :
  ∀ e ∈ Slots.entries (α := Subtable 3) (treeOf edits).root, e.1 < 16
  := by
  induction edits with
  | nil =>
      intro e mem
      cases mem
  | cons edit edits ih =>
      have wellFormed : (treeOf edits).WellFormed := wellFormed_treeOf
      have few := ih fun edit mem => below edit (List.mem_cons_of_mem _ mem)
      cases edit with
      | set page e =>
          have limit : page < 2 ^ 40 := below _ List.mem_cons_self
          apply Subtable.WellFormed.slots_lt_set wellFormed few
          intro some
          rw [levelIndex, Nat.shiftRight_eq_div_pow]
          apply (Nat.mod_le _ _).trans_lt
          apply Nat.div_lt_of_lt_mul
          apply limit.trans_eq
          rfl
      | clear page =>
          apply Subtable.WellFormed.slots_lt_set wellFormed few
          intro some
          apply absurd rfl some
      | reset => cases below _ List.mem_cons_self

/-- If only pages below `2 ^ 40` are set, all tables have numbers. -/
theorem tableCount_treeOf_le (below : ∀ edit ∈ edits, edit.Below (2 ^ 40)) :
  (treeOf edits).tableCount + 4 ≤ 2 ^ 32
  := by
  have wellFormed : (treeOf edits).WellFormed := wellFormed_treeOf
  have le := Subtable.WellFormed.tableCount_le_of_slots wellFormed (slot_lt_of_below below)
    (by
      intro e mem
      apply Subtable.WellFormed.tableCount_le (wellFormed.2 e mem).2)
  have value : 1 + 16 * Subtable.fullCount 3 + 4 ≤ 2 ^ 32 := by decide
  apply Nat.le_trans _ value
  apply Nat.add_le_add_right le

end Arena

end VirtualMemory
