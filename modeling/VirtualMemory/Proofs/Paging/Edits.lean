import VirtualMemory.Proofs.Page.Tree
import VirtualMemory.Proofs.Paging.Agreement

/-!
# Edits of the page table

What the operations on pages do to the page table are edits: since the pages were last released,
only pages below the limit of the address space were set, and pages were cleared.
-/

namespace VirtualMemory.Paging

open Arena

variable {c : Config} {ω : Type} {p : Paging c} {page : Nat} {e : Entry}

/-- The page table is built by edits of pages below the limit of the address space. -/
def Edited (p : Paging c) : Prop :=
  ∃ edits, (∀ edit ∈ edits, edit.Below c.maxPages) ∧ p.table = treeOf edits

theorem edited_empty :
  (empty c).Edited
  := by
  use []
  constructor
  · intro edit mem
    cases mem
  · rfl

/-- One edit more. -/
theorem Edited.edit {p' : Paging c} (h : p.Edited) (edit : Edit) (below : edit.Below c.maxPages)
    (eq : p'.table = edit.applyTree p.table) :
  p'.Edited
  := by
  obtain ⟨edits, inside, before⟩ := h
  use edit :: edits
  constructor
  · rw [List.forall_mem_cons]
    use below, inside
  · rw [eq, before, treeOf]

theorem Edited.setEntry (h : p.Edited) (below : page < c.maxPages) :
  (p.setEntry page e).Edited
  := h.edit (.set page e) below rfl

theorem Edited.clearEntry (h : p.Edited) :
  (p.clearEntry page).Edited
  := h.edit (.clear page) trivial rfl

/-! ### What operations leave -/

section Kept

variable [Backing ω] {stores : Stores} {s s' : Paging c × ω} {answer : Except Error Nat}

theorem Eviction.edited (h : Eviction stores s answer s') (a : s.1.Agreement) (ed : s.1.Edited) :
  s'.1.Edited
  := by
  cases h with
  | noStore missing => apply ed
  | noSlot brought acquired => apply ed
  | noVictim brought acquired idle => apply ed
  | homeless brought acquired oldest home => apply ed
  | uncopied brought acquired oldest home copied => apply ed
  | @evicted p w w' w'' slot victim frame rest brought acquired oldest home copied =>
      apply Edited.setEntry (p := { p with residency := ⟨rest⟩ }) ed (a.oldest_lt oldest)

theorem Obtaining.edited (h : Obtaining stores s answer s') (a : s.1.Agreement)
    (ed : s.1.Edited) :
  s'.1.Edited
  := by
  cases h with
  | noStore missing => apply ed
  | free brought acquired => apply ed
  | refused brought acquired other => apply ed
  | full brought acquired eviction => apply eviction.edited a ed

theorem Mapping.edited (h : Mapping stores page s answer s') (below : page < c.maxPages)
    (a : s.1.Agreement) (ed : s.1.Edited) :
  s'.1.Edited
  := by
  cases h with
  | noFrame obtaining => apply obtaining.edited a ed
  | rejected obtaining unfit => apply obtaining.edited a ed
  | uncleared obtaining cleared => apply obtaining.edited a ed
  | mapped obtaining fit cleared => apply (obtaining.edited a ed).setEntry below

theorem Return.edited {slot : Nat} (h : Return stores page slot s answer s')
    (below : page < c.maxPages) (a : s.1.Agreement) (ed : s.1.Edited) :
  s'.1.Edited
  := by
  cases h with
  | noStore missing => apply ed
  | noFrame obtaining => apply obtaining.edited a ed
  | uncopied brought obtaining copied => apply obtaining.edited a ed
  | rejected brought obtaining copied unfit => apply obtaining.edited a ed
  | returned brought obtaining copied fit => apply (obtaining.edited a ed).setEntry below

theorem Resolution.edited (h : Resolution stores page s answer s') (a : s.1.Agreement)
    (ed : s.1.Edited) :
  s'.1.Edited
  := by
  cases h with
  | beyond above => apply ed
  | identity below mode => apply ed
  | resident below mode place => apply ed
  | swapped below mode place fault => apply fault.edited below a ed
  | unmapped below mode place fault => apply fault.edited below a ed

theorem edited_withdraw {pages : List Nat} (ed : s.1.Edited) :
  (pages.foldl (withdraw stores) s).1.Edited
  := by
  induction pages generalizing s with
  | nil => apply ed
  | cons page rest ih => apply ih ed.clearEntry

theorem Progress.edited {count : Nat} {mapped : List Nat} {answer : Except Error Unit}
    (h : Progress stores count page mapped s answer s') (fits : c.maxPages ≤ pageLimit)
    (range : page + count ≤ c.maxPages) (a : s.1.Agreement) (ed : s.1.Edited) :
  s'.1.Edited
  := by
  induction h with
  | done => apply ed
  | skipped present rest ih => apply ih (by omega) a ed
  | undone absent mapping => apply edited_withdraw (mapping.edited (by omega) a ed)
  | mapped absent mapping rest ih =>
      apply ih (by omega)
      · apply mapping.agreement fits (by omega) (Entry.isResident_eq_false_of_absent absent) a
      · apply mapping.edited (by omega) a ed

theorem PagesMapping.edited {first count : Nat} {answer : Except Error Unit}
    (h : PagesMapping stores first count s answer s') (fits : c.maxPages ≤ pageLimit)
    (a : s.1.Agreement) (ed : s.1.Edited) :
  s'.1.Edited
  := by
  cases h with
  | nothing none => apply ed
  | beyond some above => apply ed
  | identity some below mode => apply ed
  | paged some below mode progress => apply progress.edited fits (by omega) a ed

theorem RangeMapping.edited {start stop : Nat} {answer : Except Error Unit}
    (h : RangeMapping stores start stop s answer s') (fits : c.maxPages ≤ pageLimit)
    (a : s.1.Agreement) (ed : s.1.Edited) :
  s'.1.Edited
  := by
  cases h with
  | nothing none => apply ed
  | beyond some above => apply ed
  | identity some below mode => apply ed
  | paged some below mode progress =>
      have le := pageOf_mono (c := c) (Nat.le_sub_one_of_lt some)
      apply progress.edited fits (by omega) a ed

theorem Release.edited (h : Release stores s answer s') (ed : s.1.Edited) :
  s'.1.Edited
  := by
  cases h with
  | identity mode => apply ed
  | released mode => apply edited_empty

end Kept

/-! ### The arena of a page table -/

/-- A page table that is edited has the entries, the list of entries and the number of tables of the
arena that the same edits build, as long as the tables can be numbered. -/
theorem Edited.exists_arena (h : p.Edited) (few : p.table.tableCount + 4 ≤ 2 ^ 32) :
  ∃ edits a, p.table = treeOf edits ∧ Built edits a ∧ (∀ page, a.entry page = p.entry page) ∧
    a.entries = p.table.entries ∧ a.tableCount = p.table.tableCount
  := by
  obtain ⟨edits, below, eq⟩ := h
  rw [eq] at few
  obtain ⟨a, built⟩ := exists_built below few
  use edits, a, eq, built
  rw [eq]
  constructor
  · intro page
    rw [entry, eq]
    apply built.entry_eq
  use built.entries_eq
  apply built.tables_eq.1

/-- In an address space of at most `2 ^ 40` pages all tables can be numbered. -/
theorem Edited.tableCount_le (h : p.Edited) (small : c.maxPages ≤ 2 ^ 40) :
  p.table.tableCount + 4 ≤ 2 ^ 32
  := by
  obtain ⟨edits, below, eq⟩ := h
  rw [eq]
  apply tableCount_treeOf_le
  intro edit mem
  have inside := below edit mem
  cases edit with
  | set page e => apply lt_of_lt_of_le inside small
  | clear page => trivial
  | reset => cases inside

end VirtualMemory.Paging
