import VirtualMemory.Proofs.Paging.Edits
import VirtualMemory.Proofs.Space.Course
import VirtualMemory.Proofs.Space.Release
import VirtualMemory.Proofs.Space.SwapSlots

/-!
# The arena of a space

The page table of a space is a tree, whose tables need no numbers.  On every course of a space the
table is that of an arena, with the same entries, the same list of them and the same number of
tables, as long as there are fewer tables than numbers.  A space of at most `2 ^ 40` pages never has
more, so what is said of the tree holds of an arena there.  The course in which anything may happen
covers the other ways in which states of a space are reached: by commands in any worlds, beside
memories that others use, with the faults that it suffers, and in a system of many spaces.
-/

namespace VirtualMemory

open Arena

variable {c : Config} {ω : Type} {stores : Stores}

namespace Space

variable [Backing ω] {setting : Setting ω} {s : Space c × ω}

theorem robust_edited (fits : c.maxPages ≤ pageLimit) :
  Command.Robust (c := c) (ω := ω) (fun t => t.1.Agreement ∧ t.1.Edited) stores
  := by
  constructor
  · constructor
    · intro page
      constructor
      rintro t ⟨a, ed⟩
      use Paging.resolve_ends.agreement fits a
      apply Paging.resolve_ends.edited a ed
    · intro start stop
      constructor
      rintro t ⟨a, ed⟩
      use Paging.mapAddresses_ends.agreement fits a
      apply Paging.mapAddresses_ends.edited fits a ed
    · intro address
      constructor
      intro t kept
      apply kept
  · intro address value
    constructor
    intro t kept
    apply kept
  · intro frame slot
    constructor
    intro t kept
    apply kept
  · intro page below
    constructor
    rintro t ⟨a, ed⟩
    rw [Paging.run_markDirty]
    split
    · next resident =>
        use a.setDirty (lt_of_lt_of_le below fits) resident
        apply ed.setEntry below
    · use a

/-- Every command edits the page table, with any stores. -/
theorem edited_run (fits : c.maxPages ≤ pageLimit) {command : Command}
    (a : s.1.paging.Agreement) (ed : s.1.paging.Edited) :
  (command.run stores s).state.1.paging.Edited
  := by
  by_cases release : command = .release
  · subst release
    rw [Command.state_run_release]
    apply Paging.releaseAll_ends.edited ed
  · apply (((robust_edited fits).run release).state s ⟨a, ed⟩).2

/-- On every course the page table is built by edits. -/
theorem Course.edited (course : Course setting s) (fits : c.maxPages ≤ pageLimit) :
  s.1.paging.Edited
  := by
  induction course with
  | new fresh => apply Paging.edited_empty
  | meanwhile course change ih => apply ih
  | command course brought command ih => apply edited_run fits (course.agreement fits) ih
  | fault course brought page ih => apply Paging.resolve_ends.edited (course.agreement fits) ih
  | range course brought first count ih =>
      apply Paging.mapRange_ends.edited fits (course.agreement fits) ih

/-- On every course the edits of the page table build an arena that has the same entries and tables,
if the tables can be numbered. -/
theorem Course.exists_arena (course : Course setting s) (fits : c.maxPages ≤ pageLimit)
    (few : s.1.paging.table.tableCount + 4 ≤ 2 ^ 32) :
  ∃ edits a, s.1.paging.table = treeOf edits ∧ Built edits a ∧
    (∀ page, a.entry page = s.1.paging.entry page) ∧ a.entries = s.1.paging.table.entries ∧
    a.tableCount = s.1.paging.table.tableCount
  := by
  apply (course.edited fits).exists_arena few

/-- A space of at most `2 ^ 40` pages never has more tables than can be numbered, whatever it did
before. -/
theorem Course.exists_arena_of_small (course : Course setting s) (small : c.maxPages ≤ 2 ^ 40) :
  ∃ edits a, s.1.paging.table = treeOf edits ∧ Built edits a ∧ a.tableCount ≤ 2 ^ 32 ∧
    (∀ page, a.entry page = s.1.paging.entry page) ∧ a.entries = s.1.paging.table.entries ∧
    a.tableCount = s.1.paging.table.tableCount
  := by
  have fits : c.maxPages ≤ pageLimit := small.trans (by decide)
  have few := (course.edited fits).tableCount_le small
  obtain ⟨edits, a, eq, built, same⟩ := course.exists_arena fits few
  use edits, a, eq, built, built.tableCount_le

/-! ### Ways to a course -/

/-- Commands in any worlds are a course. -/
theorem Reaches.course {s : Space c} {direct : Nat} (reached : Reaches c ω s direct) (w : ω) :
  Course .any (s, w)
  := by
  induction reached generalizing w with
  | start => apply Course.new trivial
  | @step s direct reached w' stores command ih =>
      have course : Course .any (command.run stores (s, w')).state
        := (ih w').command trivial command
      apply course.meanwhile trivial

theorem Suffers.course {ω : Type} [SwapBacked ω] {s : Space c × ω} {past : List (PageFault c ω)}
    (suffers : Suffers s past) :
  Course .any s
  := by
  induction suffers with
  | new few pool => apply Course.new trivial
  | others suffers count pool spared ih => apply ih.meanwhile trivial
  | fault suffers stores page ih => apply ih.fault trivial
  | command suffers stores command ih => apply ih.command trivial

theorem Arises.course {ω : Type} [MemoryBacked ω] {s : Space c × ω} (arises : Arises s) :
  Course .any s
  := by
  induction arises with
  | new stocked => apply Course.new trivial
  | command arises stores command ih => apply ih.command trivial
  | others arises shape stocked ih => apply ih.meanwhile trivial

end Space

/-- In a run of many spaces each of them is on a course. -/
theorem Run.course {ι ω : Type} [DecidableEq ι] [MemoryBacked ω] {configs : ι → Config}
    {allowed : Stores → Command → Prop} {start s : System configs ω} {history : List (Record ι)}
    (run : Run allowed start history s) (new : ∀ i, start.spaces i = Space.new (configs i))
    (i : ι) :
  Space.Course .any (s.spaces i, s.world)
  := by
  induction run with
  | start =>
      rw [new]
      apply Space.Course.new trivial
  | @step history s run w same j stores command fits ih =>
      have before : Space.Course .any (s.spaces i, w) := ih.meanwhile trivial
      by_cases own : i = j
      · subst own
        have course : Space.Course .any (command.run stores (s.spaces i, w)).state
          := before.command trivial command
        simp only [System.act, System.withWorld, Function.update_self]
        apply course
      · simp only [System.act, System.withWorld, Function.update_of_ne own]
        apply ih.meanwhile trivial

end VirtualMemory
