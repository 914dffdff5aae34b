import VirtualMemory.Space.Caller
import VirtualMemory.Proofs.Paging.Housed
import VirtualMemory.Proofs.Space.Command
import VirtualMemory.Proofs.System.Run

/-!
# What the release of all pages gives back

A caller who releases the pages of a space should have the frame and the slot of each page given
back to its store, or, where a store that holds a page is missing, should be told so before
anything changes.  The release does the first if all the stores that hold pages are brought.  It
never does the second: it gives back what it can, forgets all pages, and succeeds, so that what
a missing store holds is lost.

This is so in each state of a space in paged mode, for memories of any size, while others use the
memories as well.
-/

namespace VirtualMemory

open MemoryBacked

namespace Space

variable {c : Config} {ω : Type} [MemoryBacked ω] {s s' : Space c × ω} {stores : Stores}

/-! ### States that arise -/

/-- The states of a space beside memories that others use as well: between commands, which may be
given with any stores, bytes may change and numbers may be taken out of the free ones, or given
back if their memory takes them back. -/
inductive Arises : Space c × ω → Prop
  | new {w : ω} (stocked : (memory w).Stocked) : Arises (Space.new c, w)
  | command {s : Space c × ω} (arises : Arises s) (stores : Stores) (command : Command) :
    Arises (command.run stores s).state
  | others {s : Space c} {w w' : ω} (arises : Arises (s, w))
      (shape : (memory w).SameShape (memory w')) (stocked : (memory w').Stocked) :
    Arises (s, w')

theorem robust_housed :
  Command.Robust (c := c) (ω := ω) Paging.Housed stores
  := by
  constructor
  · constructor
    · intro page
      constructor
      intro t housed
      apply Paging.resolve_ends.housed housed
    · intro start stop
      constructor
      intro t housed
      apply Paging.mapAddresses_ends.housed housed
    · intro address
      constructor
      rintro ⟨p, w⟩ housed
      rw [Op.access, Op.onSecond, Op.run_ofAccess]
      apply housed.of_memory memory_readByte
  · intro address value
    constructor
    rintro ⟨p, w⟩ housed
    rw [Op.access, Op.onSecond, Op.run_ofAccess]
    apply housed.write (sameBut_writeByte (Prod.eta (Backing.writeByte .ram address value w)).symm)
  · intro frame slot
    constructor
    rintro ⟨p, w⟩ housed
    rw [Op.access, Op.onSecond, Op.run_ofAccess]
    apply housed.write
      (sameBut_copyPage (Prod.eta (copyPage c.pageSize .ram frame .swap slot w)).symm)
  · intro page below
    constructor
    rintro ⟨p, w⟩ housed
    rw [Paging.run_markDirty]
    split
    · next resident =>
        obtain ⟨frame, place⟩ := Entry.isResident_iff.mp resident
        apply housed.setEntry
        · rw [Entry.place?_withDirty]
          apply place
        · apply housed.starts_of_place place
    · apply housed

/-- A command leaves every number where its memory takes it back. -/
theorem housed_run {command : Command} (housed : Paging.Housed (s.1.paging, s.2)) :
  Paging.Housed ((command.run stores s).state.1.paging, (command.run stores s).state.2)
  := by
  by_cases release : command = .release
  · subst release
    rw [Command.state_run_release]
    apply Paging.releaseAll_ends.housed housed
  · apply (robust_housed.run release).state s housed

theorem Arises.housed (h : Arises s) :
  Paging.Housed (s.1.paging, s.2)
  := by
  induction h with
  | new stocked => apply Paging.housed_empty stocked
  | command arises stores command ih => apply housed_run ih
  | others arises shape stocked ih => apply ih.of_sameShape shape stocked

end Space

/-! ### The release -/

namespace Caller

variable {c : Config} {ω : Type} [MemoryBacked ω] {s : Space c × ω} {caller : Caller}

/-- The release of all pages gives everything back, or is refused before anything changes.

* If it succeeds the answer is the number of pages that were mapped, no page is mapped any more,
  and the frame or slot of each one is free.
* Otherwise the caller lacks the space, or the store that holds a page, and this is the answer. -/
def GivesBack (caller : Caller) (s : Space c × ω) : Prop :=
  ((caller.release s).answer =
      .ok (Set.ncard {page | page < pageLimit ∧ (s.1.paging.entry page).isPresent = true}) ∧
    (caller.release s).state.1.paging = Paging.empty c ∧
    ∀ page x, (s.1.paging.entry page).place? = some x →
      x.2 ∈ (memory (caller.release s).state.2 x.1).free) ∨
  ((caller.release s).answer = .error .invalidContext ∧ (caller.release s).state = s ∧
    (caller.hasSpace = true →
      ∃ page x, (s.1.paging.entry page).place? = some x ∧ caller.stores.has x.1 = false))

/-- Some page is in a place that the release does not give back and that nobody else has given
back either: its store is missing, or it is slot zero, as which a slot is entered whose low bits
are zero. -/
def Strands (caller : Caller) (s : Space c × ω) : Prop :=
  ∃ page x, (s.1.paging.entry page).place? = some x ∧ x.2 ∉ (memory s.2 x.1).free ∧
    (caller.stores.has x.1 = false ∨ x.2 = 0)

/-- Without the space the release is refused. -/
theorem release_of_not_hasSpace (lacks : caller.hasSpace = false) :
  (caller.release s).answer = .error .invalidContext ∧ (caller.release s).state = s
  := by
  have refused : (caller.release : Op (Space c × ω) Nat) s = ⟨.error .invalidContext, s, []⟩ := by
    rw [release, requireSpace, lacks]
    rfl
  rw [refused]
  constructor
  · rfl
  · rfl

/-- With the space all pages are released, whatever stores are brought. -/
theorem release_of_hasSpace (has : caller.hasSpace = true) :
  (caller.release s).answer = (Paging.releaseAll caller.stores (s.1.paging, s.2)).answer ∧
  (caller.release s).state =
    (⟨s.1.areas, s.1.handles,
      (Paging.releaseAll caller.stores (s.1.paging, s.2)).state.1⟩,
      (Paging.releaseAll caller.stores (s.1.paging, s.2)).state.2)
  := by
  apply Op.ends_iff_answer (P := fun answer s' => answer = _ ∧ s' = _).mp
  simp only [release, requireSpace, has, if_true, Space.releasePages, Op.ends_bind, Op.ends_pure,
    Command.ends_onPaging, Op.ends_emit]
  apply Op.ends_iff_answer (P := fun answer (t : Paging c × ω) => answer = _ ∧
    ((⟨s.1.areas, s.1.handles, t.1⟩, t.2) : Space c × ω) = _).mpr
  constructor
  · rfl
  · rfl

/-- What the release does: it answers with the number of pages that were mapped, none is mapped any
more, and the places in the stores that are brought are free, but for slot zero. -/
theorem release_ends (has : caller.hasSpace = true) (mode : c.mode = .paged)
    (arises : Space.Arises s) :
  (caller.release s).answer =
      .ok (Set.ncard {page | page < pageLimit ∧ (s.1.paging.entry page).isPresent = true}) ∧
    (caller.release s).state.1.paging = Paging.empty c ∧
    ∀ x : Place, x.2 ∈ (memory (caller.release s).state.2 x.1).free ↔
      x.2 ∈ (memory s.2 x.1).free ∨
      (∃ page, (s.1.paging.entry page).place? = some x) ∧ caller.stores.has x.1 = true ∧ x.2 ≠ 0
  := by
  have ends : Paging.Release caller.stores (s.1.paging, s.2) _ _ := Paging.releaseAll_ends
  obtain ⟨answer, state⟩ := release_of_hasSpace (s := s) has
  rw [answer, state]
  apply ends.returned mode arises.housed

/-- The release of all pages gives back every place, or is refused, exactly if no page is in a
place that is stranded. -/
theorem givesBack_iff (mode : c.mode = .paged) (arises : Space.Arises s) :
  caller.GivesBack s ↔ ¬ (caller.hasSpace = true ∧ caller.Strands s)
  := by
  rcases has : caller.hasSpace with - | -
  · obtain ⟨answer, state⟩ := release_of_not_hasSpace (s := s) has
    simp only [Bool.false_eq_true, false_and, not_false_eq_true, iff_true]
    right
    use answer, state
    rw [has]
    rintro ⟨⟩
  · obtain ⟨answer, emptied, mem_iff⟩ := release_ends has mode arises
    simp only [true_and]
    constructor
    · rintro (⟨-, -, returned⟩ | ⟨refused, -⟩)
      · rintro ⟨page, x, place, used, lost⟩
        rcases (mem_iff x).mp (returned page x place) with mem | ⟨-, brought, ne⟩
        · exact used mem
        · rcases lost with missing | zero
          · rw [missing] at brought
            cases brought
          · exact ne zero
      · rw [answer] at refused
        cases refused
    · intro all
      left
      use answer, emptied
      intro page x place
      rw [mem_iff]
      by_cases used : x.2 ∈ (memory s.2 x.1).free
      · left
        apply used
      · right
        constructor
        · use page
        constructor
        · by_contra missing
          rw [Bool.not_eq_true] at missing
          exact all ⟨page, x, place, used, Or.inl missing⟩
        · intro zero
          exact all ⟨page, x, place, used, Or.inr zero⟩

/-- The pages that are listed decide whether one is stranded. -/
theorem strands_iff (arises : Space.Arises s) :
  caller.Strands s ↔ ∃ e ∈ s.1.paging.table.entries, ∃ x ∈ e.2.place?,
    x.2 ∉ (memory s.2 x.1).free ∧ (caller.stores.has x.1 = false ∨ x.2 = 0)
  := by
  have listed := fun x => Paging.exists_mem_entries_iff arises.housed.wellFormed (x := x)
  constructor
  · rintro ⟨page, x, place, rest⟩
    obtain ⟨e, mem, place'⟩ := (listed x).mpr ⟨page, place⟩
    use e, mem, x, place'
  · rintro ⟨e, mem, x, place', rest⟩
    obtain ⟨page, place⟩ := (listed x).mp ⟨e, mem, place'⟩
    use page, x

/-- A space of four pages beside two memories with four frames, after a byte was written. -/
def written : Space Config.small × Memories :=
  ((Command.write 0 0 7).run {}
    ((Command.allocate 0 2).run {} (Space.new Config.small, fun _ => .zeroed 8 2)).state).state

/-- The page that was written is given back if both stores are brought, but not without the main
store. -/
theorem givesBack_written :
  GivesBack { pid := 1 } written ∧ ¬ GivesBack { pid := 1, stores := { ram := false } } written
  := by
  have arises : Space.Arises written := by
    apply Space.Arises.command
    apply Space.Arises.command
    apply Space.Arises.new
    rintro ⟨device, n⟩ mem
    obtain ⟨pos, lt⟩ := List.mem_range'_1.mp mem
    use Nat.ne_of_gt pos
    show n * 2 < (Array.replicate 8 (0 : UInt8)).size
    have four : Memory.framesIn 8 2 = 4 := rfl
    simp only [Array.size_replicate]
    omega
  constructor
  · rw [givesBack_iff rfl arises, strands_iff arises]
    decide
  · rw [givesBack_iff rfl arises, strands_iff arises]
    decide

end Caller

end VirtualMemory
