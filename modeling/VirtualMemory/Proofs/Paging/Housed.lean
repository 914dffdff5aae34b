import VirtualMemory.Proofs.Paging.Agreement
import VirtualMemory.Proofs.Store.Backed
import Mathlib.Data.Set.Card

/-!
# Places are taken back by their memories

A memory takes a number back as a free frame if the number is not zero and its frame starts
inside the memory.  Only such numbers are free, and the number in an entry starts inside too: a
frame was handed out by its memory, and a slot whose high bits do not fit into its entry becomes
a smaller one.  This holds for every configuration and all sizes of memories and of their
frames, whether pages and frames have the same size or not, and it is kept by whatever else takes
frames from the memories, gives frames back or writes bytes.
-/

namespace VirtualMemory

open Backing MemoryBacked

namespace Memories

variable {m m' : Memories} {x : Place}

/-- The frame of a number starts inside its memory. -/
def Starts (m : Memories) (x : Place) : Prop := x.2 * (m x.1).frameSize < (m x.1).size

/-- Only numbers are free that the memory takes back. -/
def Stocked (m : Memories) : Prop := ∀ x : Place, x.2 ∈ (m x.1).free → x.2 ≠ 0 ∧ m.Starts x

/-- Sizes and frames of memories are the same. -/
structure SameShape (m m' : Memories) : Prop where
  frameSize : ∀ device, (m' device).frameSize = (m device).frameSize
  size : ∀ device, (m' device).size = (m device).size

theorem SameShape.starts_iff (h : m.SameShape m') :
  m'.Starts x ↔ m.Starts x
  := by
  rw [Starts, Starts, h.frameSize, h.size]

/-- A smaller number starts inside as well. -/
theorem Starts.of_le {device : Device} {n k : Nat} (h : m.Starts (device, n)) (le : k ≤ n) :
  m.Starts (device, k)
  := lt_of_le_of_lt (Nat.mul_le_mul_right _ le) h

theorem SameBut.sameShape {touched : Device → Nat → Prop} (h : SameBut touched m m') :
  m.SameShape m'
  := ⟨h.frameSize, h.size⟩

theorem Stocked.of_sameBut {touched : Device → Nat → Prop} (h : m.Stocked)
    (same : SameBut touched m m') :
  m'.Stocked
  := by
  intro x mem
  rw [same.sameShape.starts_iff]
  rw [same.free] at mem
  apply h x mem

theorem sameShape_withFree {device : Device} {free : List Nat} :
  m.SameShape (m.withFree device free)
  := ⟨fun _ => frameSize_withFree, fun _ => size_withFree⟩

/-- A number that is given back is free if the memory takes it back. -/
theorem mem_free_releaseFrame :
  let m' := Function.update m x.1 ((m x.1).releaseFrame x.2)
  m.SameShape m' ∧
  ∀ y : Place, y.2 ∈ (m' y.1).free ↔ y.2 ∈ (m y.1).free ∨ y = x ∧ x.2 ≠ 0 ∧ m.Starts x
  := by
  have shape : m.SameShape (Function.update m x.1 ((m x.1).releaseFrame x.2)) := by
    constructor
    · intro d
      rw [Function.update_apply]
      split
      · next eq => rw [Memory.frameSize_releaseFrame, eq]
      · rfl
    · intro d
      rw [Function.update_apply]
      split
      · next eq => rw [Memory.size, Memory.bytes_releaseFrame, eq, Memory.size]
      · rfl
  use shape
  rintro ⟨device, n⟩
  by_cases eq : device = x.1
  · subst eq
    simp only [Function.update_self, Memory.free_releaseFrame, Starts, Prod.ext_iff, true_and]
    rw [← Memory.size]
    split
    · next ignored =>
        use Or.inl
        rintro (free | ⟨rfl, nonzero, starts⟩)
        · apply free
        · rcases ignored with zero | beyond | free
          · apply absurd zero nonzero
          · apply absurd starts (Nat.not_lt_of_le beyond)
          · apply free
    · next kept =>
        rw [not_or, not_or, Nat.not_le] at kept
        obtain ⟨nonzero, starts, -⟩ := kept
        rw [List.mem_append, List.mem_singleton]
        constructor
        · rintro (free | rfl)
          · apply Or.inl free
          · apply Or.inr ⟨rfl, nonzero, starts⟩
        · rintro (free | ⟨rfl, -⟩)
          · apply Or.inl free
          · apply Or.inr rfl
  · simp [Prod.ext_iff, eq]

end Memories

namespace Paging

variable {c : Config} {ω : Type} [MemoryBacked ω] {p : Paging c} {w w' : ω}
variable {s s' : Paging c × ω} {page frame slot : Nat} {device : Device} {e : Entry}
variable {stores : Stores} {answer : Except Error Nat}

/-- The page table is well formed, only numbers are free that their memories take back, and an
entry that is not empty holds a number whose frame starts inside its memory. -/
structure Housed (s : Paging c × ω) : Prop where
  wellFormed : s.1.table.WellFormed
  stocked : (memory s.2).Stocked
  placed : ∀ page, s.1.entry page = .empty ∨
    ∃ x, (s.1.entry page).place? = some x ∧ (memory s.2).Starts x

namespace Housed

/-- Memories of the same shape may take the place of others, however they were filled. -/
theorem of_sameShape (h : Housed (p, w)) (shape : (memory w).SameShape (memory w'))
    (stocked : (memory w').Stocked) :
  Housed (p, w')
  := by
  use h.wellFormed, stocked
  intro page
  rcases h.placed page with empty | ⟨x, place, starts⟩
  · left
    apply empty
  · right
    use x, place
    apply shape.starts_iff.mpr starts

theorem of_memory (h : Housed (p, w)) (eq : memory w' = memory w) :
  Housed (p, w')
  := by
  apply h.of_sameShape
  · rw [eq]
    constructor
    · intro _
      rfl
    · intro _
      rfl
  · rw [eq]
    apply h.stocked

theorem write (h : Housed (p, w)) {touched : Device → Nat → Prop}
    (same : Memories.SameBut touched (memory w) (memory w')) :
  Housed (p, w')
  := h.of_sameShape same.sameShape (h.stocked.of_sameBut same)

/-- A number that is handed out starts inside its memory. -/
theorem acquire (h : Housed (p, w)) (acquired : acquireFrame device w = (.ok frame, w')) :
  Housed (p, w') ∧ (memory w').Starts (device, frame)
  := by
  obtain ⟨rest, free, eq⟩ := memory_acquireFrame_of_ok acquired
  have shape : (memory w).SameShape (memory w') := by
    rw [eq]
    apply Memories.sameShape_withFree
  have stocked : (memory w').Stocked := by
    intro x mem
    rw [shape.starts_iff]
    apply h.stocked x
    rw [eq, Memories.free_withFree] at mem
    split at mem
    · next same =>
        rw [same, free]
        apply List.mem_cons_of_mem _ mem
    · apply mem
  use h.of_sameShape shape stocked
  rw [shape.starts_iff]
  apply (h.stocked (device, frame) _).2
  rw [free]
  apply List.mem_cons_self

/-- Whatever number is given back. -/
theorem release (h : Housed (p, w)) :
  Housed (p, releaseFrame device frame w)
  := by
  obtain ⟨shape, mem_iff⟩ := Memories.mem_free_releaseFrame (m := memory w) (x := (device, frame))
  rw [← memory_releaseFrame] at shape mem_iff
  apply h.of_sameShape shape
  intro x mem
  rw [shape.starts_iff]
  rcases (mem_iff x).mp mem with mem | ⟨rfl, ne, starts⟩
  · apply h.stocked x mem
  · use ne, starts

/-- An entry is set whose number starts inside its memory. -/
theorem setEntry (h : Housed (p, w)) {x : Place} (place : e.place? = some x)
    (starts : (memory w).Starts x) :
  Housed (p.setEntry page e, w)
  := by
  use h.wellFormed.set, h.stocked
  intro other
  rw [entry_setEntry_mod]
  split
  · right
    use x
  · apply h.placed other

theorem clear (h : Housed (p, w)) :
  Housed ((p.clearEntry page).unlist page, w)
  := by
  use h.wellFormed.clear, h.stocked
  intro other
  rw [entry_unlist, entry_clearEntry_mod]
  split
  · left
    rfl
  · apply h.placed other

/-- Which pages are listed as resident does not matter. -/
theorem of_table {p' : Paging c} (h : Housed (p, w)) (eq : p'.table = p.table) :
  Housed (p', w)
  := by
  obtain ⟨table, residency⟩ := p'
  obtain rfl : table = p.table := eq
  use h.wellFormed, h.stocked
  apply h.placed

/-- A page is made resident in a frame that starts inside its memory. -/
theorem install (h : Housed (p, w)) (fit : Entry.resident? frame = some e)
    (starts : (memory w).Starts (.ram, frame)) :
  Housed (p.install page e, w)
  := (h.setEntry (Entry.place?_resident? fit) starts).of_table rfl

/-- An entry with a place holds a number that starts inside its memory. -/
theorem starts_of_place (h : Housed s) {x : Place} (place : (s.1.entry page).place? = some x) :
  (memory s.2).Starts x
  := by
  rcases h.placed page with empty | ⟨y, place', starts⟩
  · rw [empty] at place
    cases place
  · cases place.symm.trans place'
    apply starts

/-- A page whose entry is not empty has a place. -/
theorem isPresent_iff (h : Housed s) :
  (s.1.entry page).isPresent = true ↔ s.1.entry page ≠ .empty
  := by
  rcases h.placed page with empty | ⟨x, place, starts⟩
  · simp only [empty, ne_eq, not_true_eq_false, iff_false]
    decide
  · constructor
    · intro present empty
      rw [empty] at place
      cases place
    · intro _
      rw [← Entry.isSome_place?, place]
      rfl

end Housed

/-! ### Faults -/

theorem Eviction.housed (h : Eviction stores s answer s') (t : Housed s) :
  Housed s' ∧ ∀ frame, answer = .ok frame → (memory s'.2).Starts (.ram, frame)
  := by
  cases h with
  | noStore missing =>
      use t
      nofun
  | noSlot brought acquired =>
      use t.of_memory (memory_acquireFrame_of_error acquired)
      nofun
  | noVictim brought acquired idle =>
      use (t.acquire acquired).1.release
      nofun
  | homeless brought acquired oldest home =>
      use (t.acquire acquired).1.release.of_table rfl
      nofun
  | uncopied brought acquired oldest home copied =>
      have t' := (t.acquire acquired).1.write (sameBut_copyPage copied)
      use t'.release.of_table rfl
      nofun
  | @evicted p w w' w'' slot victim frame rest brought acquired oldest home copied =>
      obtain ⟨t', starts⟩ := t.acquire acquired
      have shape := (sameBut_copyPage copied).sameShape
      have t'' := t'.write (sameBut_copyPage copied)
      constructor
      · have listed : Housed (({ p with residency := ⟨rest⟩ } : Paging c), w'') := t''.of_table rfl
        apply listed.setEntry Entry.place?_ofSwap_mod
        apply (shape.starts_iff.mpr starts).of_le (Nat.mod_le _ _)
      · rintro _ ⟨⟩
        apply t''.starts_of_place (Entry.frame?_eq_some_iff.mp home)

theorem Obtaining.housed (h : Obtaining stores s answer s') (t : Housed s) :
  Housed s' ∧ ∀ frame, answer = .ok frame → (memory s'.2).Starts (.ram, frame)
  := by
  cases h with
  | noStore missing =>
      use t
      nofun
  | free brought acquired =>
      obtain ⟨t', starts⟩ := t.acquire acquired
      use t'
      rintro _ ⟨⟩
      apply starts
  | refused brought acquired other =>
      use t.of_memory (memory_acquireFrame_of_error acquired)
      nofun
  | full brought acquired eviction =>
      apply eviction.housed (t.of_memory (memory_acquireFrame_of_error acquired))

theorem Mapping.housed (h : Mapping stores page s answer s') (t : Housed s) :
  Housed s'
  := by
  cases h with
  | noFrame obtaining => apply (obtaining.housed t).1
  | rejected obtaining unfit => apply (obtaining.housed t).1.release
  | uncleared obtaining cleared =>
      apply ((obtaining.housed t).1.write (sameBut_clearFrame cleared)).release
  | mapped obtaining fit cleared =>
      obtain ⟨t', starts⟩ := obtaining.housed t
      have same := sameBut_clearFrame cleared
      apply (t'.write same).install fit
      apply same.sameShape.starts_iff.mpr (starts _ rfl)

theorem Return.housed (h : Return stores page slot s answer s') (t : Housed s) :
  Housed s'
  := by
  cases h with
  | noStore missing => apply t
  | noFrame obtaining => apply (obtaining.housed t).1
  | uncopied brought obtaining copied =>
      apply ((obtaining.housed t).1.write (sameBut_copyPage copied)).release
  | rejected brought obtaining copied unfit =>
      apply ((obtaining.housed t).1.write (sameBut_copyPage copied)).release
  | returned brought obtaining copied fit =>
      obtain ⟨t', starts⟩ := obtaining.housed t
      have same := sameBut_copyPage copied
      apply Housed.release
      apply (t'.write same).install fit
      apply same.sameShape.starts_iff.mpr (starts _ rfl)

theorem Resolution.housed (h : Resolution stores page s answer s') (t : Housed s) :
  Housed s'
  := by
  cases h with
  | beyond above => apply t
  | identity below mode => apply t
  | resident below mode place => apply t
  | swapped below mode place fault => apply fault.housed t
  | unmapped below mode place fault => apply fault.housed t

/-! ### Giving places back -/

/-- A place is free after it was given back to its store, if the store is brought and takes the
number back. -/
theorem mem_free_giveBack (stores : Stores) {x : Option Place} :
  (memory w).SameShape (memory (giveBack stores x w)) ∧
  ∀ y : Place, y.2 ∈ (memory (giveBack stores x w) y.1).free ↔ y.2 ∈ (memory w y.1).free ∨
    x = some y ∧ stores.has y.1 = true ∧ y.2 ≠ 0 ∧ (memory w).Starts y
  := by
  rcases x with - | x
  · constructor
    · constructor
      · intro _
        rfl
      · intro _
        rfl
    · intro y
      simp [giveBack]
  · obtain ⟨shape, mem_iff⟩ := Memories.mem_free_releaseFrame (m := memory w) (x := x)
    rw [← memory_releaseFrame] at shape mem_iff
    rw [giveBack]
    split
    · next has =>
        use shape
        intro y
        rw [mem_iff]
        constructor
        · rintro (mem | ⟨rfl, ne, starts⟩)
          · exact Or.inl mem
          · exact Or.inr ⟨rfl, has, ne, starts⟩
        · rintro (mem | ⟨⟨⟩, -, ne, starts⟩)
          · exact Or.inl mem
          · exact Or.inr ⟨rfl, ne, starts⟩
    · next missing =>
        constructor
        · constructor
          · intro _
            rfl
          · intro _
            rfl
        · intro y
          use Or.inl
          rintro (mem | ⟨⟨⟩, has, -⟩)
          · apply mem
          · exact absurd has missing

/-- The places that are free after all entries of a list were given back. -/
theorem mem_free_giveBack_all {entries : List (Nat × Entry)} {y : Place} :
  y.2 ∈ (memory (entries.foldl (fun w e => giveBack stores e.2.place? w) w) y.1).free ↔
    y.2 ∈ (memory w y.1).free ∨ (∃ e ∈ entries, e.2.place? = some y) ∧ stores.has y.1 = true ∧
      y.2 ≠ 0 ∧ (memory w).Starts y
  := by
  induction entries generalizing w with
  | nil => simp
  | cons e rest ih =>
      obtain ⟨shape, mem_iff⟩ := mem_free_giveBack stores (w := w) (x := e.2.place?)
      rw [List.foldl_cons, ih, mem_iff, shape.starts_iff]
      simp only [List.exists_mem_cons_iff]
      tauto

theorem Housed.giveBack (t : Housed (p, w)) (x : Option Place) :
  Housed (p, giveBack stores x w)
  := by
  rcases x with - | ⟨device, frame⟩
  · apply t
  · rw [Paging.giveBack]
    split
    · apply t.release
    · apply t

/-! ### Ranges of pages -/

theorem housed_withdraw {pages : List Nat} (t : Housed s) :
  Housed (pages.foldl (withdraw stores) s)
  := by
  induction pages generalizing s with
  | nil => apply t
  | cons page rest ih =>
      apply ih
      apply t.clear.giveBack

theorem Progress.housed {count : Nat} {mapped : List Nat} {answer : Except Error Unit}
    (h : Progress stores count page mapped s answer s') (t : Housed s) :
  Housed s'
  := by
  induction h with
  | done => apply t
  | skipped present rest ih => apply ih t
  | undone absent mapping => apply housed_withdraw (mapping.housed t)
  | mapped absent mapping rest ih => apply ih (mapping.housed t)

theorem RangeMapping.housed {start stop : Nat} {answer : Except Error Unit}
    (h : RangeMapping stores start stop s answer s') (t : Housed s) :
  Housed s'
  := by
  cases h with
  | nothing none => apply t
  | beyond some above => apply t
  | identity some below mode => apply t
  | paged some below mode progress => apply progress.housed t

/-! ### The release of all pages -/

theorem housed_empty (stocked : (memory w).Stocked) :
  Housed (empty c, w)
  := ⟨PageTable.wellFormed_empty, stocked, fun _ => Or.inl rfl⟩

theorem Release.housed (h : Release stores s answer s') (t : Housed s) :
  Housed s'
  := by
  cases h with
  | identity mode => apply t
  | @released p w mode =>
      have given : Housed
          (p, p.table.entries.foldl (fun w e => Paging.giveBack stores e.2.place? w) w)
        := by
        generalize p.table.entries = entries
        induction entries generalizing w with
        | nil => apply t
        | cons e rest ih =>
            apply ih
            apply t.giveBack
      apply housed_empty given.stocked

/-- A page has a place exactly if the entry of some page that is listed has it. -/
theorem exists_mem_entries_iff (wellFormed : p.table.WellFormed) {x : Place} :
  (∃ e ∈ p.table.entries, e.2.place? = some x) ↔ ∃ page, (p.entry page).place? = some x
  := by
  constructor
  · rintro ⟨⟨page, e⟩, mem, place⟩
    obtain ⟨-, -, rfl⟩ := wellFormed.mem_entries.mp mem
    use page
    apply place
  · rintro ⟨page, place⟩
    use (page % pageLimit, p.entry page)
    constructor
    · apply wellFormed.mem_entries.mpr
      constructor
      · apply Nat.mod_lt _ (by decide)
      constructor
      · intro empty
        rw [empty] at place
        cases place
      · apply PageTable.entry_mod
    · apply place

/-- As many entries are listed as pages are mapped. -/
theorem Housed.length_entries (t : Housed s) :
  s.1.table.entries.length =
    Set.ncard {page | page < pageLimit ∧ (s.1.entry page).isPresent = true}
  := by
  have distinct : (s.1.table.entries.map Prod.fst).Nodup := by
    apply List.pairwise_map.mpr
    apply t.wellFormed.pairwise_entries.imp
    intro a b lt
    apply Nat.ne_of_lt lt
  have listed : {page | page < pageLimit ∧ (s.1.entry page).isPresent = true} =
      ((s.1.table.entries.map Prod.fst).toFinset : Set Nat)
    := by
    ext page
    rw [List.coe_toFinset, Set.mem_ofPred_eq, Set.mem_ofPred_eq, List.mem_map, t.isPresent_iff]
    constructor
    · rintro ⟨below, ne⟩
      use (page, s.1.entry page)
      constructor
      · apply t.wellFormed.mem_entries.mpr ⟨below, ne, rfl⟩
      · rfl
    · rintro ⟨⟨page, e⟩, mem, rfl⟩
      obtain ⟨below, ne, rfl⟩ := t.wellFormed.mem_entries.mp mem
      use below
      apply ne
  rw [listed, Set.ncard_coe_finset, List.toFinset_card_of_nodup distinct, List.length_map]

/-- The release of all pages answers with the number of pages that were mapped and leaves none;
the places in the stores that are brought are free afterwards, but for slot zero, and nothing
else becomes free. -/
theorem Release.returned (h : Release stores s answer s') (mode : c.mode = .paged)
    (t : Housed s) :
  answer = .ok (Set.ncard {page | page < pageLimit ∧ (s.1.entry page).isPresent = true}) ∧
  s'.1 = empty c ∧
  ∀ x : Place, x.2 ∈ (memory s'.2 x.1).free ↔ x.2 ∈ (memory s.2 x.1).free ∨
    (∃ page, (s.1.entry page).place? = some x) ∧ stores.has x.1 = true ∧ x.2 ≠ 0
  := by
  cases h with
  | identity mode' =>
      rw [mode] at mode'
      cases mode'
  | @released p w mode =>
      use congrArg Except.ok t.length_entries, rfl
      intro x
      rw [mem_free_giveBack_all, exists_mem_entries_iff t.wellFormed]
      constructor
      · rintro (mem | ⟨held, has, ne, -⟩)
        · exact Or.inl mem
        · exact Or.inr ⟨held, has, ne⟩
      · rintro (mem | ⟨⟨page, place⟩, has, ne⟩)
        · exact Or.inl mem
        · exact Or.inr ⟨⟨page, place⟩, has, ne, t.starts_of_place place⟩

end Paging

end VirtualMemory
