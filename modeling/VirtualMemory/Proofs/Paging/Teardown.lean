import VirtualMemory.Proofs.Paging.Contents

/-!
# The release of all pages

When all pages are released, the frames and slots in the stores that the caller brings are free
again, and those in a store that is missing are lost: nobody gives them back.  No byte of the
memories changes.
-/

namespace VirtualMemory.Paging

open Backing MemoryBacked

variable {c : Config} {ω : Type} [MemoryBacked ω] {out : Set Place} {stores : Stores}
variable {w : ω} {s s' : Paging c × ω} {size : Nat}

/-- The place of one page is given back, or lost if its store is missing. -/
theorem custody_giveBack (stores : Stores) {f : Nat → Option Place} (page : Nat)
    (custody : Custody out f size (memory w)) :
  ∃ lost : Set Place, (∀ x ∈ lost, stores.has x.1 = false ∧ f page = some x) ∧
    Custody (out ∪ lost) (Function.update f page none) size
      (memory (giveBack stores (f page) w)) ∧
    ∀ device, (memory (giveBack stores (f page) w) device).bytes = (memory w device).bytes
  := by
  rcases place : f page with - | ⟨device, frame⟩
  · use ∅
    constructor
    · intro x mem
      apply absurd mem (Set.notMem_empty x)
    constructor
    · rw [Set.union_empty, ← place, Function.update_eq_self, place]
      apply custody
    · intro _
      rfl
  · obtain ⟨fresh, custody'⟩ := custody.vacate place
    rw [giveBack]
    rcases has : stores.has device with - | -
    · use {(device, frame)}
      constructor
      · intro x mem
        rw [Set.mem_singleton_iff.mp mem]
        constructor
        · apply has
        · rfl
      constructor
      · rw [Set.union_singleton]
        apply custody'
      · intro _
        rfl
    · have eq := memory_releaseFrame_of_isFrame (custody.isFrame (.page page) _ place)
        (custody.not_free_of_place place)
      use ∅
      simp only [if_true]
      rw [Set.union_empty, eq]
      constructor
      · intro x mem
        apply absurd mem (Set.notMem_empty x)
      use custody'.release fresh
      intro d
      apply Memories.bytes_withFree

/-- The places of different pages are given back one after the other. -/
theorem custody_giveBack_all (stores : Stores) {entries : List (Nat × Entry)}
    {f : Nat → Option Place}
    (custody : Custody out f size (memory w)) (distinct : entries.Pairwise (·.1 < ·.1))
    (listed : ∀ e ∈ entries, f e.1 = e.2.place?) :
  ∃ lost : Set Place, (∀ x ∈ lost, stores.has x.1 = false ∧ ∃ page, f page = some x) ∧
    Custody (out ∪ lost) (fun page => if page ∈ entries.map Prod.fst then none else f page) size
      (memory (entries.foldl (fun w e => giveBack stores e.2.place? w) w)) ∧
    ∀ device, (memory (entries.foldl (fun w e => giveBack stores e.2.place? w) w) device).bytes =
      (memory w device).bytes
  := by
  induction entries generalizing out f w with
  | nil =>
      use ∅
      constructor
      · intro x mem
        apply absurd mem (Set.notMem_empty x)
      constructor
      · rw [Set.union_empty]
        apply custody
      · intro _
        rfl
  | cons e rest ih =>
      obtain ⟨smaller, distinct'⟩ := List.pairwise_cons.mp distinct
      obtain ⟨lost, hlost, custody', bytes⟩ :=
        custody_giveBack stores e.1 custody
      rw [listed e List.mem_cons_self] at custody' bytes
      have listed' : ∀ e' ∈ rest, Function.update f e.1 none e'.1 = e'.2.place? := by
        intro e' mem
        rw [Function.update_of_ne (Nat.ne_of_gt (smaller e' mem))]
        apply listed e' (List.mem_cons_of_mem _ mem)
      obtain ⟨lost', hlost', custody'', bytes'⟩ := ih custody' distinct' listed'
      use lost ∪ lost'
      constructor
      · rintro x (mem | mem)
        · obtain ⟨has, place⟩ := hlost x mem
          use has, e.1
        · obtain ⟨has, page, place⟩ := hlost' x mem
          use has, page
          rw [Function.update_apply] at place
          split at place
          · cases place
          · apply place
      constructor
      · have emptied : (fun page => if page ∈ (e :: rest).map Prod.fst then none else f page)
            = fun page =>
              if page ∈ rest.map Prod.fst then none else Function.update f e.1 none page
          := by
          funext page
          by_cases eq : page = e.1
          · simp [eq]
          · rw [Function.update_of_ne eq, List.map_cons]
            simp only [List.mem_cons, eq, false_or]
        rw [emptied, ← Set.union_assoc]
        apply custody''
      · intro d
        rw [List.foldl_cons, bytes', bytes]

/-- Places are lost if their store is missing.  The pages that have no place are those that are not
listed. -/
theorem Release.keeps {answer : Except Error Nat} (h : Release stores s answer s')
    (mode : c.mode = .paged) (g : Guarded out s) :
  ∃ lost : Set Place,
    (∀ x ∈ lost, stores.has x.1 = false ∧ ∃ page, s.1.places page = some x) ∧
    Guarded (out ∪ lost) s' ∧ s'.1 = empty c ∧
    ∀ device, (memory s'.2 device).bytes = (memory s.2 device).bytes
  := by
  cases h with
  | identity mode' =>
      rw [mode] at mode'
      cases mode'
  | @released p w mode =>
      have wellFormed := g.agreement.wellFormed
      have listed : ∀ e ∈ p.table.entries, p.places e.1 = e.2.place? := by
        rintro ⟨page, e⟩ mem
        obtain ⟨hp, -, entry_eq⟩ := wellFormed.mem_entries.mp mem
        rw [places_of_lt hp, entry, entry_eq]
      obtain ⟨lost, hlost, custody, bytes⟩ :=
        custody_giveBack_all stores g.custody wellFormed.pairwise_entries listed
      have emptied : (fun page => if page ∈ p.table.entries.map Prod.fst then none
          else p.places page) = (empty c).places
        := by
        rw [places_empty]
        funext page
        by_cases mem : page ∈ p.table.entries.map Prod.fst
        · rw [if_pos mem]
        · rw [if_neg mem, places]
          by_cases hp : page < pageLimit
          · rw [if_pos hp]
            have none : p.entry page = .empty := by
              by_contra ne
              apply mem
              apply List.mem_map.mpr ⟨(page, p.entry page), _, rfl⟩
              apply wellFormed.mem_entries.mpr ⟨hp, ne, rfl⟩
            rw [none, Entry.place?_empty]
          · rw [if_neg hp]
      rw [emptied] at custody
      use lost, hlost
      constructor
      · constructor
        · apply agreement_empty
        · apply custody
      constructor
      · rfl
      · apply bytes

end VirtualMemory.Paging
